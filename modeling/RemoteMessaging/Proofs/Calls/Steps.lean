import RemoteMessaging.Proofs.Calls.Sound

/-!
# What the steps of callers keep

One lemma for each kind of step: winning a permit and giving it up, going to
sleep, storing a link, making and evicting an entry.
-/

namespace RemoteMessaging.Calls

variable {Λ : Type}

namespace Sound

variable {owner : ReferenceId → Address} {calls : Calls Λ}

theorem settle (sound : Sound owner calls) {id : CallerId}
    {caller next : Caller Λ} (found : calls.callers[id]? = some caller)
    {reference : ReferenceId} {content : Option (Issued Λ)}
    (permit : caller.phase.permit? = some (reference, content))
    {state : LinkState} (settled : state ≠ .connecting)
    (idle : state = .idle → content = none)
    (established : state = .established → content.isSome)
    (name : next.id = caller.id) (fits : next.Fits owner calls.cache)
    (free : next.phase.permit? = none) :
    Sound owner { calls.move id next with
      cache := calls.cache.settle reference state
      permits := calls.permits.filter (· ≠ (reference, id)) } := by
  have known : reference < calls.cache.references.length :=
    ((sound.fits id caller found).known reference
      (Caller.Phase.reference?_of_permit? permit)).1
  have holder : (reference, id) ∈ calls.permits :=
    (sound.held reference id).mpr ⟨caller, content, found, permit⟩
  have filled : (calls.cache.reference reference).stored = content :=
    (sound.fits id caller found).content reference content permit
  have nobody : ∀ other,
      (reference, other) ∉ calls.permits.filter (· ≠ (reference, id)) := by
    intro other member
    have member := List.mem_filter.mp member
    obtain rfl := sound.sole reference other id member.1 holder
    simp at member
  have nothing : ∀ other,
      (other, id) ∉ calls.permits.filter (· ≠ (reference, id)) := by
    intro other member
    obtain ⟨content', permit'⟩ :=
      sound.permit_of_mem found (List.mem_filter.mp member).1
    obtain ⟨rfl, -⟩ := Prod.mk.inj (Option.some.inj (permit.symm.trans permit'))
    exact nobody id member
  apply sound.retouch found next name fits known
    ((calls.cache.reference reference).settle state) rfl
  · intro other another different
    simp [different]
  · intro another different
    simp [different]
  · intro other
    simp only [nothing other, free, reduceCtorEq, exists_false]
  · intro one other member
    exact (nobody one member).elim
  · simp only [nobody, exists_false, iff_false]
    exact settled
  · intro isIdle
    exact filled.trans (idle isIdle)
  · intro isEstablished
    have some := established isEstablished
    rwa [← filled] at some
  · intro other _
    apply sound.awake found
    intro reference' phase
    simp [phase, Caller.Phase.permit?] at permit
  · intro sleeper member
    simp [Reference.settle] at member

theorem claim (sound : Sound owner calls) {id : CallerId}
    {caller : Caller Λ} (found : calls.callers[id]? = some caller)
    {reference : ReferenceId} (phase : caller.phase = .claim reference)
    (idle : (calls.cache.reference reference).state = .idle) :
    Sound owner { calls.move id (caller.enterPhase (.connecting reference)) with
      cache := calls.cache.replace reference
        { calls.cache.reference reference with state := .connecting }
      permits := (reference, id) :: calls.permits } := by
  have known := (sound.fits id caller found).known reference
    (by simp [phase, Caller.Phase.reference?])
  have nobody : ∀ other, (reference, other) ∉ calls.permits := by
    intro other member
    have connecting := (sound.connecting reference).mpr ⟨other, member⟩
    simp [idle] at connecting
  have nothing : ∀ other, (other, id) ∉ calls.permits := by
    intro other member
    obtain ⟨content, permit⟩ := sound.permit_of_mem found member
    simp [phase, Caller.Phase.permit?] at permit
  apply sound.retouch found (caller.enterPhase (.connecting reference)) rfl
  · refine ⟨?_, ?_, ?_⟩
    · intro other names
      obtain rfl : reference = other := by
        simpa [Caller.enterPhase, Caller.Phase.reference?] using names
      exact known
    · intro other content permit
      obtain ⟨rfl, rfl⟩ : reference = other ∧ none = content := by
        simpa [Caller.enterPhase, Caller.Phase.permit?] using permit
      exact sound.idle reference idle
    · simp [Caller.enterPhase, Caller.link?]
  · exact known.1
  · rfl
  · intro other holder different
    simp [different]
  · intro holder different
    simp [different]
  · intro other
    simp [nothing other, Caller.enterPhase, Caller.Phase.permit?, eq_comm]
  · intro holder other member member'
    have first : holder = id := by simpa [nobody holder] using member
    have second : other = id := by simpa [nobody other] using member'
    rw [first, second]
  · simp
  · simp
  · simp
  · intro other _
    exact sound.awake found (by simp [phase]) other
  · intro sleeper member
    have connecting := (sound.asleep reference sleeper member).1
    simp [idle] at connecting

theorem sleep (sound : Sound owner calls) {id : CallerId}
    {caller : Caller Λ} (found : calls.callers[id]? = some caller)
    {reference : ReferenceId} (phase : caller.phase = .await reference)
    (connecting : (calls.cache.reference reference).state = .connecting) :
    Sound owner { calls.move id (caller.enterPhase (.asleep reference)) with
      cache := calls.cache.replace reference
        { calls.cache.reference reference with
          sleepers := id :: (calls.cache.reference reference).sleepers }
      permits := calls.permits } := by
  have known := (sound.fits id caller found).known reference
    (by simp [phase, Caller.Phase.reference?])
  have nothing : ∀ other, (other, id) ∉ calls.permits := by
    intro other member
    obtain ⟨content, permit⟩ := sound.permit_of_mem found member
    simp [phase, Caller.Phase.permit?] at permit
  apply sound.retouch found (caller.enterPhase (.asleep reference)) rfl
  · refine ⟨?_, ?_, ?_⟩
    · intro other names
      obtain rfl : reference = other := by
        simpa [Caller.enterPhase, Caller.Phase.reference?] using names
      exact known
    · simp [Caller.enterPhase, Caller.Phase.permit?]
    · simp [Caller.enterPhase, Caller.link?]
  · exact known.1
  · rfl
  · simp
  · simp
  · intro other
    simp [nothing other, Caller.enterPhase, Caller.Phase.permit?]
  · exact sound.sole reference
  · exact sound.connecting reference
  · exact sound.idle reference
  · exact sound.established reference
  · intro other _
    exact sound.awake found (by simp [phase]) other
  · intro sleeper member
    rcases List.mem_cons.mp member with mover | before
    · simp [mover, connecting, Caller.enterPhase]
    · have apart : sleeper ≠ id := by
        intro mover
        exact sound.awake found (by simp [phase]) reference (mover ▸ before)
      exact ⟨connecting, fun _ => before, fun mover => (apart mover).elim⟩

/-- A caller with a permit stores its link.  Its reference is the one that its
address has, so that the address gets a link now. -/
theorem store (sound : Sound owner calls) {id : CallerId}
    {caller : Caller Λ} (found : calls.callers[id]? = some caller)
    {reference : ReferenceId} {link : Λ}
    (phase : caller.phase = .store reference link) :
    Sound owner { calls.move id (caller.enterPhase
        (.publish reference (calls.cache.store reference link).1)) with
      cache := (calls.cache.store reference link).2
      history := calls.history ++ caller.happenings calls.cache } := by
  obtain ⟨known, owned⟩ := (sound.fits id caller found).known reference
    (by simp [phase, Caller.Phase.reference?])
  have empty : (calls.cache.reference reference).stored = none :=
    (sound.fits id caller found).content reference none
      (by simp [phase, Caller.Phase.permit?])
  have holder : (reference, id) ∈ calls.permits :=
    (sound.held reference id).mpr
      ⟨caller, none, found, by simp [phase, Caller.Phase.permit?]⟩
  have connecting := (sound.connecting reference).mpr ⟨id, holder⟩
  have happens : caller.happenings calls.cache =
      [.stored caller.address (calls.cache.store reference link).1] := by
    simp [Caller.happenings, phase, empty]
  rw [happens]
  have here := LinkCache.reference_store_self known empty link
  have elsewhere : ∀ other, other ≠ reference →
      (calls.cache.store reference link).2.reference other =
        calls.cache.reference other := fun other different =>
    LinkCache.reference_store_of_ne calls.cache different link
  have kept : ∀ other link', (calls.cache.reference other).stored = some link' →
      ((calls.cache.store reference link).2.reference other).stored =
        some link' := by
    intro other link' has
    have different : other ≠ reference := by
      intro same
      simp [same, empty] at has
    rw [elsewhere other different]
    exact has
  refine { named := ?_, fits := ?_, entered := ?_, held := ?_
           sole := sound.sole, connecting := ?_, idle := ?_, established := ?_
           asleep := ?_, looked := ?_, tracked := ?_ }
  · exact forall_move found (sound.named id caller found)
      fun other caller' _ => sound.named other caller'
  · refine forall_move found ?_ ?_
    · refine ⟨?_, ?_, ?_⟩
      · intro other names
        obtain rfl : reference = other := by
          simpa [Caller.enterPhase, Caller.Phase.reference?] using names
        exact ⟨by simpa using known, owned⟩
      · intro other content permit
        obtain ⟨rfl, rfl⟩ : reference = other ∧
            some (calls.cache.store reference link).1 = content := by
          simpa [Caller.enterPhase, Caller.Phase.permit?] using permit
        rw [here]
      · simp [Caller.enterPhase, Caller.link?]
    · intro other caller' different found'
      refine (sound.fits other caller' found').transport (by simp) (by simp)
        kept ?_
      intro other' content permit
      have apart : other' ≠ reference := by
        intro same
        subst same
        have member := (sound.held other' other).mpr
          ⟨caller', content, found', permit⟩
        exact different (sound.sole other' other id member holder)
      rw [elsewhere other' apart]
  · simpa using sound.entered
  · intro other holder'
    refine (sound.held other holder').trans ?_
    simp only [getElem?_move found]
    by_cases mover : holder' = id
    · subst mover
      simp [found, phase, Caller.enterPhase, Caller.Phase.permit?]
    · simp [mover]
  · intro other
    by_cases same : other = reference
    · subst same
      rw [here]
      exact sound.connecting other
    · rw [elsewhere other same]
      exact sound.connecting other
  · intro other isIdle
    by_cases same : other = reference
    · subst same
      rw [here] at isIdle
      simp [connecting] at isIdle
    · rw [elsewhere other same] at isIdle ⊢
      exact sound.idle other isIdle
  · intro other isEstablished
    by_cases same : other = reference
    · subst same
      simp [here]
    · rw [elsewhere other same] at isEstablished ⊢
      exact sound.established other isEstablished
  · intro other sleeper member
    have before : sleeper ∈ (calls.cache.reference other).sleepers := by
      by_cases same : other = reference
      · subst same
        rwa [here] at member
      · rwa [elsewhere other same] at member
    obtain ⟨isConnecting, caller', found', asleep⟩ :=
      sound.asleep other sleeper before
    have different : sleeper ≠ id := by
      intro mover
      exact sound.awake found (by simp [phase]) other (mover ▸ before)
    refine ⟨?_, caller', by simp [getElem?_move found, different, found'],
      asleep⟩
    by_cases same : other = reference
    · subst same
      rw [here]
      exact connecting
    · rw [elsewhere other same]
      exact isConnecting
  · intro address link' member
    have earlier : .looked address (some link') ∈ calls.history := by
      simpa using member
    obtain ⟨other, below, owned', has⟩ := sound.looked address link' earlier
    exact ⟨other, by simpa using below, owned', kept other link' has⟩
  · intro whole
    have tracked := sound.tracked (by simpa using whole)
    have entry := tracked.current reference known empty
    refine ⟨?_, ?_, ?_⟩
    · intro other below isEmpty
      have different : other ≠ reference := by
        intro same
        simp [same, here] at isEmpty
      rw [elsewhere other different] at isEmpty
      exact tracked.current other (by simpa using below) isEmpty
    · intro other below
      obtain current | evicted := tracked.kept other (by simpa using below)
      · exact .inl current
      · exact .inr (List.mem_append_left _ evicted)
    · intro address
      have before := tracked.counted address
      by_cases here' : address = caller.address
      · subst here'
        rw [owned] at entry
        have none : calls.cache.get? caller.address = none := by
          simp [LinkCache.get?, entry, empty]
        have some : (calls.cache.store reference link).2.get? caller.address =
            some (calls.cache.store reference link).1 := by
          simp [LinkCache.get?, entry, here]
        simp only [none] at before
        simp [some, List.countP_append, Happening.stores, Happening.evicts,
          before]
      · have links := LinkCache.get?_congr calls.cache
          (calls.cache.store reference link).2 address rfl (by
            intro other entry'
            have apart : other ≠ reference := by
              intro same
              subst same
              have owned' := (sound.entered address other entry').2
              exact here' (owned'.symm.trans owned)
            rw [elsewhere other apart])
        have other : caller.address ≠ address := fun same => here' same.symm
        simpa [links, List.countP_append, Happening.stores, Happening.evicts,
          other] using before

/-- Somebody enters an address.  A reference that is made for it gets the address
as its owner. -/
theorem enter (sound : Sound owner calls) (address : Address) :
    ∃ after : ReferenceId → Address,
      (∀ id < calls.cache.references.length, after id = owner id) ∧
      after (calls.cache.enter address).1 = address ∧
      (calls.cache.enter address).1 <
        (calls.cache.enter address).2.references.length ∧
      Sound after { calls with cache := (calls.cache.enter address).2 } := by
  obtain ⟨id, found, same⟩ | ⟨missing, name, longer⟩ :=
    calls.cache.enter_cases address
  · obtain ⟨below, owned⟩ := sound.entered address id found
    rw [same]
    exact ⟨owner, fun _ _ => rfl, owned, below, sound⟩
  let after : ReferenceId → Address := fun id =>
    if id < calls.cache.references.length then owner id else address
  have earlier : ∀ id < calls.cache.references.length, after id = owner id :=
    fun id below => if_pos below
  have now : after calls.cache.references.length = address :=
    if_neg (Nat.lt_irrefl _)
  have different : ∀ {other id}, calls.cache.find? other = some id →
      other ≠ address := by
    intro other id found same
    simp [same, missing] at found
  have entry := calls.cache.find?_enter_self address
  have entries : ∀ {other}, other ≠ address →
      (calls.cache.enter address).2.find? other = calls.cache.find? other :=
    fun different => calls.cache.find?_enter_of_ne different
  have within : ∀ {id}, id < calls.cache.references.length →
      id < (calls.cache.enter address).2.references.length := by
    intro id below
    omega
  have older : ∀ {id}, id < (calls.cache.enter address).2.references.length →
      id = calls.cache.references.length ∨
        id < calls.cache.references.length := by
    intro id below
    omega
  rw [name] at entry ⊢
  refine ⟨after, earlier, now, longer ▸ Nat.lt_succ_self _, ?_⟩
  refine { sound with fits := ?_, entered := ?_, connecting := ?_, idle := ?_
                      established := ?_, asleep := ?_, looked := ?_
                      tracked := ?_ }
  · intro id caller found
    exact (sound.fits id caller found).transport (longer ▸ Nat.le_succ _)
      earlier (by simp) (by simp)
  · intro other id found
    by_cases same : other = address
    · subst same
      obtain rfl := Option.some.inj (entry.symm.trans found)
      exact ⟨longer ▸ Nat.lt_succ_self _, now⟩
    · rw [entries same] at found
      obtain ⟨below, owned⟩ := sound.entered other id found
      exact ⟨within below, (earlier id below).trans owned⟩
  · simpa using sound.connecting
  · simpa using sound.idle
  · simpa using sound.established
  · simpa using sound.asleep
  · intro other link member
    obtain ⟨id, below, owned, stored⟩ := sound.looked other link member
    exact ⟨id, within below, (earlier id below).trans owned,
      by simpa using stored⟩
  · intro whole
    have tracked := sound.tracked whole
    refine ⟨?_, ?_, ?_⟩
    · intro id below empty
      obtain fresh | below := older below
      · rw [fresh, now, entry]
      · have found := tracked.current id below (by simpa using empty)
        rw [earlier id below, entries (different found), found]
    · intro id below
      obtain fresh | below := older below
      · rw [fresh, now, entry]
        exact .inl rfl
      · rw [earlier id below]
        obtain found | evicted := tracked.kept id below
        · rw [entries (different found)]
          exact .inl found
        · exact .inr evicted
    · intro other
      have links : (calls.cache.enter address).2.get? other =
          calls.cache.get? other := by
        by_cases same : other = address
        · subst same
          have beyond : (calls.cache.reference
              calls.cache.references.length).stored = none := by
            simp [LinkCache.reference, Reference.new]
          simp [LinkCache.get?, entry, missing, beyond]
        · exact LinkCache.get?_congr calls.cache _ other (entries same)
            (by simp)
      simpa only [links] using tracked.counted other

theorem evictIf (sound : Sound owner calls) (address : Address)
    (condition : Issued Λ → Bool) :
    Sound owner (calls.evictIf address condition) := by
  have entry := calls.cache.find?_evictIf_self address condition
  have elsewhere : ∀ {other}, other ≠ address →
      (calls.cache.evictIf address condition).2.find? other =
        calls.cache.find? other := fun different =>
    calls.cache.find?_evictIf_of_ne different condition
  refine { named := sound.named, fits := ?_, entered := ?_
           held := sound.held, sole := sound.sole, connecting := ?_
           idle := ?_, established := ?_, asleep := ?_, looked := ?_
           tracked := ?_ }
  all_goals unfold Calls.evictIf
  · intro id caller found
    exact (sound.fits id caller found).transport (by simp) (by simp) (by simp)
      (by simp)
  · intro other id found
    simp only [LinkCache.length_evictIf]
    by_cases same : other = address
    · subst same
      rw [entry] at found
      split at found
      · simp at found
      · exact sound.entered other id found
    · rw [elsewhere same] at found
      exact sound.entered other id found
  · simpa using sound.connecting
  · simpa using sound.idle
  · simpa using sound.established
  · simpa using sound.asleep
  · intro other link member
    have earlier : .looked other (some link) ∈ calls.history := by
      rcases List.mem_append.mp member with earlier | now
      · exact earlier
      · split at now <;> simp at now
    simpa using sound.looked other link earlier
  · intro whole
    have tracked := sound.tracked fun member =>
      whole (List.mem_append_left _ member)
    refine ⟨?_, ?_, ?_⟩
    · intro id below empty
      have below : id < calls.cache.references.length := by simpa using below
      have empty : (calls.cache.reference id).stored = none := by
        simpa using empty
      have found := tracked.current id below empty
      by_cases same : owner id = address
      · rw [same] at found ⊢
        rw [entry]
        split
        · rename_i evicted
          obtain ⟨link, get, -⟩ := LinkCache.get?_of_evictIf evicted
          simp [LinkCache.get?, found, empty] at get
        · exact found
      · rw [elsewhere same]
        exact found
    · intro id below
      obtain found | evicted := tracked.kept id (by simpa using below)
      · by_cases same : owner id = address
        · rw [same] at found ⊢
          rw [entry]
          split
          · rename_i evicted
            exact .inr (by simp [evicted])
          · exact .inl found
        · exact .inl ((elsewhere same).trans found)
      · exact .inr (List.mem_append_left _ evicted)
    · intro other
      have before := tracked.counted other
      by_cases evicted : (calls.cache.evictIf address condition).1 = true
      · by_cases same : other = address
        · subst same
          obtain ⟨link, get, -⟩ := LinkCache.get?_of_evictIf evicted
          simp only [get] at before
          simp [evicted, List.countP_append, Happening.stores,
            Happening.evicts, LinkCache.get?, entry, before]
        · have links := LinkCache.get?_congr calls.cache
            (calls.cache.evictIf address condition).2 other (elsewhere same)
            (by simp)
          have apart : address ≠ other := fun equal => same equal.symm
          simpa [evicted, List.countP_append, Happening.stores,
            Happening.evicts, links, apart] using before
      · have unchanged : (calls.cache.evictIf address condition).2 =
            calls.cache := by
          unfold LinkCache.evictIf at evicted ⊢
          split
          · rename_i holds
            simp [holds] at evicted
          · rfl
        simpa [evicted, unchanged] using before

theorem call (sound : Sound owner calls) (address : Address)
    (policy : RetryPolicy) (live : Bool) :
    Sound owner (calls.call address policy live) := by
  let caller : Caller Λ :=
    if live then .startLive calls.callers.length address policy
    else .start calls.callers.length address policy
  have name : caller.id = calls.callers.length := by
    simp only [caller]
    split <;> rfl
  have phase : caller.phase = .lookup := by
    simp only [caller]
    split <;> rfl
  have callers : (calls.call address policy live).callers =
      calls.callers ++ [caller] := rfl
  have split : ∀ {id : CallerId} {found},
      (calls.callers ++ [caller])[id]? = some found →
      calls.callers[id]? = some found ∨
        id = calls.callers.length ∧ found = caller := by
    intro id found at'
    by_cases below : id < calls.callers.length
    · rw [List.getElem?_append_left below] at at'
      exact .inl at'
    · obtain ⟨within, equal⟩ := List.getElem?_eq_some_iff.mp at'
      have within : id < calls.callers.length + 1 := by simpa using within
      have here : id = calls.callers.length :=
        Nat.le_antisymm (Nat.le_of_lt_succ within) (Nat.le_of_not_lt below)
      subst here
      simp only [List.getElem_concat_length] at equal
      exact .inr ⟨rfl, equal.symm⟩
  have stays : ∀ {id : CallerId} {found}, calls.callers[id]? = some found →
      (calls.callers ++ [caller])[id]? = some found := by
    intro id found at'
    obtain ⟨below, -⟩ := List.getElem?_eq_some_iff.mp at'
    rw [List.getElem?_append_left below]
    exact at'
  refine { sound with named := ?_, fits := ?_, held := ?_, asleep := ?_
                      tracked := ?_ }
  · intro id found at'
    obtain before | ⟨rfl, rfl⟩ := split at'
    · exact sound.named id found before
    · exact name
  · intro id found at'
    obtain before | ⟨-, rfl⟩ := split at'
    · exact sound.fits id found before
    · refine ⟨?_, ?_, ?_⟩ <;>
        simp [phase, Caller.Phase.reference?, Caller.Phase.permit?,
          Caller.link?]
  · intro reference id
    refine (sound.held reference id).trans ⟨?_, ?_⟩
    · rintro ⟨found, content, at', permit⟩
      exact ⟨found, content, stays at', permit⟩
    · rintro ⟨found, content, at', permit⟩
      obtain before | ⟨-, rfl⟩ := split at'
      · exact ⟨found, content, before, permit⟩
      · simp [phase, Caller.Phase.permit?] at permit
  · intro reference id member
    obtain ⟨connecting, found, at', asleep⟩ := sound.asleep reference id member
    exact ⟨connecting, found, stays at', asleep⟩
  · intro whole
    have tracked := sound.tracked whole
    exact ⟨tracked.current, tracked.kept, tracked.counted⟩

theorem look (sound : Sound owner calls) (address : Address) :
    Sound owner { calls with
      history :=
        calls.history ++ [.looked address (calls.cache.get? address)] } := by
  refine { sound with looked := ?_, tracked := ?_ }
  · intro other link member
    rcases List.mem_append.mp member with earlier | now
    · exact sound.looked other link earlier
    · obtain ⟨rfl, get⟩ : other = address ∧
          calls.cache.get? address = some link := by
        simpa [eq_comm] using now
      obtain ⟨id, found, stored⟩ := LinkCache.get?_eq_some_iff.mp get
      obtain ⟨below, owned⟩ := sound.entered other id found
      exact ⟨id, below, owned, stored⟩
  · intro whole
    have tracked := sound.tracked fun member =>
      whole (List.mem_append_left _ member)
    refine ⟨tracked.current, ?_, ?_⟩
    · intro id below
      obtain found | evicted := tracked.kept id below
      · exact .inl found
      · exact .inr (List.mem_append_left _ evicted)
    · intro other
      simpa [List.countP_append, Happening.stores, Happening.evicts] using
        tracked.counted other

theorem clear (sound : Sound owner calls) :
    Sound owner { calls with
      cache := calls.cache.clear
      history := calls.history ++ [.cleared] } := by
  refine { sound with fits := ?_, entered := ?_, looked := ?_, tracked := ?_ }
  · intro id caller found
    exact (sound.fits id caller found).transport (Nat.le_refl _) (by simp)
      (by simp) (by simp)
  · simp
  · intro address link member
    have earlier : .looked address (some link) ∈ calls.history := by
      simpa using member
    exact sound.looked address link earlier
  · simp

end Sound

end RemoteMessaging.Calls
