import RemoteMessaging.Proofs.Calls.Steps

/-!
# What the turn of a caller keeps

A turn of a caller is one of the steps that keep `Sound`, by its phase: it comes
to a reference, leaves it, or takes a step there.
-/

namespace RemoteMessaging

variable {Λ : Type}

namespace Caller

/-- One caller comes out of another and names no reference.  A link that it has
is the given one. -/
structure Leaves (caller next : Caller Λ) (link : Option (Issued Λ)) :
    Prop where
  name : next.id = caller.id
  address : next.address = caller.address
  unnamed : next.phase.reference? = none
  only : ∀ has, next.link? = some has → link = some has

theorem leaves_enterPhase (caller : Caller Λ) {phase : Phase Λ}
    (unnamed : phase.reference? = none) {link : Option (Issued Λ)}
    (only : ∀ has, (caller.enterPhase phase).link? = some has →
      link = some has) :
    caller.Leaves (caller.enterPhase phase) link :=
  ⟨rfl, rfl, unnamed, only⟩

theorem leaves_advance (caller : Caller Λ) :
    caller.Leaves caller.advance none := by
  unfold advance
  split
  · apply leaves_enterPhase <;> simp [Phase.reference?, link?, enterPhase]
  · constructor <;> simp [Phase.reference?, link?]

theorem leaves_obtain (caller : Caller Λ) (link : Issued Λ) :
    caller.Leaves (caller.obtain link) (some link) := by
  unfold obtain
  split
  · apply leaves_enterPhase <;> simp [Phase.reference?, link?, enterPhase]
  · apply leaves_enterPhase <;> simp [Phase.reference?, link?, enterPhase]

theorem leaves_replace (caller : Caller Λ) (link : Issued Λ) :
    caller.Leaves (caller.replace link) (some link) := by
  unfold replace
  split
  · apply leaves_enterPhase <;> simp [Phase.reference?, link?, enterPhase]
  · split
    · apply leaves_enterPhase <;> simp [Phase.reference?, link?, enterPhase]
    · constructor <;> simp [Phase.reference?, link?]

namespace Leaves

variable {caller next : Caller Λ} {link : Option (Issued Λ)}

theorem free (leaves : caller.Leaves next link) :
    next.phase.permit? = none := by
  cases permit : next.phase.permit? with
  | none => rfl
  | some pair =>
      have names := Phase.reference?_of_permit? permit
      simp [leaves.unnamed] at names

theorem fits (leaves : caller.Leaves next link)
    {owner : ReferenceId → Address} {cache : LinkCache Λ}
    (stored : ∀ has, link = some has → ∃ id < cache.references.length,
      owner id = caller.address ∧ (cache.reference id).stored = some has) :
    next.Fits owner cache := by
  refine ⟨?_, ?_, ?_⟩
  · intro id names
    simp [leaves.unnamed] at names
  · intro id content permit
    simp [leaves.free] at permit
  · intro has link
    rw [leaves.address]
    exact stored has (leaves.only has link)

end Leaves

theorem fits_of_names {owner : ReferenceId → Address} {cache : LinkCache Λ}
    {caller : Caller Λ} (phase : Phase Λ) {reference : ReferenceId}
    (names : phase.reference? = some reference) (free : phase.permit? = none)
    (known : reference < cache.references.length ∧
      owner reference = caller.address) :
    (caller.enterPhase phase).Fits owner cache := by
  refine ⟨?_, ?_, ?_⟩
  · intro id again
    obtain rfl := Option.some.inj (names.symm.trans again)
    exact known
  · intro id content permit
    simp [enterPhase, free] at permit
  · intro link has
    cases phase <;> simp_all [enterPhase, link?, Phase.reference?]

/-- The next step of a caller changes no permit and is not to be noted. -/
structure Quiet (caller : Caller Λ) (calls : Calls Λ) : Prop where
  free : caller.phase.permit? = none
  account : caller.account calls.cache calls.permits = calls.permits
  happenings : caller.happenings calls.cache = []

end Caller

namespace Calls

namespace Sound

variable {owner : ReferenceId → Address} {calls : Calls Λ} {id : CallerId}
  {caller next : Caller Λ}

theorem stepped {after : ReferenceId → Address} {cache : LinkCache Λ}
    {warning : Option String} {permits : List (ReferenceId × CallerId)}
    {history : List (Happening Λ)}
    (found : calls.callers[id]? = some caller)
    (taken : caller.turn calls.cache = .step next cache warning)
    (account : caller.account calls.cache calls.permits = permits)
    (happened : calls.history ++ caller.happenings calls.cache = history)
    (sound : Sound after { calls.move id next with
      cache := cache, permits := permits, history := history }) :
    ∃ after, Sound after (calls.turn id) := by
  refine ⟨after, ?_⟩
  simp only [Calls.turn, found, taken, account, happened]
  exact sound

theorem stay (sound : Sound owner calls)
    (found : calls.callers[id]? = some caller)
    (still : ∀ next cache warning,
      caller.turn calls.cache ≠ .step next cache warning) :
    ∃ after, Sound after (calls.turn id) := by
  refine ⟨owner, ?_⟩
  cases taken : caller.turn calls.cache with
  | step next cache warning => exact (still next cache warning taken).elim
  | _ => simpa [Calls.turn, found, taken] using sound

theorem proceed (sound : Sound owner calls)
    (found : calls.callers[id]? = some caller) (quiet : caller.Quiet calls)
    (awake : ∀ reference, id ∉ (calls.cache.reference reference).sleepers)
    (taken : caller.turn calls.cache = .step next calls.cache none)
    (name : next.id = caller.id) (fits : next.Fits owner calls.cache)
    (free : next.phase.permit? = none) :
    ∃ after, Sound after (calls.turn id) :=
  stepped found taken quiet.account (by rw [quiet.happenings, List.append_nil])
    (sound.move found name fits (free.trans quiet.free.symm) awake)

theorem approach (sound : Sound owner calls)
    (found : calls.callers[id]? = some caller) (quiet : caller.Quiet calls)
    (awake : ∀ reference, id ∉ (calls.cache.reference reference).sleepers)
    {phase : Caller.Phase Λ} {reference : ReferenceId}
    (taken : caller.turn calls.cache =
      .step (caller.enterPhase phase) calls.cache none)
    (names : phase.reference? = some reference) (free : phase.permit? = none)
    (known : reference < calls.cache.references.length ∧
      owner reference = caller.address) :
    ∃ after, Sound after (calls.turn id) := by
  have fits := Caller.fits_of_names phase names free known
  exact sound.proceed found quiet awake taken rfl fits free

theorem leave (sound : Sound owner calls)
    (found : calls.callers[id]? = some caller) (quiet : caller.Quiet calls)
    (awake : ∀ reference, id ∉ (calls.cache.reference reference).sleepers)
    {link : Option (Issued Λ)} (leaves : caller.Leaves next link)
    (taken : caller.turn calls.cache = .step next calls.cache none)
    (stored : ∀ has, link = some has →
      ∃ reference < calls.cache.references.length,
        owner reference = caller.address ∧
          (calls.cache.reference reference).stored = some has) :
    ∃ after, Sound after (calls.turn id) :=
  sound.proceed found quiet awake taken leaves.name (leaves.fits stored)
    leaves.free

theorem pick (sound : Sound owner calls)
    (found : calls.callers[id]? = some caller) (quiet : caller.Quiet calls)
    (awake : ∀ reference, id ∉ (calls.cache.reference reference).sleepers)
    {reference : ReferenceId} {link : Issued Λ}
    (names : caller.phase.reference? = some reference)
    (stored : (calls.cache.reference reference).stored = some link)
    (taken : caller.turn calls.cache =
      .step (caller.obtain link) calls.cache none) :
    ∃ after, Sound after (calls.turn id) := by
  obtain ⟨below, owned⟩ := (sound.fits id caller found).known reference names
  apply sound.leave found quiet awake (caller.leaves_obtain link) taken
  intro has same
  exact ⟨reference, below, owned, stored.trans same⟩

theorem resign (sound : Sound owner calls)
    (found : calls.callers[id]? = some caller)
    (reference : ReferenceId) {content : Option (Issued Λ)}
    (permit : caller.phase.permit? = some (reference, content))
    (leaves : caller.Leaves next content) {state : LinkState}
    (settled : state = if content.isSome then .established else .idle)
    (warning : Option String)
    (taken : caller.turn calls.cache =
      .step next (calls.cache.settle reference state) warning)
    (account : caller.account calls.cache calls.permits =
      calls.permits.filter (· ≠ (reference, caller.id)))
    (happenings : caller.happenings calls.cache = []) :
    ∃ after, Sound after (calls.turn id) := by
  have fits := sound.fits id caller found
  obtain ⟨below, owned⟩ :=
    fits.known reference (Caller.Phase.reference?_of_permit? permit)
  have filled := fits.content reference content permit
  rw [sound.named id caller found] at account
  apply stepped found taken account (by rw [happenings, List.append_nil])
  apply sound.settle found permit
  · rw [settled]
    split <;> simp
  · intro idle
    cases content <;> simp_all
  · intro established
    cases content <;> simp_all
  · exact leaves.name
  · apply leaves.fits
    intro link has
    exact ⟨reference, below, owned, filled.trans has⟩
  · exact leaves.free

theorem turn_lookup (sound : Sound owner calls)
    (found : calls.callers[id]? = some caller)
    (phase : caller.phase = .lookup) :
    ∃ after, Sound after (calls.turn id) := by
  have quiet : caller.Quiet calls := by
    constructor <;> simp [phase, Caller.Phase.permit?, Caller.account,
      Caller.happenings]
  have awake := sound.awake found (by simp [phase])
  cases entry : calls.cache.find? caller.address with
  | none =>
      have leaves : caller.Leaves (caller.enterPhase .enter) none :=
        caller.leaves_enterPhase rfl
          (by simp [Caller.link?, Caller.enterPhase])
      have taken : caller.turn calls.cache =
          .step (caller.enterPhase .enter) calls.cache none := by
        simp [Caller.turn, phase, entry]
      exact sound.leave found quiet awake leaves taken (by simp)
  | some reference =>
      have taken : caller.turn calls.cache = .step
          (caller.enterPhase (.inspect reference)) calls.cache none := by
        simp [Caller.turn, phase, entry]
      exact sound.approach found quiet awake taken rfl rfl
        (sound.entered caller.address reference entry)

theorem turn_enter (sound : Sound owner calls)
    (found : calls.callers[id]? = some caller)
    (phase : caller.phase = .enter) :
    ∃ after, Sound after (calls.turn id) := by
  obtain ⟨after, -, owned, below, entered⟩ := sound.enter caller.address
  have awake := entered.awake found (by simp [phase])
  have taken : caller.turn calls.cache = .step
      (caller.enterPhase
        (.inspect (calls.cache.enter caller.address).1))
      (calls.cache.enter caller.address).2 none := by
    simp [Caller.turn, phase]
  have fits := Caller.fits_of_names
    (.inspect (calls.cache.enter caller.address).1) rfl rfl
    (And.intro below owned)
  have permit : (caller.enterPhase
      (.inspect (calls.cache.enter caller.address).1)).phase.permit? =
        caller.phase.permit? := by
    simp [phase, Caller.enterPhase, Caller.Phase.permit?]
  exact stepped found taken (by simp [Caller.account, phase])
    (by simp [Caller.happenings, phase])
    (entered.move found rfl fits permit awake)

theorem turn_inspect (sound : Sound owner calls)
    (found : calls.callers[id]? = some caller)
    {reference : ReferenceId}
    (phase : caller.phase = .inspect reference) :
    ∃ after, Sound after (calls.turn id) := by
  have quiet : caller.Quiet calls := by
    constructor <;> simp [phase, Caller.Phase.permit?, Caller.account,
      Caller.happenings]
  have names : caller.phase.reference? = some reference := by
    simp [phase, Caller.Phase.reference?]
  have awake := sound.awake found (by simp [phase])
  cases stored : (calls.cache.reference reference).stored with
  | none =>
      have taken : caller.turn calls.cache = .step
          (caller.enterPhase (.claim reference)) calls.cache none := by
        simp [Caller.turn, phase, stored]
      exact sound.approach found quiet awake taken rfl rfl
        ((sound.fits id caller found).known reference names)
  | some link =>
      have taken : caller.turn calls.cache =
          .step (caller.obtain link) calls.cache none := by
        simp [Caller.turn, phase, stored]
      exact sound.pick found quiet awake names stored taken

theorem turn_claim (sound : Sound owner calls)
    (found : calls.callers[id]? = some caller)
    {reference : ReferenceId}
    (phase : caller.phase = .claim reference) :
    ∃ after, Sound after (calls.turn id) := by
  have known := (sound.fits id caller found).known
  have name : caller.id = id := sound.named id caller found
  have names : caller.phase.reference? = some reference := by
    simp [phase, Caller.Phase.reference?]
  have awake := sound.awake found (by simp [phase])
  by_cases idle : (calls.cache.reference reference).state = .idle
  · have claims : calls.cache.claim reference = (true,
        calls.cache.replace reference
          { calls.cache.reference reference with
            state := .connecting }) := by
      simp [LinkCache.claim, Reference.claim, idle]
    have taken : caller.turn calls.cache = .step
        (caller.enterPhase (.connecting reference))
        (calls.cache.claim reference).2 none := by
      simp [Caller.turn, phase, claims]
    rw [claims] at taken
    apply stepped found taken ?_ ?_ (sound.claim found phase idle)
    · simp [Caller.account, phase, claims, name]
    · simp [Caller.happenings, phase, Calls.move]
  · have claims : calls.cache.claim reference =
        (false, calls.cache) := by
      simp [LinkCache.claim, Reference.claim, idle]
    have quiet : caller.Quiet calls := by
      constructor <;> simp [phase, Caller.Phase.permit?,
        Caller.account, Caller.happenings, claims]
    have taken : caller.turn calls.cache = .step
        (caller.enterPhase (.await reference)) calls.cache none := by
      simp [Caller.turn, phase, claims]
    exact sound.approach found quiet awake taken rfl rfl
      (known reference names)

theorem turn_await (sound : Sound owner calls)
    (found : calls.callers[id]? = some caller)
    {reference : ReferenceId}
    (phase : caller.phase = .await reference) :
    ∃ after, Sound after (calls.turn id) := by
  have known := (sound.fits id caller found).known
  have name : caller.id = id := sound.named id caller found
  have quiet : caller.Quiet calls := by
    constructor <;> simp [phase, Caller.Phase.permit?, Caller.account,
      Caller.happenings]
  have names : caller.phase.reference? = some reference := by
    simp [phase, Caller.Phase.reference?]
  have awake := sound.awake found (by simp [phase])
  by_cases connecting :
      (calls.cache.reference reference).state = .connecting
  · have waits : calls.cache.await reference caller.id = (true,
        calls.cache.replace reference
          { calls.cache.reference reference with
            sleepers :=
              id :: (calls.cache.reference reference).sleepers }) := by
      simp [LinkCache.await, Reference.await, connecting, name]
    have taken : caller.turn calls.cache = .step
        (caller.enterPhase (.asleep reference))
        (calls.cache.await reference caller.id).2 none := by
      simp [Caller.turn, phase, waits]
    rw [waits] at taken
    apply stepped found taken quiet.account ?_
      (sound.sleep found phase connecting)
    simp [Caller.happenings, phase, Calls.move]
  · have waits : calls.cache.await reference caller.id =
        (false, calls.cache) := by
      simp [LinkCache.await, Reference.await, connecting]
    have taken : caller.turn calls.cache = .step
        (caller.enterPhase (.reread reference)) calls.cache none := by
      simp [Caller.turn, phase, waits]
    exact sound.approach found quiet awake taken rfl rfl
      (known reference names)

theorem turn_asleep (sound : Sound owner calls)
    (found : calls.callers[id]? = some caller)
    {reference : ReferenceId}
    (phase : caller.phase = .asleep reference) :
    ∃ after, Sound after (calls.turn id) := by
  have known := (sound.fits id caller found).known
  have name : caller.id = id := sound.named id caller found
  by_cases sleeps :
      caller.id ∈ (calls.cache.reference reference).sleepers
  · exact sound.stay found (by simp [Caller.turn, phase, sleeps])
  · have quiet : caller.Quiet calls := by
      constructor <;> simp [phase, Caller.Phase.permit?,
        Caller.account, Caller.happenings]
    have names : caller.phase.reference? = some reference := by
      simp [phase, Caller.Phase.reference?]
    have awake : ∀ other,
        id ∉ (calls.cache.reference other).sleepers := by
      intro other member
      obtain ⟨-, caller', again, asleep⟩ := sound.asleep other id member
      obtain rfl := Option.some.inj (found.symm.trans again)
      obtain rfl := Caller.Phase.asleep.inj (phase.symm.trans asleep)
      exact sleeps (name ▸ member)
    have taken : caller.turn calls.cache = .step
        (caller.enterPhase (.await reference)) calls.cache none := by
      simp [Caller.turn, phase, sleeps]
    exact sound.approach found quiet awake taken rfl rfl
      (known reference names)

theorem turn_reread (sound : Sound owner calls)
    (found : calls.callers[id]? = some caller)
    {reference : ReferenceId}
    (phase : caller.phase = .reread reference) :
    ∃ after, Sound after (calls.turn id) := by
  have quiet : caller.Quiet calls := by
    constructor <;> simp [phase, Caller.Phase.permit?, Caller.account,
      Caller.happenings]
  have names : caller.phase.reference? = some reference := by
    simp [phase, Caller.Phase.reference?]
  have awake := sound.awake found (by simp [phase])
  cases stored : (calls.cache.reference reference).stored with
  | none =>
      have taken : caller.turn calls.cache =
          .step caller.advance calls.cache none := by
        simp [Caller.turn, phase, stored]
      exact sound.leave found quiet awake caller.leaves_advance taken
        (by simp)
  | some link =>
      have taken : caller.turn calls.cache =
          .step (caller.obtain link) calls.cache none := by
        simp [Caller.turn, phase, stored]
      exact sound.pick found quiet awake names stored taken

theorem turn_store (sound : Sound owner calls)
    (found : calls.callers[id]? = some caller)
    {reference : ReferenceId} {link : Λ}
    (phase : caller.phase = .store reference link) :
    ∃ after, Sound after (calls.turn id) := by
  have taken : caller.turn calls.cache = .step
      (caller.enterPhase
        (.publish reference (calls.cache.store reference link).1))
      (calls.cache.store reference link).2 none := by
    simp [Caller.turn, phase]
  exact stepped found taken (by simp [Caller.account, phase, Calls.move])
    rfl (sound.store found phase)

theorem turn_publish (sound : Sound owner calls)
    (found : calls.callers[id]? = some caller)
    {reference : ReferenceId} {link : Issued Λ}
    (phase : caller.phase = .publish reference link) :
    ∃ after, Sound after (calls.turn id) := by
  exact sound.resign found reference
    (by simp only [phase, Caller.Phase.permit?])
    (caller.leaves_obtain link) rfl none (by simp [Caller.turn, phase])
    (by simp [Caller.account, phase])
    (by simp [Caller.happenings, phase])

theorem turn_refused (sound : Sound owner calls)
    (found : calls.callers[id]? = some caller)
    {reference : ReferenceId}
    (phase : caller.phase = .refused reference) :
    ∃ after, Sound after (calls.turn id) := by
  have leaves : caller.Leaves
      (if caller.attempt < caller.policy.retries then
        caller.enterPhase .pausing else caller.advance) none := by
    split
    · exact caller.leaves_enterPhase rfl
        (by simp [Caller.link?, Caller.enterPhase])
    · exact caller.leaves_advance
  exact sound.resign found reference
    (by simp only [phase, Caller.Phase.permit?]) leaves rfl (some caller.refusal)
    (by simp [Caller.turn, phase])
    (by simp [Caller.account, phase])
    (by simp [Caller.happenings, phase])

theorem turn_failed (sound : Sound owner calls)
    (found : calls.callers[id]? = some caller)
    {reference : ReferenceId} {error : IoError}
    (phase : caller.phase = .failed reference error) :
    ∃ after, Sound after (calls.turn id) := by
  have leaves : caller.Leaves
      (caller.finish (.error (.io "connect" error))) none :=
    caller.leaves_enterPhase rfl
      (by simp [Caller.link?, Caller.enterPhase])
  exact sound.resign found reference
    (by simp only [phase, Caller.Phase.permit?]) leaves rfl none
    (by simp [Caller.turn, phase])
    (by simp [Caller.account, phase])
    (by simp [Caller.happenings, phase])

theorem turn_panicking (sound : Sound owner calls)
    (found : calls.callers[id]? = some caller)
    {reference : ReferenceId}
    (phase : caller.phase = .panicking reference) :
    ∃ after, Sound after (calls.turn id) := by
  have leaves : caller.Leaves (caller.finish .panicked) none :=
    caller.leaves_enterPhase rfl
      (by simp [Caller.link?, Caller.enterPhase])
  exact sound.resign found reference
    (by simp only [phase, Caller.Phase.permit?]) leaves rfl none
    (by simp [Caller.turn, phase])
    (by simp [Caller.account, phase])
    (by simp [Caller.happenings, phase])

theorem turn_discard (sound : Sound owner calls)
    (found : calls.callers[id]? = some caller)
    {link : Issued Λ}
    (phase : caller.phase = .discard link) :
    ∃ after, Sound after (calls.turn id) := by
  have name : caller.id = id := sound.named id caller found
  let condition (cached : Issued Λ) : Bool := cached.serial == link.serial
  have evicted := sound.evictIf caller.address condition
  have fits : (caller.replace link).Fits owner
      (calls.evictIf caller.address condition).cache := by
    apply (caller.leaves_replace link).fits
    intro has same
    obtain ⟨reference, below, owned, stored⟩ :=
      (sound.fits id caller found).link has
        (by simpa [Caller.link?, phase] using same)
    refine ⟨reference, ?_, owned, ?_⟩
    · simpa [Calls.evictIf] using below
    · simpa [Calls.evictIf] using stored
  have permit : (caller.replace link).phase.permit? =
      caller.phase.permit? := by
    rw [(caller.leaves_replace link).free]
    simp [phase, Caller.Phase.permit?]
  have taken : caller.turn calls.cache = .step (caller.replace link)
      (calls.evictIf caller.address condition).cache none := by
    simp only [Caller.turn, phase]
    rfl
  exact stepped found taken (by simp [Caller.account, phase]; rfl)
    (by simp [Caller.happenings, phase]; rfl)
    (evicted.move found (caller.leaves_replace link).name fits permit
      (evicted.awake found (by simp [phase])))

theorem turn (sound : Sound owner calls) (id : CallerId) :
    ∃ after, Sound after (calls.turn id) := by
  cases found : calls.callers[id]? with
  | none => exact ⟨owner, by simpa [Calls.turn, found] using sound⟩
  | some caller =>
      cases phase : caller.phase with
      | lookup => exact sound.turn_lookup found phase
      | enter => exact sound.turn_enter found phase
      | inspect reference => exact sound.turn_inspect found phase
      | claim reference => exact sound.turn_claim found phase
      | await reference => exact sound.turn_await found phase
      | asleep reference => exact sound.turn_asleep found phase
      | reread reference => exact sound.turn_reread found phase
      | connecting reference =>
          exact sound.stay found (by simp [Caller.turn, phase])
      | store reference link => exact sound.turn_store found phase
      | publish reference link => exact sound.turn_publish found phase
      | refused reference => exact sound.turn_refused found phase
      | failed reference error => exact sound.turn_failed found phase
      | panicking reference => exact sound.turn_panicking found phase
      | pausing =>
          exact sound.stay found (by simp [Caller.turn, phase])
      | judging link =>
          exact sound.stay found (by simp [Caller.turn, phase])
      | discard link => exact sound.turn_discard found phase
      | finished result =>
          exact sound.stay found (by simp [Caller.turn, phase])

end Sound

end Calls

end RemoteMessaging
