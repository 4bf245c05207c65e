import RemoteMessaging.Proofs.Calls.Account
import RemoteMessaging.Proofs.Session.Tending

/-!
# Closing wins

A transport that is closed clears its cache while attempts to connect may be under
way.  These go on, but their links are stored where nobody finds them any more.  No
attempt begins after the transport was closed, since each looks first whether it is.
So whoever makes an entry afterwards never gets a link there.
-/

namespace RemoteMessaging

variable {σ η : Type}

namespace Calls

theorem Sound.address_step {Λ : Type} {owner : ReferenceId → Address}
    {calls : Calls Λ} (sound : Sound owner calls) (action : Action Λ)
    {id : CallerId} {caller after : Caller Λ}
    (found : calls.callers[id]? = some caller)
    (found' : (calls.step action).callers[id]? = some after) :
    after.address = caller.address := by
  have moves := sound.moves action
  generalize calls.entries action = notes at moves
  cases moves with
  | still callers =>
      rw [callers, found] at found'
      obtain rfl := Option.some.inj found'
      rfl
  | begins address policy live callers =>
      have below := (List.getElem?_eq_some_iff.mp found).1
      rw [callers, List.getElem?_append_left below, found] at found'
      obtain rfl := Option.some.inj found'
      rfl
  | goes mover goes callers =>
      rename_i other caller' after' notes
      rw [callers] at found'
      by_cases same : other = id
      · subst same
        have below := (List.getElem?_eq_some_iff.mp found).1
        rw [List.getElem?_set_self below] at found'
        obtain rfl := Option.some.inj found'
        obtain rfl := Option.some.inj (found.symm.trans mover)
        exact (Caller.limits_of_goes goes).1
      · rw [List.getElem?_set_ne same, found] at found'
        obtain rfl := Option.some.inj found'
        rfl

end Calls

/-- The attempt has found the transport open. -/
def Dial.begun : Dial σ → Bool
  | .check => false
  | _ => true

theorem Dial.begun_eq_false_iff {dial : Dial σ} :
    dial.begun = false ↔ dial = .check := by
  cases dial <;> simp [begun]

namespace Session

/-- The reference for which the attempt of a caller has begun, or where its link is
about to be stored. -/
def aim? (session : Session σ η) (id : CallerId) : Option ReferenceId :=
  match session.calls.phaseAt id with
  | some (.connecting reference) =>
      if (session.dial id).begun then some reference else none
  | some (.store reference _) => some reference
  | _ => none

/-- No cached entry has a link, and nobody will store one there. -/
structure Barren (session : Session σ η) : Prop where
  empty : ∀ address reference,
    session.calls.cache.find? address = some reference →
      (session.calls.cache.reference reference).stored = none
  unaimed : ∀ address reference id,
    session.calls.cache.find? address = some reference →
      session.aim? id ≠ some reference

/-- What a step makes at most, once the transport is closed: entries with references
of their own, and links where somebody had aimed before. -/
structure Subsides (session next : Session σ η) : Prop where
  entries : ∀ address reference,
    next.calls.cache.find? address = some reference →
      session.calls.cache.find? address = some reference ∨
        session.calls.cache.references.length ≤ reference
  stored : ∀ reference link,
    (next.calls.cache.reference reference).stored = some link →
      (session.calls.cache.reference reference).stored = some link ∨
        ∃ id, session.aim? id = some reference
  aims : ∀ id reference, next.aim? id = some reference →
    session.aim? id = some reference
  begun : ∀ id, (next.dial id).begun = true → (session.dial id).begun = true

variable {session next : Session σ η}

theorem aim?_lt {owner : ReferenceId → Address}
    (sound : Calls.Sound owner session.calls) {id : CallerId}
    {reference : ReferenceId} (aims : session.aim? id = some reference) :
    reference < session.calls.cache.references.length := by
  have known : ∀ {phase : Caller.Phase Link},
      session.calls.phaseAt id = some phase →
        phase.reference? = some reference →
          reference < session.calls.cache.references.length := by
    intro phase stands names
    obtain ⟨caller, found, rfl⟩ := Calls.phaseAt_eq_some_iff.mp stands
    exact ((sound.fits id caller found).known reference names).1
  unfold aim? at aims
  split at aims
  · rename_i stands
    split at aims
    · exact known stands aims
    · simp at aims
  · rename_i stands
    exact known stands aims
  · simp at aims

/-- Whoever makes an entry later makes a reference at which nobody aims. -/
theorem Barren.subsides {owner : ReferenceId → Address}
    (barren : Barren session) (sound : Calls.Sound owner session.calls)
    (subsides : Subsides session next) : Barren next := by
  have unaimed : ∀ address reference id,
      next.calls.cache.find? address = some reference →
        session.aim? id ≠ some reference := by
    intro address reference id found aims
    rcases subsides.entries address reference found with before | fresh
    · exact barren.unaimed address reference id before aims
    · exact Nat.not_lt_of_le fresh (aim?_lt sound aims)
  refine ⟨?_, ?_⟩
  · intro address reference found
    apply Option.eq_none_iff_forall_ne_some.mpr
    intro link has
    rcases subsides.stored reference link has with before | ⟨id, aims⟩
    · rcases subsides.entries address reference found with earlier | fresh
      · simp [barren.empty address reference earlier] at before
      · exact Nat.not_lt_of_le fresh (LinkCache.lt_of_stored before)
    · exact unaimed address reference id found aims
  · intro address reference id found aims
    exact unaimed address reference id found (subsides.aims id reference aims)

theorem Barren.get?_eq_none (barren : Barren session) (address : Address) :
    session.calls.cache.get? address = none := by
  apply Option.eq_none_iff_forall_ne_some.mpr
  intro link has
  obtain ⟨reference, found, stored⟩ := LinkCache.get?_eq_some_iff.mp has
  simp [barren.empty address reference found] at stored

/-! ## Steps of a closed transport -/

namespace Subsides

theorem still (calls : next.calls = session.calls)
    (dial : next.dial = session.dial) : Subsides session next := by
  have aims : ∀ id, next.aim? id = session.aim? id := by
    intro id
    simp only [aim?, calls, dial]
  refine ⟨?_, ?_, ?_, ?_⟩
  · intro address reference found
    exact .inl (calls ▸ found)
  · intro reference link has
    exact .inl (calls ▸ has)
  · intro id reference has
    rwa [aims] at has
  · intro id begun
    rwa [dial] at begun

theorem call (sockets : Sockets session) (own : CallerId) (calls : Calls Link)
    (others : ∀ id, id ≠ own → calls.phaseAt id = session.calls.phaseAt id)
    (mine : calls.phaseAt own = session.calls.phaseAt own ∨
      Sockets.Clears session calls own)
    (entries : ∀ address reference,
      calls.cache.find? address = some reference →
        session.calls.cache.find? address = some reference ∨
          session.calls.cache.references.length ≤ reference)
    (stored : ∀ reference link,
      (calls.cache.reference reference).stored = some link →
        (session.calls.cache.reference reference).stored = some link ∨
          ∃ id, session.aim? id = some reference) :
    Subsides session { session with calls := calls } := by
  have unchanged : ∀ id, calls.phaseAt id = session.calls.phaseAt id →
      aim? { session with calls := calls } id = session.aim? id := by
    intro id same
    simp only [aim?, same]
  refine ⟨entries, stored, ?_, fun _ begun => begun⟩
  intro id reference aims
  by_cases same : id = own
  · subst same
    rcases mine with still | clears
    · rwa [unchanged id still] at aims
    · have begins := sockets.fresh id clears.1
      unfold aim? at aims
      split at aims
      · simp [begins, Dial.begun] at aims
      · rename_i stands
        exact (clears.2 _ _ stands).elim
      · simp at aims
  · rwa [unchanged id (others id same)] at aims

theorem turn (sockets : Sockets session) (id : CallerId) :
    Subsides session (session.call (.turn id)) := by
  have goes := fun entries stored => call sockets id (session.calls.turn id)
    (fun other different => session.calls.phaseAt_turn_of_ne different)
    (Sockets.clears_turn session id) entries stored
  obtain same | ⟨caller, after, found, ⟨warning, taken⟩, -⟩ :=
    session.calls.turn_cases id
  · exact still same rfl
  · have turned := Caller.turned_of_turn taken
    generalize (session.calls.turn id).cache = cache at turned goes
    cases turned with
    | plain continues alike pending =>
        refine goes alike.fresh ?_
        intro reference link has
        exact .inl (alike.stored reference ▸ has)
    | stored phase =>
        rename_i reference link
        have aims : session.aim? id = some reference := by
          simp [aim?, Calls.phaseAt_eq_some_iff.mpr ⟨caller, found, phase⟩]
        refine goes (fun _ _ found => .inl found) ?_
        intro other link' has
        by_cases same : other = reference
        · exact .inr ⟨id, same ▸ aims⟩
        · rw [LinkCache.reference_store_of_ne _ same] at has
          exact .inl has
    | discarded phase =>
        refine goes (fun _ _ found => .inl (LinkCache.find?_of_evictIf found)) ?_
        intro other link' has
        rw [LinkCache.evict, LinkCache.reference_evictIf] at has
        exact .inl has

theorem answer (sockets : Sockets session) (id : CallerId)
    (change : Caller Link → Caller Link)
    (mine : (session.calls.answer id change).phaseAt id =
        session.calls.phaseAt id ∨
      Sockets.Clears session (session.calls.answer id change) id) :
    Subsides session { session with
      calls := session.calls.answer id change } := by
  have cache := session.calls.cache_answer id change
  refine call sockets id _ ?_ mine ?_ ?_
  · exact fun other different =>
      session.calls.phaseAt_answer_of_ne different change
  · rw [cache]
    exact fun _ _ found => .inl found
  · rw [cache]
    exact fun _ _ has => .inl has

theorem removes {calls : Calls Link}
    (callers : calls.callers = session.calls.callers)
    (references : ∀ reference, calls.cache.reference reference =
      session.calls.cache.reference reference)
    (entries : ∀ address reference,
      calls.cache.find? address = some reference →
        session.calls.cache.find? address = some reference) :
    Subsides session { session with calls := calls } := by
  have aims : ∀ id, aim? { session with calls := calls } id =
      session.aim? id := by
    intro id
    simp only [aim?, Calls.phaseAt, callers]
  refine ⟨?_, ?_, ?_, fun _ begun => begun⟩
  · exact fun address reference found => .inl (entries address reference found)
  · intro reference link has
    exact .inl (references reference ▸ has)
  · intro id reference has
    rwa [aims] at has

theorem runHook (session : Session σ η) (handle : Handle) :
    Subsides session (session.runHook handle) := by
  unfold Session.runHook
  split
  · exact removes rfl (fun _ => LinkCache.reference_evictIf _ _ _ _)
      fun _ _ found => LinkCache.find?_of_evictIf found
  · exact still rfl rfl

/-- What is said of a step depends on callers and attempts alone. -/
theorem congr {other : Session σ η} (subsides : Subsides session other)
    (calls : next.calls = other.calls) (dial : next.dial = other.dial) :
    Subsides session next := by
  have same := still calls dial
  refine ⟨?_, ?_, ?_, ?_⟩
  · intro address reference found
    exact subsides.entries address reference (calls ▸ found)
  · intro reference link has
    exact subsides.stored reference link (calls ▸ has)
  · intro id reference has
    exact subsides.aims id reference (same.aims id reference has)
  · intro id begun
    exact subsides.begun id (same.begun id begun)

end Subsides

/-! ## Attempts -/

section Attempts

variable {id : CallerId} {caller : Caller Link} {reference : ReferenceId}

theorem others_connect (os : OperatingSystem σ) (names : NameService)
    (session : Session σ η) (id : CallerId) (address : Address)
    (other : CallerId) (different : other ≠ id) :
    (session.connect os names id address).dial other = session.dial other ∧
      (session.connect os names id address).calls.phaseAt other =
        session.calls.phaseAt other := by
  constructor
  · have attempts := session.attempts_connect os names id address
    generalize session.connect os names id address = next at attempts ⊢
    cases attempts with
    | connected stage =>
        simp only [settle, call, proceed, different, if_false, dial_keep]
        split <;> rfl
    | _ => simp [settle, call, proceed, use, spawn, different]
  · obtain same | ⟨attempt, stepped⟩ := session.calls_connect os names id address
    · rw [same]
    · rw [stepped]
      exact session.calls.phaseAt_answer_of_ne different _

theorem aim?_settle (found : session.calls.callers[id]? = some caller)
    (phase : caller.phase = .connecting reference) (attempt : Attempt Link)
    {other : ReferenceId}
    (aims : (session.settle id attempt).aim? id = some other) :
    other = reference := by
  have lands : (session.settle id attempt).calls.phaseAt id =
      some (caller.connected attempt).phase :=
    Calls.phaseAt_answer_self found _
  simp only [aim?, lands, Caller.connected, phase] at aims
  cases attempt with
  | connected link => simpa [Caller.enterPhase] using aims.symm
  | failed error =>
      by_cases refused : error.isConnectRefused <;>
        simp [Caller.enterPhase, refused] at aims
  | panicked => simp [Caller.enterPhase] at aims

theorem aim?_proceed (stands : session.calls.phaseAt id =
      some (.connecting reference)) {other : ReferenceId}
    (aims : session.aim? id = some other) : other = reference := by
  simp only [aim?, stands] at aims
  split at aims
  · exact (Option.some.inj aims).symm
  · simp at aims

theorem aim?_connect (os : OperatingSystem σ) (names : NameService)
    (found : session.calls.callers[id]? = some caller)
    (phase : caller.phase = .connecting reference) {other : ReferenceId}
    (aims : (session.connect os names id caller.address).aim? id =
      some other) : other = reference := by
  have stands : session.calls.phaseAt id = some (.connecting reference) :=
    Calls.phaseAt_eq_some_iff.mpr ⟨caller, found, phase⟩
  have attempts := session.attempts_connect os names id caller.address
  generalize session.connect os names id caller.address = next at attempts aims
  cases attempts with
  | failed resources error made =>
      have used : (session.use resources).calls.callers[id]? = some caller :=
        found
      exact aim?_settle used phase _ aims
  | connected stage =>
      refine aim?_settle ?_ phase _ aims
      rw [calls_keep]
      split <;> exact found
  | _ => exact aim?_proceed (by exact stands) aims

theorem connect_of_closed (os : OperatingSystem σ) (names : NameService)
    (closed : session.transport.closed = true)
    (begins : session.dial id = .check) (address : Address) :
    session.connect os names id address =
      session.call (.connected id (.failed Transport.closedError)) := by
  have same : session.proceed id .check = session := by
    simp only [proceed]
    congr
    funext other
    split
    · rename_i here
      rw [here, begins]
    · rfl
  rw [connect, begins]
  simp only [closed, if_true, settle, same]

theorem Subsides.connect (os : OperatingSystem σ) (names : NameService)
    (closed : session.transport.closed = true)
    (found : session.calls.callers[id]? = some caller)
    (phase : caller.phase = .connecting reference) :
    Subsides session (session.connect os names id caller.address) := by
  have cache := (cache_connect os names session id caller.address).1
  have others := others_connect os names session id caller.address
  have stands : session.calls.phaseAt id = some (.connecting reference) :=
    Calls.phaseAt_eq_some_iff.mpr ⟨caller, found, phase⟩
  have mine : (∀ other, (session.connect os names id caller.address).aim? id =
        some other → session.aim? id = some other) ∧
      (((session.connect os names id caller.address).dial id).begun = true →
        (session.dial id).begun = true) := by
    cases begun : (session.dial id).begun with
    | true =>
        refine ⟨?_, fun _ => rfl⟩
        intro other aims
        rw [aim?_connect os names found phase aims]
        simp only [aim?, stands, begun, if_true]
    | false =>
        have begins := Dial.begun_eq_false_iff.mp begun
        rw [connect_of_closed os names closed begins]
        have lands : (session.call (.connected id
            (.failed Transport.closedError))).calls.phaseAt id =
              some (.failed reference Transport.closedError) := by
          refine (Calls.phaseAt_answer_self found _).trans ?_
          simp only [Caller.connected, phase]
          rfl
        constructor
        · intro other aims
          simp [aim?, lands] at aims
        · intro later
          exact begun.symm.trans later
  refine ⟨?_, ?_, ?_, ?_⟩
  · rw [cache]
    exact fun _ _ entry => .inl entry
  · rw [cache]
    exact fun _ _ has => .inl has
  · intro other reference' aims
    by_cases same : other = id
    · subst same
      exact mine.1 reference' aims
    · obtain ⟨dial, stays⟩ := others other same
      simpa only [aim?, dial, stays] using aims
  · intro other later
    by_cases same : other = id
    · subst same
      exact mine.2 later
    · rwa [(others other same).1] at later

end Attempts

theorem Subsides.close (os : OperatingSystem σ) (session : Session σ η) :
    Subsides session (session.close os) := by
  unfold Session.close
  split
  · exact still rfl rfl
  · exact still rfl rfl
  · exact still rfl rfl
  · exact still rfl rfl
  · exact (runHook session _).congr rfl rfl
  · have cleared : Subsides session (session.call .clear) :=
      removes rfl (fun _ => rfl) fun _ _ found => by simp [Calls.step] at found
    exact cleared.congr rfl rfl
  · exact still rfl rfl
  · exact still rfl rfl
  · exact still rfl rfl

theorem Subsides.of_steps {os : OperatingSystem σ} {names : NameService}
    (sockets : Sockets session) (closed : session.transport.closed = true)
    (steps : Steps os names session next) : Subsides session next := by
  cases steps with
  | opened address =>
      refine call sockets session.calls.callers.length _ ?_
        (.inr (Sockets.clears_call session address _))
        (fun _ _ found => .inl found) fun _ _ has => .inl has
      exact fun id different =>
        session.calls.phaseAt_call_of_ne different address _ true
  | turned id => exact turn sockets id
  | dialled found phase => exact connect os names closed found phase
  | resumed id =>
      exact answer sockets id _ (Sockets.clears_resumed session id)
  | judged found phase =>
      exact answer sockets _ _ (Sockets.clears_judged session _ _)
  | looked address =>
      exact removes rfl (fun _ => rfl) fun _ _ found => found
  | hooked found hooks => exact (runHook session _).congr rfl rfl
  | closed => exact close os session
  | _ => exact still rfl rfl

/-! ## Runs -/

/-- No two attempts for the same address have begun. -/
def Sole (session : Session σ η) : Prop :=
  ∀ (id other : CallerId) caller caller',
    session.calls.callers[id]? = some caller →
      session.calls.callers[other]? = some caller' →
        caller.address = caller'.address →
          (session.dial id).begun = true →
            (session.dial other).begun = true → id = other

/-- What holds while a transport is used and closed. -/
structure Sealing (session : Session σ η) : Prop where
  shut : session.closing ≠ .idle → session.transport.closed = true
  barren : .cleared ∈ session.calls.history → session.Barren
  early : .cleared ∈ session.calls.history → session.transport.closed = true
  sole : session.Sole

theorem sealing_start (config : TransportConfig) (host : String)
    (listener : Bound) (workers : WorkerPools) (resources : Resources σ) :
    Sealing (start config host listener workers resources : Session σ η) := by
  refine ⟨?_, ?_, ?_, ?_⟩
  all_goals simp [start, Calls.start, Sole]

/-- Entries are removed all at once only on closing. -/
theorem cleared_of_steps {os : OperatingSystem σ} {names : NameService}
    (steps : Steps os names session next)
    (cleared : .cleared ∈ next.calls.history) :
    .cleared ∈ session.calls.history ∨ session.closing = .marking [] ∧
      next = (session.call .clear).goOn .stopping := by
  have ofCall : ∀ {action : Calls.Action Link}, action ≠ .clear →
      .cleared ∈ (session.calls.step action).history →
        .cleared ∈ session.calls.history := by
    intro action other cleared
    exact (Calls.cleared_of_step cleared).resolve_right other
  have ofHook : ∀ {handle}, .cleared ∈ (session.runHook handle).calls.history →
      .cleared ∈ session.calls.history := by
    intro handle cleared
    unfold runHook at cleared
    split at cleared
    · exact ofCall (by simp) cleared
    · exact cleared
  cases steps with
  | closed =>
      unfold close at cleared ⊢
      split at cleared
      · exact .inl cleared
      · exact .inl cleared
      · exact .inl cleared
      · exact .inl cleared
      · exact .inl (ofHook cleared)
      · rename_i stage
        rw [stage]
        exact .inr ⟨rfl, rfl⟩
      · exact .inl cleared
      · exact .inl cleared
      · exact .inl cleared
  | opened address => exact .inl (ofCall (by simp) cleared)
  | turned id => exact .inl (ofCall (by simp) cleared)
  | dialled found phase =>
      rename_i id caller reference
      obtain same | ⟨attempt, stepped⟩ :=
        session.calls_connect os names id caller.address
      · exact .inl (same ▸ cleared)
      · rw [stepped] at cleared
        exact .inl (ofCall (by simp) cleared)
  | resumed id => exact .inl (ofCall (by simp) cleared)
  | judged found phase => exact .inl (ofCall (by simp) cleared)
  | looked address => exact .inl (ofCall (by simp) cleared)
  | hooked found hooks => exact .inl (ofHook cleared)
  | _ => exact .inl cleared

theorem kept_connect (os : OperatingSystem σ) (names : NameService)
    (session : Session σ η) (id : CallerId) (address : Address) :
    (session.connect os names id address).closing = session.closing ∧
      (session.connect os names id address).returned = session.returned := by
  have keeps : ∀ (session : Session σ η) (link : Link),
      (session.keep os link).closing = session.closing ∧
        (session.keep os link).returned = session.returned := by
    intro session link
    unfold keep
    split <;> exact ⟨rfl, rfl⟩
  have attempts := session.attempts_connect os names id address
  generalize session.connect os names id address = next at attempts ⊢
  cases attempts with
  | connected stage =>
      obtain ⟨closing, returned⟩ := keeps _ _
      refine ⟨closing.trans ?_, returned.trans ?_⟩
      · split <;> rfl
      · split <;> rfl
  | _ => exact ⟨rfl, rfl⟩

theorem Steps.staysShut {os : OperatingSystem σ} {names : NameService}
    (steps : Steps os names session next)
    (shut : session.closing ≠ .idle → session.transport.closed = true)
    (began : next.closing ≠ .idle) : next.transport.closed = true := by
  have stays : next.closing = session.closing →
      next.transport.closed = true := fun same =>
    steps.staysClosed (shut (same ▸ began))
  cases steps with
  | closed =>
      cases stage : session.closing with
      | idle =>
          simp only [Session.close, stage]
          rfl
      | _ =>
          have again : Steps os names session (session.close os) := .closed
          exact again.staysClosed (shut (by simp [stage]))
  | dialled found phase =>
      exact stays (kept_connect os names session _ _).1
  | hooked found hooks =>
      apply stays
      rw [runHook_eq]
      rfl
  | _ => exact stays rfl

/-- No second attempt begins for an address: as long as entries have not been removed
all at once since none connects then, and afterwards since none begins at all. -/
theorem Sole.of_steps {owner : ReferenceId → Address} (sole : session.Sole)
    (sound : Calls.Sound owner session.calls) (sockets : Sockets session)
    (early : .cleared ∈ session.calls.history →
      session.transport.closed = true)
    (shut : session.closing ≠ .idle → session.transport.closed = true)
    {os : OperatingSystem σ} {names : NameService}
    (steps : Steps os names session next) : next.Sole := by
  obtain ⟨after, sound'⟩ : ∃ after, Calls.Sound after next.calls := by
    obtain same | ⟨taken, stepped⟩ := Follows.of_steps steps
    · exact ⟨owner, same ▸ sound⟩
    · obtain ⟨after, sound'⟩ := sound.step taken
      exact ⟨after, stepped ▸ sound'⟩
  have sockets' := sockets.of_steps sound steps
  have was : ∀ {id : CallerId} {caller : Caller Link},
      next.calls.callers[id]? = some caller →
        (session.dial id).begun = true →
          ∃ before, session.calls.callers[id]? = some before ∧
            caller.address = before.address := by
    intro id caller found begun
    have known : ∃ before, session.calls.callers[id]? = some before := by
      by_contra none
      have idle := sockets.fresh id fun reference stands => by
        obtain ⟨before, found', -⟩ := Calls.phaseAt_eq_some_iff.mp stands
        exact none ⟨before, found'⟩
      simp [idle, Dial.begun] at begun
    obtain ⟨before, found'⟩ := known
    refine ⟨before, found', ?_⟩
    obtain same | ⟨taken, stepped⟩ := Follows.of_steps steps
    · rw [same, found'] at found
      obtain rfl := Option.some.inj found
      rfl
    · rw [stepped] at found
      exact sound.address_step taken found' found
  intro id other caller caller' found found' same begun begun'
  cases closed : session.transport.closed with
  | true =>
      have subsides := Subsides.of_steps sockets closed steps
      have began := subsides.begun id begun
      have began' := subsides.begun other begun'
      obtain ⟨before, here, address⟩ := was found began
      obtain ⟨before', here', address'⟩ := was found' began'
      exact sole id other before before' here here'
        (address.symm.trans (same.trans address')) began began'
  | false =>
      have whole : .cleared ∉ next.calls.history := by
        intro cleared
        rcases cleared_of_steps steps cleared with before | ⟨stage, -⟩
        · simp [early before] at closed
        · simp [shut (by simp [stage])] at closed
      have connects : ∀ {id : CallerId} {caller : Caller Link},
          next.calls.callers[id]? = some caller →
            (next.dial id).begun = true →
              ∃ reference, caller.phase = .connecting reference := by
        intro id caller found begun
        by_contra none
        have idle := sockets'.fresh id fun reference stands => by
          obtain ⟨again, found', phase⟩ := Calls.phaseAt_eq_some_iff.mp stands
          obtain rfl := Option.some.inj (found.symm.trans found')
          exact none ⟨reference, phase⟩
        simp [idle, Dial.begun] at begun
      obtain ⟨reference, phase⟩ := connects found begun
      obtain ⟨reference', phase'⟩ := connects found' begun'
      exact sound'.sole_of_connecting whole found found' phase phase' same

theorem Sealing.of_steps {owner : ReferenceId → Address}
    (seals : Sealing session) (sound : Calls.Sound owner session.calls)
    (sockets : Sockets session) {os : OperatingSystem σ} {names : NameService}
    (steps : Steps os names session next) : Sealing next := by
  refine ⟨steps.staysShut seals.shut, ?_, ?_,
    seals.sole.of_steps sound sockets seals.early seals.shut steps⟩
  · intro cleared
    rcases cleared_of_steps steps cleared with before | ⟨-, rfl⟩
    · have subsides := Subsides.of_steps sockets (seals.early before) steps
      exact (seals.barren before).subsides sound subsides
    · refine ⟨?_, ?_⟩
      · exact fun address reference found => by cases found
      · exact fun address reference id found => by cases found
  · intro cleared
    rcases cleared_of_steps steps cleared with before | ⟨stage, -⟩
    · exact steps.staysClosed (seals.early before)
    · exact steps.staysClosed (seals.shut (by simp [stage]))

/-- What comes of a closed transport: no attempt has begun that had not before, and
every error handed out since says that the transport is closed. -/
structure Ebbs (session after : Session σ η) : Prop where
  closed : after.transport.closed = true
  barren : session.Barren → after.Barren
  begun : ∀ id, (after.dial id).begun = true → (session.dial id).begun = true
  told : ∃ more, after.returned = session.returned ++ more ∧
    ∀ id error, (id, .error error) ∈ more → error = .closed

namespace Ebbs

variable {after : Session σ η}

theorem refl (closed : session.transport.closed = true) :
    Ebbs session session :=
  ⟨closed, id, fun _ begun => begun, [], (List.append_nil _).symm, by simp⟩

theorem of_steps {owner : ReferenceId → Address} (ebbs : Ebbs session after)
    (sound : Calls.Sound owner after.calls) (sockets : Sockets after)
    {os : OperatingSystem σ} {names : NameService}
    (steps : Steps os names after next) : Ebbs session next := by
  have subsides := Subsides.of_steps sockets ebbs.closed steps
  refine ⟨steps.staysClosed ebbs.closed,
    fun barren => (ebbs.barren barren).subsides sound subsides,
    fun id begun => ebbs.begun id (subsides.begun id begun), ?_⟩
  have still : next.returned = after.returned → ∃ more,
      next.returned = session.returned ++ more ∧
        ∀ id error, (id, .error error) ∈ more → error = .closed :=
    fun same => same ▸ ebbs.told
  cases steps with
  | handed handed =>
      rename_i id outcome
      obtain ⟨more, same, told⟩ := ebbs.told
      refine ⟨more ++ [(id, outcome)], ?_, ?_⟩
      · simp only [same, List.append_assoc]
      · intro other error member
        rcases List.mem_append.mp member with before | now
        · exact told other error before
        · obtain ⟨-, rfl⟩ := Prod.mk.inj (List.mem_singleton.mp now)
          rw [ebbs.closed] at handed
          unfold Transport.outcome at handed
          split at handed <;> simp_all
  | dialled found phase => exact still (kept_connect os names after _ _).2
  | hooked found hooks =>
      apply still
      rw [runHook_eq]
      rfl
  | closed =>
      apply still
      unfold Session.close
      split <;> try rfl
      rw [runHook_eq]
      rfl
  | _ => exact still rfl

end Ebbs

/-- What holds at first and is kept by each step, given what holds in every run, holds
in the end. -/
theorem run_induction (os : OperatingSystem σ) (names : NameService)
    {holds : Session σ η → Prop}
    (keeps : ∀ {session next : Session σ η} {owner : ReferenceId → Address},
      Calls.Sound owner session.calls → Sockets session →
        Steps os names session next → holds session → holds next)
    {owner : ReferenceId → Address} (sound : Calls.Sound owner session.calls)
    (sockets : Sockets session) (now : holds session)
    (actions : List Action) :
    holds (session.run os names actions) := by
  induction actions generalizing session owner with
  | nil => exact now
  | cons action actions induction =>
      have steps := steps_step os names session action
      have sockets' := sockets.of_steps sound steps
      have next := keeps sound sockets steps now
      obtain same | ⟨taken, stepped⟩ := Follows.of_steps steps
      · exact induction (same ▸ sound) sockets' next
      · obtain ⟨after, sound'⟩ := sound.step taken
        exact induction (stepped ▸ sound') sockets' next

/-- Take any run in which links are opened while the transport is closed, and any that
follows.  Once all entries were removed, no link is found at any address, then and
afterwards.  No two attempts for one address have begun at any time.  Once the
transport is closed, an attempt that looks whether it is fails at once, so that none
begins any more; all errors that are handed out say that the transport is closed; and
whoever opens a link then gets that error at once, without a caller that could connect
or change the cache. -/
theorem closing_wins (os : OperatingSystem σ) (names : NameService)
    (config : TransportConfig) (host : String) (listener : Bound)
    (workers : WorkerPools) (resources : Resources σ)
    (actions later : List Action) :
    let session := (start config host listener workers resources :
      Session σ η).run os names actions
    let after := session.run os names later
    (.cleared ∈ session.calls.history →
      ∀ address, after.calls.cache.get? address = none) ∧
    session.Sole ∧
    (session.transport.closed = true →
      (∀ id, session.dial id = .check → after.dial id = .check) ∧
      (∀ (id : CallerId) caller reference,
        session.calls.callers[id]? = some caller →
          caller.phase = .connecting reference → session.dial id = .check →
            session.step os names (.dial id) =
              session.call (.connected id (.failed Transport.closedError))) ∧
      (∃ more, after.returned = session.returned ++ more ∧
        ∀ id error, (id, .error error) ∈ more → error = .closed) ∧
      ∀ address, session.step os names (.openLink address) = session ∧
        ∀ meanwhile,
          let transport :=
            { session.transport with cache := session.calls.cache }
          Transport.openLink os names meanwhile transport address
              session.resources =
            (some (.error .closed), ⟨transport, session.resources, [], []⟩)) := by
  intro session after
  obtain ⟨⟨owner, sound⟩, sockets, -⟩ := invariants_run os names
    (Calls.sound_start fun _ => ⟨"", 0⟩)
    (sockets_start config host listener workers resources : Sockets _)
    (upkeep_start config host listener workers resources : Upkeep _) actions
  have seals : Sealing session := by
    refine run_induction os names ?_ (Calls.sound_start fun _ => ⟨"", 0⟩)
      (sockets_start config host listener workers resources)
      (sealing_start config host listener workers resources) actions
    exact fun sound sockets steps seals => seals.of_steps sound sockets steps
  have ebbs : session.transport.closed = true → Ebbs session after := by
    intro closed
    refine run_induction os names ?_ sound sockets (.refl closed) later
    exact fun sound sockets steps ebbs => ebbs.of_steps sound sockets steps
  refine ⟨?_, seals.sole, ?_⟩
  · intro cleared
    exact ((ebbs (seals.early cleared)).barren
      (seals.barren cleared)).get?_eq_none
  · intro closed
    refine ⟨?_, ?_, (ebbs closed).told, ?_⟩
    · intro id begins
      apply Dial.begun_eq_false_iff.mp
      apply Bool.eq_false_iff.mpr
      intro begun
      have before := (ebbs closed).begun id begun
      rw [begins] at before
      cases before
    · intro id caller reference found phase begins
      simp only [step, dialOn, found, phase, if_true]
      exact connect_of_closed os names closed begins caller.address
    · intro address
      constructor
      · simp only [step, openLink, closed, if_true]
      · intro meanwhile transport
        have shut : transport.closed = true := closed
        simp only [Transport.openLink, shut, if_true]

/-- Two links are being opened when the cache is cleared.  The first is connected
afterwards, and nobody finds it; for the second an entry is made afterwards, and the
attempt fails, which is told as that the transport is closed. -/
theorem closing_wins_over_two :
    let target : SocketAddress := ⟨.v4 .localhost, 9000⟩
    let resources :=
      ((Resources.start (Network.start true .none)).listen Network.os
        default target).2
    let names : NameService := ⟨.ok [], [("peer", .ok [target.ip])]⟩
    let first : Address := ⟨"127.0.0.1", 9000⟩
    let second : Address := ⟨"peer", 9000⟩
    let actions : List Action :=
      [.openLink first] ++ List.replicate 4 (.turn 0) ++
        List.replicate 10 (.dial 0) ++ [.openLink second, .turn 1] ++
        List.replicate 4 .close
    let later : List Action :=
      List.replicate 4 (.dial 0) ++ List.replicate 2 (.turn 0) ++
        [.judge 0, .handOut 0] ++ List.replicate 3 (.turn 1) ++
        [.dial 1, .turn 1, .handOut 1]
    let session := (start default "127.0.0.1" ⟨0, target⟩ ⟨[]⟩ resources :
      Session Network Unit).run Network.os names actions
    let after := session.run Network.os names later
    let link : Issued Link := ⟨0, 1, ⟨.v4 .localhost, 60000⟩, target, true⟩
    .cleared ∈ session.calls.history ∧
      session.transport.closed = true ∧
      after.calls.cache.find? first = none ∧
      after.calls.cache.find? second = some 1 ∧
      after.calls.callers.map Caller.result? =
        [some (.link link),
          some (.error (.io "connect" Transport.closedError))] ∧
      after.returned = [(0, .ok link), (1, .error .closed)] ∧
      (∀ address, after.calls.cache.get? address = none) ∧
      ∀ id, session.dial id = .check → after.dial id = .check := by
  intro target resources names first second actions later session after link
  have cleared : .cleared ∈ session.calls.history := by decide +kernel
  have closed : session.transport.closed = true := by decide +kernel
  have reached : (start default "127.0.0.1" ⟨0, target⟩ ⟨[]⟩ resources :
      Session Network Unit).run Network.os names actions = session := rfl
  have reached' : session.run Network.os names later = after := rfl
  have wins := closing_wins (η := Unit) Network.os names default "127.0.0.1"
    ⟨0, target⟩ ⟨[]⟩ resources actions later
  rw [reached] at wins
  obtain ⟨nothing, -, shut⟩ := wins
  obtain ⟨stays, -, -, -⟩ := shut closed
  rw [reached'] at nothing stays
  have unfound : after.calls.cache.find? first = none := by decide +kernel
  have found : after.calls.cache.find? second = some 1 := by decide +kernel
  have results : after.calls.callers.map Caller.result? =
      [some (.link link),
        some (.error (.io "connect" Transport.closedError))] := by
    decide +kernel
  have returned : after.returned = [(0, .ok link), (1, .error .closed)] := by
    decide +kernel
  exact ⟨cleared, closed, unfound, found, results, returned, nothing cleared,
    stays⟩

end Session

end RemoteMessaging
