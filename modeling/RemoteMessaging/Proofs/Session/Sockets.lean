import RemoteMessaging.Proofs.Session.Steps

/-!
# Sockets and links

Each attempt to connect has a socket of its own, which becomes that of its link.
So no two links that were established share a socket, and neither does a link
with an attempt that is under way.
-/

namespace RemoteMessaging

variable {σ η : Type}

namespace Resources

theorem made_closeAll (os : OperatingSystem σ) (handles : List Handle)
    (resources : Resources σ) :
    (resources.closeAll os handles).made = resources.made := by
  induction handles generalizing resources with
  | nil => rfl
  | cons handle handles induction => exact induction (resources.close os handle)

end Resources

namespace Session

/-- The socket of an attempt, or of a link that is about to be stored. -/
def carried (session : Session σ η) (id : CallerId) : Option Handle :=
  match session.calls.phaseAt id with
  | some (.connecting _) => (session.dial id).handle?
  | some (.store _ link) => some link.handle
  | _ => none

/-- No two of those who have a socket share it. -/
structure Sockets (session : Session σ η) : Prop where
  fresh : ∀ id, (∀ reference,
    session.calls.phaseAt id ≠ some (.connecting reference)) →
      session.dial id = .check
  carried : ∀ id handle, session.carried id = some handle →
    handle < session.resources.made ∧ ∀ link,
      session.calls.Established link → link.link.handle ≠ handle
  alone : ∀ id other handle, session.carried id = some handle →
    session.carried other = some handle → id = other
  linked : ∀ link, session.calls.Established link →
    link.link.handle < session.resources.made
  apart : ∀ first second, session.calls.Established first →
    session.calls.Established second →
      first.link.handle = second.link.handle → first = second

theorem sockets_start (config : TransportConfig) (host : String)
    (listener : Bound) (workers : WorkerPools) (resources : Resources σ) :
    Sockets (start config host listener workers resources : Session σ η) := by
  have nothing : ∀ link, ¬ (start config host listener workers resources :
      Session σ η).calls.Established link := by
    simp [Calls.Established, start, Calls.start, LinkCache.empty,
      LinkCache.reference, Reference.new]
  have nobody : ∀ id, (start config host listener workers resources :
      Session σ η).carried id = none := by
    simp [carried, start, Calls.start, Calls.phaseAt]
  refine ⟨fun _ _ => rfl, ?_, ?_, ?_, ?_⟩
  · simp [nobody]
  · simp [nobody]
  · exact fun link established => (nothing link established).elim
  · exact fun link _ established => (nothing link established).elim

/-- How sockets pass on in a step: at most one caller gets a new one, or stores its
link. -/
inductive Passes (session next : Session σ η) : Prop where
  | intro (own : CallerId) (stored : Option (Issued Link))
      (fresh : ∀ id, (∀ reference,
        next.calls.phaseAt id ≠ some (.connecting reference)) →
          next.dial id = .check)
      (grows : session.resources.made ≤ next.resources.made)
      (others : ∀ id handle, id ≠ own → next.carried id = some handle →
        session.carried id = some handle)
      (mine : ∀ handle, next.carried own = some handle →
        session.carried own = some handle ∨
          session.resources.made ≤ handle ∧ handle < next.resources.made)
      (established : ∀ link, next.calls.Established link ↔
        session.calls.Established link ∨ stored = some link)
      (moved : ∀ link, stored = some link →
        session.carried own = some link.link.handle ∧
          next.carried own = none)

variable {session next : Session σ η}

theorem Passes.still {after : Session σ η} (passes : Passes session next)
    (calls : after.calls = next.calls) (dial : after.dial = next.dial)
    (made : after.resources.made = next.resources.made) :
    Passes session after := by
  obtain ⟨own, stored, fresh, grows, others, mine, established, moved⟩ := passes
  have carried : after.carried = next.carried := by
    funext id
    simp only [Session.carried, calls, dial]
  rw [← calls] at fresh established
  rw [← dial] at fresh
  rw [← made] at grows mine
  rw [← carried] at others mine moved
  exact ⟨own, stored, fresh, grows, others, mine, established, moved⟩

theorem Passes.sockets (passes : Passes session next)
    (sockets : Sockets session) : Sockets next := by
  obtain ⟨own, stored, fresh, grows, others, mine, established, moved⟩ := passes
  refine ⟨fresh, ?_, ?_, ?_, ?_⟩
  · intro id handle carries
    by_cases same : id = own
    · subst same
      have old : ∀ link, next.calls.Established link →
          session.calls.Established link := by
        intro link linked
        rcases (established link).mp linked with before | now
        · exact before
        · have none := (moved link now).2
          simp [carries] at none
      rcases mine handle carries with before | ⟨above, below⟩
      · obtain ⟨below, different⟩ := sockets.carried id handle before
        exact ⟨Nat.lt_of_lt_of_le below grows, fun link linked =>
          different link (old link linked)⟩
      · refine ⟨below, ?_⟩
        intro link linked equal
        have bound := sockets.linked link (old link linked)
        rw [equal] at bound
        exact Nat.not_lt_of_le above bound
    · have before := others id handle same carries
      obtain ⟨below, different⟩ := sockets.carried id handle before
      refine ⟨Nat.lt_of_lt_of_le below grows, ?_⟩
      intro link linked equal
      rcases (established link).mp linked with earlier | now
      · exact different link earlier equal
      · have carries' := (moved link now).1
        rw [equal] at carries'
        exact same (sockets.alone id own handle before carries')
  · have unlike : ∀ id handle, id ≠ own → next.carried id = some handle →
        next.carried own ≠ some handle := by
      intro id handle different carries carries'
      have before := others id handle different carries
      rcases mine handle carries' with earlier | ⟨above, -⟩
      · exact different (sockets.alone id own handle before earlier)
      · exact Nat.not_lt_of_le above (sockets.carried id handle before).1
    intro id other handle carries carries'
    by_cases first : id = own
    · by_cases second : other = own
      · exact first.trans second.symm
      · exact (unlike other handle second carries' (first ▸ carries)).elim
    · by_cases second : other = own
      · exact (unlike id handle first carries (second ▸ carries')).elim
      · exact sockets.alone id other handle (others id handle first carries)
          (others other handle second carries')
  · intro link linked
    rcases (established link).mp linked with before | now
    · exact Nat.lt_of_lt_of_le (sockets.linked link before) grows
    · exact Nat.lt_of_lt_of_le
        (sockets.carried own _ (moved link now).1).1 grows
  · intro first second linked linked' equal
    rcases (established first).mp linked with before | now <;>
      rcases (established second).mp linked' with before' | now'
    · exact sockets.apart first second before before' equal
    · have different :=
        (sockets.carried own _ (moved second now').1).2 first before
      exact (different equal).elim
    · have different :=
        (sockets.carried own _ (moved first now).1).2 second before'
      exact (different equal.symm).elim
    · exact Option.some.inj (now.symm.trans now')

namespace Sockets

theorem congr (sockets : Sockets session)
    (dial : next.dial = session.dial)
    (made : next.resources.made = session.resources.made)
    (phases : ∀ id, next.calls.phaseAt id = session.calls.phaseAt id)
    (established : ∀ link, next.calls.Established link ↔
      session.calls.Established link) : Passes session next := by
  have carried : ∀ id, next.carried id = session.carried id := by
    intro id
    simp only [Session.carried, phases, dial]
  refine .intro 0 none ?_ (Nat.le_of_eq made.symm) ?_ ?_ ?_ (by simp)
  · intro id idle
    rw [dial]
    apply sockets.fresh
    intro reference
    rw [← phases]
    exact idle reference
  · intro id handle _ carries
    rwa [carried] at carries
  · intro handle carries
    rw [carried] at carries
    exact .inl carries
  · simpa using established

theorem still (sockets : Sockets session)
    (calls : next.calls = session.calls) (dial : next.dial = session.dial)
    (made : next.resources.made = session.resources.made) :
    Passes session next :=
  sockets.congr dial made (fun id => by rw [calls]) fun link => by rw [calls]

/-- A caller that does not connect has moved on to a phase in which it has no
socket. -/
def Clears (session : Session σ η) (calls : Calls Link) (id : CallerId) :
    Prop :=
  (∀ reference, session.calls.phaseAt id ≠ some (.connecting reference)) ∧
    ∀ reference link, calls.phaseAt id ≠ some (.store reference link)

theorem clears_turn (session : Session σ η) (id : CallerId) :
    (session.calls.turn id).phaseAt id = session.calls.phaseAt id ∨
      Clears session (session.calls.turn id) id := by
  obtain same | ⟨caller, next, cache, warning, found, taken, lands⟩ :=
    session.calls.phaseAt_turn_self id
  · exact .inl same
  · obtain ⟨plain, idle⟩ := Caller.phase_of_turn taken
    refine .inr ⟨?_, ?_⟩
    · intro reference phase
      obtain ⟨caller', again, connecting⟩ :=
        Calls.phaseAt_eq_some_iff.mp phase
      obtain rfl := Option.some.inj (found.symm.trans again)
      exact idle reference connecting
    · intro reference link phase
      rw [lands] at phase
      simp [Option.some.inj phase, Caller.Phase.Answered] at plain

theorem clears_answer (session : Session σ η) (id : CallerId)
    (change : Caller Link → Caller Link)
    (change_cases : ∀ caller : Caller Link, change caller = caller ∨
      (∀ reference, caller.phase ≠ .connecting reference) ∧
        ∀ reference link, (change caller).phase ≠ .store reference link) :
    (session.calls.answer id change).phaseAt id = session.calls.phaseAt id ∨
      Clears session (session.calls.answer id change) id := by
  cases found : session.calls.callers[id]? with
  | none =>
      left
      simp [Calls.answer, found]
  | some caller =>
      rw [Clears, Calls.phaseAt_answer_self found]
      obtain same | ⟨idle, plain⟩ := change_cases caller
      · left
        rw [same]
        exact (Calls.phaseAt_eq_some_iff.mpr ⟨caller, found, rfl⟩).symm
      · refine .inr ⟨?_, ?_⟩
        · intro reference phase
          obtain ⟨caller', again, connecting⟩ :=
            Calls.phaseAt_eq_some_iff.mp phase
          obtain rfl := Option.some.inj (found.symm.trans again)
          exact idle reference connecting
        · intro reference link phase
          exact plain reference link (Option.some.inj phase)

theorem clears_resumed (session : Session σ η) (id : CallerId) :
    (session.calls.answer id (·.resumed)).phaseAt id =
        session.calls.phaseAt id ∨
      Clears session (session.calls.answer id (·.resumed)) id := by
  apply clears_answer
  intro caller
  unfold Caller.resumed
  split
  · rename_i phase
    refine .inr ⟨by simp [phase], ?_⟩
    intro reference link stores
    have plain := caller.not_answered_advance
    simp [stores, Caller.Phase.Answered] at plain
  · exact .inl rfl

theorem clears_judged (session : Session σ η) (id : CallerId) (live : Bool) :
    (session.calls.answer id (·.judged live)).phaseAt id =
        session.calls.phaseAt id ∨
      Clears session (session.calls.answer id (·.judged live)) id := by
  apply clears_answer
  intro caller
  unfold Caller.judged
  split
  · rename_i phase
    refine .inr ⟨by simp [phase], ?_⟩
    intro reference link
    split <;> simp [Caller.finish, Caller.enterPhase]
  · exact .inl rfl

theorem clears_call (session : Session σ η) (address : Address)
    (policy : RetryPolicy) :
    Clears session (session.calls.call address policy true)
      session.calls.callers.length := by
  constructor
  · simp [Calls.phaseAt_length]
  · simp [session.calls.phaseAt_call_self address policy true]

/-- Whoever comes to connect is about to begin its attempt. -/
theorem carried_of_clears (sockets : Sockets session) {calls : Calls Link}
    {id : CallerId} (clears : Clears session calls id) :
    Session.carried { session with calls := calls } id = none := by
  have begins := sockets.fresh id clears.1
  simp only [Session.carried]
  split
  · rw [begins]
    rfl
  · rename_i reference link phase
    exact (clears.2 reference link phase).elim
  · rfl

theorem call (sockets : Sockets session) (own : CallerId) {calls : Calls Link}
    {stored : Option (Issued Link)} {evicted : Issued Link → Prop}
    (changes : Calls.Changes session.calls calls stored evicted)
    (others : ∀ id, id ≠ own →
      calls.phaseAt id = session.calls.phaseAt id)
    (mine : calls.phaseAt own = session.calls.phaseAt own ∨
      Clears session calls own)
    (moved : ∀ link, stored = some link →
      session.carried own = some link.link.handle ∧
        Clears session calls own) :
    Passes session { session with calls := calls } := by
  have unchanged : ∀ id, calls.phaseAt id = session.calls.phaseAt id →
      Session.carried { session with calls := calls } id =
        session.carried id := by
    intro id same
    simp only [Session.carried, same]
  apply Passes.intro own stored
  · intro id idle
    by_cases same : id = own
    · subst same
      rcases mine with still | clears
      · apply sockets.fresh
        intro reference
        rw [← still]
        exact idle reference
      · exact sockets.fresh id clears.1
    · apply sockets.fresh
      intro reference
      rw [← others id same]
      exact idle reference
  · exact Nat.le_refl _
  · intro id handle different carries
    rwa [unchanged id (others id different)] at carries
  · intro handle carries
    left
    rcases mine with still | clears
    · rwa [unchanged own still] at carries
    · simp [sockets.carried_of_clears clears] at carries
  · exact changes.established
  · intro link now
    obtain ⟨before, clears⟩ := moved link now
    exact ⟨before, sockets.carried_of_clears clears⟩

theorem turn (sockets : Sockets session) {owner : ReferenceId → Address}
    (sound : Calls.Sound owner session.calls) (id : CallerId) :
    Passes session (session.call (.turn id)) := by
  have others : ∀ other, other ≠ id →
      (session.calls.turn id).phaseAt other = session.calls.phaseAt other :=
    fun other different => session.calls.phaseAt_turn_of_ne different
  have mine := clears_turn session id
  obtain changes | ⟨caller, reference, link, found, phase, changes, -⟩ |
      ⟨caller, link, found, phase, changes⟩ := sound.turn_changes id
  · exact sockets.call id changes others mine (by simp)
  · apply sockets.call id changes others mine
    rintro _ ⟨⟩
    have stands : session.calls.phaseAt id = some (.store reference link) :=
      Calls.phaseAt_eq_some_iff.mpr ⟨caller, found, phase⟩
    have after : (session.calls.turn id).phaseAt id = some
        (.publish reference (session.calls.cache.store reference link).1) := by
      have below := (List.getElem?_eq_some_iff.mp found).1
      simp only [Calls.phaseAt, Calls.turn, found, Caller.turn, phase,
        List.getElem?_set_self below, Option.map_some, Caller.enterPhase]
    refine ⟨by simp only [Session.carried, stands], ?_, ?_⟩
    · simp [stands]
    · simp [after]
  · exact sockets.call id changes others mine (by simp)

theorem answer (sockets : Sockets session) (id : CallerId)
    (change : Caller Link → Caller Link)
    (mine : (session.calls.answer id change).phaseAt id =
        session.calls.phaseAt id ∨
      Clears session (session.calls.answer id change) id) :
    Passes session { session with calls := session.calls.answer id change } := by
  have changes : Calls.Changes session.calls (session.calls.answer id change)
      none fun _ => False := by
    exact .of_cache (session.calls.cache_answer id change)
  apply sockets.call id changes
  · exact fun other different =>
      session.calls.phaseAt_answer_of_ne different change
  · exact mine
  · simp

theorem entries (sockets : Sockets session) {calls : Calls Link}
    {evicted : Issued Link → Prop}
    (callers : calls.callers = session.calls.callers)
    (changes : Calls.Changes session.calls calls none evicted) :
    Passes session { session with calls := calls } := by
  refine sockets.congr rfl rfl ?_ ?_
  · intro id
    simp [Calls.phaseAt, callers]
  · intro link
    simpa using changes.established link

/-! ## Connecting -/

theorem proceed (sockets : Sockets session) {id : CallerId}
    {reference : ReferenceId}
    (phase : session.calls.phaseAt id = some (.connecting reference))
    (dial : Dial σ)
    (calls : next.calls = session.calls)
    (dials : next.dial = fun other =>
      if other = id then dial else session.dial other)
    (grows : session.resources.made ≤ next.resources.made)
    (own : ∀ handle, dial.handle? = some handle →
      (session.dial id).handle? = some handle ∨
        session.resources.made ≤ handle ∧ handle < next.resources.made) :
    Passes session next := by
  apply Passes.intro id none
  · intro other idle
    rw [calls] at idle
    have different : other ≠ id := by
      intro same
      exact idle reference (same ▸ phase)
    simp only [dials, different, if_false]
    exact sockets.fresh other idle
  · exact grows
  · intro other handle different carries
    simpa only [Session.carried, calls, dials, different, if_false] using
      carries
  · intro handle carries
    simp only [Session.carried, calls, dials, phase, if_true] at carries ⊢
    exact own handle carries
  · intro link
    simp [Calls.Established, calls]
  · simp

/-- An attempt is over: its socket becomes that of a link, or is nobody's. -/
theorem settle (sockets : Sockets session) {id : CallerId}
    {reference : ReferenceId}
    (phase : session.calls.phaseAt id = some (.connecting reference))
    (attempt : Attempt Link)
    (calls : next.calls = session.calls)
    (dials : next.dial = session.dial)
    (grows : session.resources.made ≤ next.resources.made)
    (own : ∀ link, attempt = .connected link →
      (session.dial id).handle? = some link.handle) :
    Passes session (next.settle id attempt) := by
  obtain ⟨caller, found, connecting⟩ := Calls.phaseAt_eq_some_iff.mp phase
  have mine : (next.settle id attempt).calls.phaseAt id =
      some (caller.connected attempt).phase := by
    apply Calls.phaseAt_answer_self
    simpa only [Session.proceed, calls] using found
  have others : ∀ other, other ≠ id →
      (next.settle id attempt).calls.phaseAt other =
        session.calls.phaseAt other := by
    intro other different
    rw [← calls]
    exact next.calls.phaseAt_answer_of_ne different _
  have cache : (next.settle id attempt).calls.cache = session.calls.cache := by
    rw [← calls]
    exact next.calls.cache_answer id _
  apply Passes.intro id none
  · intro other idle
    by_cases same : other = id
    · simp [Session.settle, Session.proceed, Session.call, same]
    · simp only [Session.settle, Session.proceed, Session.call, same, if_false,
        dials]
      apply sockets.fresh
      intro reference
      rw [← others other same]
      exact idle reference
  · exact grows
  · intro other handle different carries
    have dial : (next.settle id attempt).dial other = session.dial other := by
      simp [Session.settle, Session.proceed, Session.call, different, dials]
    rwa [Session.carried, others other different, dial] at carries
  · intro handle carries
    left
    simp only [Session.carried, mine, phase] at carries ⊢
    cases attempt with
    | connected link =>
        simp only [Caller.connected, connecting, Caller.enterPhase,
          Option.some.injEq] at carries
        rw [own link rfl, carries]
    | failed error =>
        by_cases refused : error.isConnectRefused <;>
          simp [Caller.connected, connecting, Caller.enterPhase, refused]
            at carries
    | panicked =>
        simp [Caller.connected, connecting, Caller.enterPhase] at carries
  · intro link
    simp [Calls.Established, cache]
  · simp

/-- An attempt takes its next step. -/
theorem connect (sockets : Sockets session) (os : OperatingSystem σ)
    (names : NameService) {id : CallerId} {reference : ReferenceId}
    (phase : session.calls.phaseAt id = some (.connecting reference))
    (address : Address) : Passes session (session.connect os names id address) := by
  have attempts := session.attempts_connect os names id address
  generalize session.connect os names id address = next at attempts ⊢
  cases attempts with
  | failed resources error made =>
      exact sockets.settle phase _ rfl rfl (Nat.le_of_eq made.symm) (by simp)
  | began bare =>
      exact sockets.proceed phase _ rfl rfl (Nat.le_refl _) (by simp [bare])
  | created resources target requests made =>
      have grows := Nat.lt_of_lt_of_eq (Nat.lt_succ_self _) made.symm
      refine sockets.proceed phase _ rfl rfl (Nat.le_of_lt grows) ?_
      rintro _ ⟨⟩
      exact .inr ⟨Nat.le_refl _, grows⟩
  | prepared resources stage made =>
      refine sockets.proceed phase _ rfl rfl (Nat.le_of_eq made.symm) ?_
      rintro _ ⟨⟩
      exact .inl (by rw [stage]; rfl)
  | registered resources own stage made =>
      refine sockets.proceed phase _ rfl rfl (Nat.le_of_eq made.symm) ?_
      rintro _ ⟨⟩
      exact .inl (by rw [stage]; rfl)
  | watched stage same =>
      refine sockets.proceed phase _ rfl rfl (Nat.le_refl _) ?_
      rw [Dial.handle?_of_link? stage, Dial.handle?_of_link? same]
      exact fun _ carries => .inl carries
  | started stage =>
      refine sockets.proceed phase _ rfl rfl (Nat.le_refl _) ?_
      rintro _ ⟨⟩
      exact .inl (by rw [stage]; rfl)
  | connected stage =>
      rename_i link informed
      refine sockets.settle phase (.connected link) ?_ ?_ ?_ ?_
      · rw [calls_keep]
        split <;> rfl
      · rw [dial_keep]
        split <;> rfl
      · rw [made_keep]
        split <;> exact Nat.le_refl _
      · rintro _ ⟨⟩
        rw [stage]
        rfl

/-! ## Steps -/

theorem opens (sockets : Sockets session) (address : Address) :
    Passes session (session.call
      (.call address session.transport.config.retry true)) := by
  have changes : Calls.Changes session.calls
      (session.calls.call address session.transport.config.retry true)
      none fun _ => False := .of_cache rfl
  have mine := clears_call session address session.transport.config.retry
  refine sockets.call session.calls.callers.length changes ?_ (.inr mine) ?_
  · exact fun id different =>
      session.calls.phaseAt_call_of_ne different address _ true
  · simp

theorem resumes (sockets : Sockets session) (id : CallerId) :
    Passes session (session.call (.resumed id)) :=
  sockets.answer id _ (clears_resumed session id)

theorem judges (sockets : Sockets session) (id : CallerId) (live : Bool) :
    Passes session (session.call (.judged id live)) :=
  sockets.answer id _ (clears_judged session id live)

theorem runHook (sockets : Sockets session) (handle : Handle) :
    Passes session (session.runHook handle) := by
  unfold Session.runHook
  split
  · exact sockets.entries rfl (.of_evictIf rfl)
  · exact sockets.still rfl rfl rfl

theorem close (sockets : Sockets session) (os : OperatingSystem σ) :
    Passes session (session.close os) := by
  unfold Session.close
  split
  · exact sockets.still rfl rfl rfl
  · exact sockets.still rfl rfl rfl
  · exact sockets.still rfl rfl rfl
  · exact sockets.still rfl rfl rfl
  · exact (sockets.runHook _).still rfl rfl rfl
  · exact sockets.congr rfl rfl (fun _ => rfl) fun _ => .rfl
  · exact sockets.still rfl rfl (Resources.made_closeAll os _ _)
  · exact sockets.still rfl rfl rfl
  · exact sockets.still rfl rfl rfl

/-- What sockets do in a step. -/
theorem passes (sockets : Sockets session) {owner : ReferenceId → Address}
    (sound : Calls.Sound owner session.calls) {os : OperatingSystem σ}
    {names : NameService} (steps : Steps os names session next) :
    Passes session next := by
  cases steps with
  | idle => exact sockets.still rfl rfl rfl
  | opened address => exact sockets.opens address
  | turned id => exact sockets.turn sound id
  | dialled found phase =>
      exact sockets.connect os names
        (Calls.phaseAt_eq_some_iff.mpr ⟨_, found, phase⟩) _
  | resumed id => exact sockets.resumes id
  | judged found phase => exact sockets.judges _ _
  | handed handed => exact sockets.still rfl rfl rfl
  | looked address => exact sockets.congr rfl rfl (fun _ => rfl) fun _ => .rfl
  | spawned stored kind informed => exact sockets.still rfl rfl rfl
  | ended found waits => exact sockets.still rfl rfl rfl
  | marked found waits marks hooks => exact sockets.still rfl rfl rfl
  | hooked found hooks => exact (sockets.runHook _).still rfl rfl rfl
  | closed => exact sockets.close os

theorem of_steps (sockets : Sockets session) {owner : ReferenceId → Address}
    (sound : Calls.Sound owner session.calls) {os : OperatingSystem σ}
    {names : NameService} (steps : Steps os names session next) :
    Sockets next :=
  (sockets.passes sound steps).sockets sockets

end Sockets

end Session

end RemoteMessaging
