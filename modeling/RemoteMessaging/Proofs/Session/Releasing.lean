import RemoteMessaging.Proofs.Session.Spent

/-!
# Attempts that fail with a socket

An attempt that has a socket fails exactly if the next call for its socket fails.
Then the socket is closed, nobody has it any more, and the caller is about to give up
its right to connect.  No matter how long that takes, the reference still has no link
then, and is idle afterwards.
-/

namespace RemoteMessaging

variable {σ η Λ : Type}

/-! ## Giving up -/

namespace Caller

/-- The reference for which a caller is about to give up the right to connect, as it
has no link. -/
def Phase.givesUp? : Phase Λ → Option ReferenceId
  | .refused id | .failed id _ | .panicking id => some id
  | _ => none

theorem Phase.permit?_of_givesUp? {phase : Phase Λ} {reference : ReferenceId}
    (gives : phase.givesUp? = some reference) :
    phase.permit? = some (reference, none) := by
  cases phase <;> simp_all [givesUp?, permit?]

theorem turn_of_givesUp? {caller : Caller Λ} {reference : ReferenceId}
    (gives : caller.phase.givesUp? = some reference) (cache : LinkCache Λ) :
    ∃ next warning,
      caller.turn cache = .step next (cache.settle reference .idle) warning := by
  unfold turn
  cases phase : caller.phase with
  | refused id | failed id error | panicking id =>
      rw [phase] at gives
      obtain rfl := Option.some.inj gives
      exact ⟨_, _, rfl⟩
  | _ =>
      rw [phase] at gives
      cases gives

theorem givesUp?_connected {caller : Caller Λ} {reference : ReferenceId}
    (phase : caller.phase = .connecting reference) (error : IoError) :
    (caller.connected (.failed error)).phase.givesUp? = some reference := by
  simp only [connected, phase]
  split <;> rfl

theorem unanswered_of_givesUp? {caller : Caller Λ} {reference : ReferenceId}
    (gives : caller.phase.givesUp? = some reference) :
    (∀ attempt, caller.connected attempt = caller) ∧
      caller.resumed = caller ∧ ∀ live, caller.judged live = caller := by
  cases phase : caller.phase <;>
    simp_all [Phase.givesUp?, connected, resumed, judged]

end Caller

namespace Calls

variable {calls : Calls Λ} {id : CallerId} {reference : ReferenceId}

def givesUp? (calls : Calls Λ) (id : CallerId) : Option ReferenceId :=
  (calls.phaseAt id).bind Caller.Phase.givesUp?

theorem givesUp?_eq_some_iff :
    calls.givesUp? id = some reference ↔ ∃ caller,
      calls.callers[id]? = some caller ∧
        caller.phase.givesUp? = some reference := by
  simp [givesUp?, Option.bind_eq_some_iff]

theorem phaseAt_step_of_givesUp? (gives : calls.givesUp? id = some reference)
    {action : Action Λ} (other : action ≠ .turn id) :
    (calls.step action).phaseAt id = calls.phaseAt id := by
  obtain ⟨caller, found, gives⟩ := givesUp?_eq_some_iff.mp gives
  obtain ⟨connected, resumed, judged⟩ := Caller.unanswered_of_givesUp? gives
  have stands : calls.phaseAt id = some caller.phase :=
    phaseAt_eq_some_iff.mpr ⟨caller, found, rfl⟩
  have answers : ∀ own (change : Caller Λ → Caller Λ),
      change caller = caller →
        (calls.answer own change).phaseAt id = calls.phaseAt id := by
    intro own change same
    by_cases mine : id = own
    · subst mine
      rw [phaseAt_answer_self found, same, stands]
    · exact phaseAt_answer_of_ne calls mine change
  cases action with
  | call address policy live =>
      apply phaseAt_call_of_ne
      rintro rfl
      rw [phaseAt_length] at stands
      cases stands
  | turn own =>
      apply phaseAt_turn_of_ne
      rintro rfl
      exact other rfl
  | connected own attempt => exact answers own _ (connected attempt)
  | resumed own => exact answers own _ resumed
  | judged own live => exact answers own _ (judged live)
  | _ => rfl

/-- Whoever gives up hands back the reference as it got it, idle and without a link. -/
theorem Sound.handsBack {owner : ReferenceId → Address}
    (sound : Sound owner calls) (gives : calls.givesUp? id = some reference) :
    (calls.cache.reference reference).stored = none ∧
      ((calls.turn id).cache.reference reference).state = .idle ∧
      ((calls.turn id).cache.reference reference).stored = none := by
  obtain ⟨caller, found, gives⟩ := givesUp?_eq_some_iff.mp gives
  have permit := Caller.Phase.permit?_of_givesUp? gives
  have fits := sound.fits id caller found
  have empty := fits.content reference none permit
  obtain ⟨below, -⟩ :=
    fits.known reference (Caller.Phase.reference?_of_permit? permit)
  obtain ⟨next, warning, taken⟩ := Caller.turn_of_givesUp? gives calls.cache
  have settled : (calls.turn id).cache = calls.cache.settle reference .idle := by
    simp only [Calls.turn, found, taken]
  rw [settled, LinkCache.settle, LinkCache.reference_replace_self below]
  exact ⟨empty, rfl, empty⟩

end Calls

namespace Session

variable {session : Session σ η} {os : OperatingSystem σ}
variable {names : NameService} {id : CallerId} {reference : ReferenceId}
variable {handle : Handle}

theorem phaseAt_step_of_givesUp?
    (gives : session.calls.givesUp? id = some reference) {action : Action}
    (other : action ≠ .turn id) :
    (session.step os names action).calls.phaseAt id =
      session.calls.phaseAt id := by
  have stays : ∀ {taken : Calls.Action Link}, taken ≠ .turn id →
      (session.calls.step taken).phaseAt id = session.calls.phaseAt id :=
    Calls.phaseAt_step_of_givesUp? gives
  have hooks : ∀ handle, (session.runHook handle).calls.phaseAt id =
      session.calls.phaseAt id := by
    intro handle
    unfold runHook
    split
    · exact stays (by simp)
    · rfl
  cases action with
  | openLink address =>
      simp only [step, openLink]
      split
      · rfl
      · exact stays (by simp)
  | turn own => exact stays (by simpa using other)
  | dial own =>
      simp only [step, dialOn]
      split
      · rename_i caller found
        split
        · rw [if_pos rfl]
          obtain same | ⟨attempt, stepped⟩ :=
            session.calls_connect os names own caller.address
          · rw [same]
          · rw [stepped]
            exact stays (by simp)
        · rfl
      · rfl
  | resume own => exact stays (by simp)
  | judge own =>
      simp only [step, judge]
      split
      · exact stays (by simp)
      · rfl
  | handOut own =>
      simp only [step, handOut]
      split <;> rfl
  | get address => exact stays (by simp)
  | write link =>
      simp only [step, write]
      split <;> rfl
  | finish position cause =>
      simp only [step, finish, moveTask, mark]
      repeat' split
      all_goals rfl
  | hook position =>
      simp only [step, hook, moveTask]
      split
      · rfl
      · split
        · exact hooks _
        · rfl
  | close =>
      simp only [step, close]
      split
      case h_5 => exact hooks _
      case h_6 => exact stays (by simp)
      all_goals rfl

/-! ## Failing -/

/-- The next call for the socket of an attempt fails: one of those that prepare it, or
the last, which asks for its address. -/
inductive Fails (os : OperatingSystem σ) (session : Session σ η) (id : CallerId)
    (handle : Handle) (error : IoError) : Prop where
  | preparing {target : SocketAddress} {request : SystemCall σ Unit}
      {requests : List (SystemCall σ Unit)}
      (stage : session.dial id = .prepare handle target (request :: requests))
      (answer : (session.resources.call request).1 = .error error)
  | naming {target : SocketAddress}
      (stage : session.dial id = .prepare handle target [])
      (answer : (session.resources.call (os.localAddress handle)).1 =
        .error error)

/-- An attempt that has a socket fails with the next call for it, and closes it, or
goes on, perhaps to its end. -/
theorem connect_of_handle? (os : OperatingSystem σ) (names : NameService)
    (has : (session.dial id).handle? = some handle) (address : Address) :
    (∃ error resources, session.Fails os id handle error ∧
      resources.made = session.resources.made ∧
      resources.sockets = session.resources.sockets.filter (· ≠ handle) ∧
      session.connect os names id address =
        (session.use resources).settle id (.failed error)) ∨
    (∀ error, ¬ session.Fails os id handle error) ∧
      ((session.connect os names id address).calls = session.calls ∨
        ∃ link, (session.connect os names id address).calls =
          session.calls.step (.connected id (.connected link))) := by
  have never : ∀ {dial : Dial σ}, session.dial id = dial →
      (∀ target requests, dial ≠ .prepare handle target requests) →
        ∀ error, ¬ session.Fails os id handle error := by
    rintro dial stage apart error (⟨stage', -⟩ | ⟨stage', -⟩)
    · exact apart _ _ (stage.symm.trans stage')
    · exact apart _ _ (stage.symm.trans stage')
  unfold connect
  cases stage : session.dial id with
  | check | resolve | create target =>
      rw [stage] at has
      cases has
  | prepare own target requests =>
      rw [stage] at has
      obtain rfl := Option.some.inj has
      cases requests with
      | nil =>
          simp only
          split
          · rename_i error resources asked
            have made := Resources.made_of_call asked
            refine .inl ⟨error, resources.close os own,
              .naming stage (by rw [asked]), made, ?_, rfl⟩
            rw [Resources.close, Resources.sockets_of_call asked]
          · rename_i own resources asked
            refine .inr ⟨?_, .inl rfl⟩
            rintro error (⟨stage', answer⟩ | ⟨stage', answer⟩) <;> simp_all
      | cons request requests =>
          simp only
          split
          · rename_i error resources asked
            have made := Resources.made_of_call asked
            refine .inl ⟨error, resources.close os own,
              .preparing stage (by rw [asked]), made, ?_, rfl⟩
            rw [Resources.close, Resources.sockets_of_call asked]
          · rename_i resources asked
            refine .inr ⟨?_, .inl rfl⟩
            rintro error (⟨stage', answer⟩ | ⟨stage', answer⟩) <;> simp_all
  | watchReader link | startReader link informed | watchWriter link =>
      exact .inr ⟨never stage (by simp), .inl rfl⟩
  | startWriter link informed =>
      refine .inr ⟨never stage (by simp), .inr ⟨link, ?_⟩⟩
      simp only [settle, call, proceed, calls_keep]
      split <;> rfl

theorem Fails.prepares {error : IoError}
    (fails : session.Fails os id handle error) : session.Prepares id handle := by
  obtain ⟨stage, -⟩ | ⟨stage, -⟩ := fails
  all_goals
    rw [Prepares, stage]
    exact ⟨rfl, rfl⟩

theorem carried_of_givesUp? (gives : session.calls.givesUp? id = some reference) :
    session.carried id = none := by
  unfold carried
  split
  all_goals
    try
      rename_i stands
      rw [Calls.givesUp?, stands] at gives
      cases gives
  rfl

/-- The socket of an attempt that fails is gone, and its caller gives up. -/
theorem Fails.releases {error : IoError}
    (fails : session.Fails os id handle error) (serves : Serves session)
    (sockets : Sockets session) {caller : Caller Link}
    (found : session.calls.callers[id]? = some caller)
    (phase : caller.phase = .connecting reference) {resources : Resources σ}
    (made : resources.made = session.resources.made)
    (closed : handle ∉ resources.sockets) :
    let next := (session.use resources).settle id (.failed error)
    next.calls.givesUp? id = some reference ∧ Spent handle next := by
  intro next
  obtain ⟨-, carries⟩ := sockets.carried_of_handle? fails.prepares.1
  obtain ⟨below, unlinked⟩ := sockets.carried id handle carries
  have lands : next.calls.phaseAt id =
      some (caller.connected (.failed error)).phase :=
    Calls.phaseAt_answer_self found _
  have cache : next.calls.cache = session.calls.cache :=
    session.calls.cache_answer id _
  have gives : next.calls.givesUp? id = some reference := by
    rw [Calls.givesUp?, lands]
    exact Caller.givesUp?_connected phase error
  refine ⟨gives, ⟨made ▸ below, ?_, ?_, ?_, closed⟩⟩
  · intro other carries'
    by_cases same : other = id
    · subst same
      rw [carried_of_givesUp? gives] at carries'
      cases carries'
    · have stands : next.calls.phaseAt other = session.calls.phaseAt other :=
        session.calls.phaseAt_answer_of_ne same _
      have dial : next.dial other = session.dial other := by
        simp [next, settle, Session.call, proceed, use, same]
      rw [carried, stands, dial] at carries'
      exact same (sockets.alone other id handle carries' carries)
  · intro link stored
    rw [Calls.Established, cache] at stored
    exact unlinked link stored
  · exact serves.unready id handle fails.prepares

theorem dial_of_handle? (os : OperatingSystem σ) (names : NameService)
    (serves : Serves session) (sockets : Sockets session)
    (stands : session.calls.phaseAt id = some (.connecting reference))
    (has : (session.dial id).handle? = some handle) :
    let next := session.step os names (.dial id)
    (next.calls.givesUp? id = some reference ↔
      ∃ error, session.Fails os id handle error) ∧
    (next.calls.givesUp? id = some reference →
      next.resources.sockets =
        session.resources.sockets.filter (· ≠ handle) ∧ Spent handle next) := by
  intro next
  obtain ⟨caller, found, phase⟩ := Calls.phaseAt_eq_some_iff.mp stands
  have stepped : next = session.connect os names id caller.address := by
    simp only [next, step, dialOn, found, phase, if_true]
  obtain ⟨error, resources, fails, made, closed, ends⟩ | ⟨passes, goesOn⟩ :=
    session.connect_of_handle? os names has caller.address
  · have gone : handle ∉ resources.sockets := by simp [closed]
    obtain ⟨gives, spent⟩ :=
      fails.releases serves sockets found phase made gone
    rw [stepped, ends]
    exact ⟨⟨fun _ => ⟨error, fails⟩, fun _ => gives⟩, fun _ => ⟨closed, spent⟩⟩
  · have stays : next.calls.givesUp? id = none := by
      rw [stepped]
      obtain same | ⟨link, connected⟩ := goesOn
      · rw [same, Calls.givesUp?, stands]
        rfl
      · have lands : (session.calls.step (.connected id (.connected link))).phaseAt
            id = some (caller.connected (.connected link)).phase :=
          Calls.phaseAt_answer_self found _
        rw [connected, Calls.givesUp?, lands, Caller.connected, phase]
        rfl
    simp [stays, passes]

/-! ## Runs -/

theorem givesUp?_run (gives : session.calls.givesUp? id = some reference)
    {actions : List Action} (waits : .turn id ∉ actions) :
    (session.run os names actions).calls.givesUp? id = some reference := by
  induction actions generalizing session with
  | nil => exact gives
  | cons action actions induction =>
      obtain ⟨other, others⟩ := not_or.mp (mt List.mem_cons.mpr waits)
      apply induction _ others
      rw [Calls.givesUp?, phaseAt_step_of_givesUp? gives (Ne.symm other)]
      exact gives

/-- Binding a transport that fails, at whatever stage, leaves no socket and no pool
that was not there before, and all older ones stay.

Take any run of a transport in use, in which the attempt of some caller has a socket.
The attempt fails in its next step exactly if the next call for the socket fails.  Then
the socket is closed at once and all others stay.  The reference gets no link until the
caller takes its turn, whatever others do before, and is idle afterwards.  In no run
that follows is the socket open, does it become that of a link, or is a task made for
it. -/
theorem failures_release (os : OperatingSystem σ) (names : NameService)
    (config : TransportConfig) :
    (∀ (resolved : Except Error String) (resources after : Resources σ)
        (error : Error),
      (Transport.bind os config resolved resources :
          Except Error (Transport η) × Resources σ) = (.error error, after) →
        (after.sockets ⊆ resources.sockets ∧ after.pools ⊆ resources.pools) ∧
        (∀ handle ∈ resources.sockets, handle < resources.made →
          handle ∈ after.sockets) ∧
        ∀ pool ∈ resources.pools, pool.id < resources.made →
          pool ∈ after.pools) ∧
    ∀ (host : String) (listener : Bound) (workers : WorkerPools)
        (resources : Resources σ) (actions : List Action),
      let session := (start config host listener workers resources :
        Session σ η).run os names actions
      ∀ (id : CallerId) (handle : Handle),
        (session.dial id).handle? = some handle →
        let next := session.step os names (.dial id)
        ∃ reference,
          session.calls.phaseAt id = some (.connecting reference) ∧
          (next.calls.givesUp? id = some reference ↔
            ∃ error, session.Fails os id handle error) ∧
          (next.calls.givesUp? id = some reference →
            next.resources.sockets =
              session.resources.sockets.filter (· ≠ handle) ∧
            (∀ meanwhile, .turn id ∉ meanwhile →
              let waited := next.run os names meanwhile
              let idle := waited.step os names (.turn id)
              (waited.calls.cache.reference reference).stored = none ∧
              (idle.calls.cache.reference reference).state = .idle ∧
              (idle.calls.cache.reference reference).stored = none) ∧
            ∀ later,
              let after := next.run os names later
              handle ∉ after.resources.sockets ∧
              (∀ link, after.calls.Established link →
                link.link.handle ≠ handle) ∧
              ∀ task ∈ after.tasks, task.handle ≠ handle) := by
  constructor
  · intro resolved resources after error failed
    have ends := Transport.allOrNothing_bind (η := η) os config resolved resources
    rw [failed] at ends
    exact ⟨⟨ends.sockets, ends.pools⟩, ends.oldSockets, ends.oldPools⟩
  intro host listener workers resources actions session id handle has next
  obtain ⟨⟨owner, sound⟩, sockets, upkeep⟩ := invariants_run os names
    (Calls.sound_start fun _ => ⟨"", 0⟩)
    (sockets_start config host listener workers resources : Sockets _)
    (upkeep_start config host listener workers resources : Upkeep _) actions
  have serves : Serves session :=
    serves_run os names config host listener workers resources actions
  obtain ⟨⟨reference, stands⟩, -⟩ := sockets.carried_of_handle? has
  obtain ⟨fails, releases⟩ :=
    dial_of_handle? os names serves sockets stands has
  obtain ⟨⟨owner', sound'⟩, sockets', upkeep'⟩ :
      (∃ owner, Calls.Sound owner next.calls) ∧ Sockets next ∧ Upkeep next :=
    invariants_run os names sound sockets upkeep [.dial id]
  refine ⟨reference, stands, fails, fun gives => ?_⟩
  obtain ⟨closed, spent⟩ := releases gives
  refine ⟨closed, ?_, ?_⟩
  · intro meanwhile waits waited idle
    obtain ⟨⟨owner'', sound''⟩, -⟩ :=
      invariants_run os names sound' sockets' upkeep' meanwhile
    exact sound''.handsBack (givesUp?_run gives waits)
  · intro later after
    have spent' : Spent handle after := spent.run sound' sockets' later
    exact ⟨spent'.closed, spent'.unlinked, fun task member same =>
      spent'.unserved ⟨task, member, same⟩⟩

/-- Sockets cannot be registered.  Binding fails with a listener that is open and three
pools that run, and leaves the socket that was held before.  An attempt to connect
fails with its socket, too. -/
theorem failures_release_of_unregistered :
    let os : OperatingSystem Network :=
      { Network.os with
        register := fun _ network => (.error (IoError.ofErrno .enomem), network) }
    let target : SocketAddress := ⟨.v4 .localhost, 9000⟩
    let resources :=
      ((Resources.start (Network.start true .none)).listen os default target).2
    let names : NameService := ⟨.ok [], []⟩
    let actions : List Action :=
      [.openLink ⟨"127.0.0.1", 9000⟩] ++ List.replicate 4 (.turn 0) ++
        List.replicate 8 (.dial 0)
    let session := (start default "127.0.0.1" ⟨0, target⟩ ⟨[]⟩ resources :
      Session Network Unit).run os names actions
    let next := session.step os names (.dial 0)
    let idle := next.step os names (.turn 0)
    (∃ error after, (Transport.bind os default (.ok "127.0.0.1") resources :
        Except Error (Transport Unit) × Resources Network) = (.error error, after) ∧
      after.made = 5 ∧ after.sockets = [0] ∧ after.pools ⊆ resources.pools) ∧
    session.resources.sockets = [1, 0] ∧
    (session.dial 0).handle? = some 1 ∧ next.calls.givesUp? 0 = some 0 ∧
    next.resources.sockets = session.resources.sockets.filter (· ≠ 1) ∧
    (idle.calls.cache.reference 0).state = .idle ∧
    ∀ later, 1 ∉ (next.run os names later).resources.sockets ∧
      ∀ task ∈ (next.run os names later).tasks, task.handle ≠ 1 := by
  intro os target resources names actions session next idle
  obtain ⟨binding, connecting⟩ :=
    failures_release (η := Unit) os names (default : TransportConfig)
  have opened : session.resources.sockets = [1, 0] := by decide +kernel
  have has : (session.dial 0).handle? = some 1 := by decide +kernel
  have connects : session.calls.phaseAt 0 = some (.connecting 0) := by
    decide +kernel
  have gives : next.calls.givesUp? 0 = some 0 := by decide +kernel
  have reached : (start default "127.0.0.1" ⟨0, target⟩ ⟨[]⟩ resources :
      Session Network Unit).run os names actions = session := rfl
  have attempts :=
    connecting "127.0.0.1" ⟨0, target⟩ ⟨[]⟩ resources actions
  rw [reached] at attempts
  obtain ⟨reference, stands, -, releases⟩ := attempts 0 1 has
  refine ⟨?_, opened, has, gives, ?_⟩
  · cases ends : (Transport.bind os default (.ok "127.0.0.1") resources :
        Except Error (Transport Unit) × Resources Network) with
    | mk answer after =>
    have made : after.made = 5 :=
      (congrArg (·.2.made) ends).symm.trans (by decide +kernel)
    have sockets : after.sockets = [0] :=
      (congrArg (·.2.sockets) ends).symm.trans (by decide +kernel)
    have fails : answer.toBool = false :=
      (congrArg (·.1.toBool) ends).symm.trans (by decide +kernel)
    cases answer with
    | ok transport => cases fails
    | error error =>
        obtain ⟨⟨-, pools⟩, -⟩ := binding _ resources after error ends
        exact ⟨error, after, rfl, made, sockets, pools⟩
  · clear_value session
    rw [connects] at stands
    obtain rfl := Caller.Phase.connecting.inj (Option.some.inj stands)
    obtain ⟨closed, handsBack, unused⟩ := releases gives
    obtain ⟨-, settled, -⟩ := handsBack [] (by simp)
    exact ⟨closed, settled, fun later => ⟨(unused later).1, (unused later).2.2⟩⟩

end Session

end RemoteMessaging
