import RemoteMessaging.Proofs.Session.Closing

/-!
# No dead link stays cached

While a transport is open, a cached link that has become inactive is about to be
evicted: the hook of its channel is about to run, or a caller for its address has
the link and does not know yet that it is dead, or is about to evict it.  Nothing
else is ever evicted.
-/

namespace RemoteMessaging

variable {σ η : Type}

theorem Caller.pending?_of_result? {Λ : Type} {caller : Caller Λ}
    (finished : caller.result?.isSome = true) : caller.pending? = none := by
  obtain ⟨result, has⟩ := Option.isSome_iff_exists.mp finished
  simp only [pending?, phase_of_result? has]

/-- A caller for an address has a link, and does not know yet whether it is live,
or is about to evict it. -/
def Calls.Pending (calls : Calls Link) (address : Address)
    (link : Issued Link) : Prop :=
  ∃ (id : CallerId) (caller : Caller Link), calls.callers[id]? = some caller ∧
    caller.address = address ∧ caller.pending? = some link

namespace Session

/-- The hook of a channel is about to run. -/
def Hooking (session : Session σ η) (handle : Handle) : Prop :=
  ∃ task ∈ session.tasks, task.handle = handle ∧ task.phase = .hooking

/-- The link that a caller has connected and not stored yet. -/
def promise? (session : Session σ η) (id : CallerId) (caller : Caller Link) :
    Option Link :=
  match caller.phase with
  | .connecting _ => (session.dial id).link?
  | .store _ link => some link
  | _ => none

/-- How links, hooks and callers fit together while the transport is open. -/
structure Tends (session : Session σ η) : Prop where
  idle : session.closing = .idle
  insists : ∀ (id : CallerId) caller,
    session.calls.callers[id]? = some caller →
      caller.replacements.isSome = true
  /-- The hook of a channel looks for its link where that is cached, or will
  be. -/
  homed : ∀ address link, session.calls.cache.get? address = some link →
    session.homes.lookup link.link.handle = some address
  promised : ∀ (id : CallerId) caller link,
    session.calls.callers[id]? = some caller →
      session.promise? id caller = some link →
        session.homes.lookup link.handle = some caller.address
  tended : ∀ address link, session.calls.cache.get? address = some link →
    session.isActive link = false →
      session.Hooking link.link.handle ∨ session.calls.Pending address link

theorem tends_start (config : TransportConfig) (host : String)
    (listener : Bound) (workers : WorkerPools) (resources : Resources σ) :
    Tends (start config host listener workers resources : Session σ η) := by
  refine ⟨rfl, ?_, ?_, ?_, ?_⟩
  all_goals simp [start, Calls.start, LinkCache.get?, LinkCache.find?,
    LinkCache.empty]

theorem carried_of_promise? {session : Session σ η} {id : CallerId}
    {caller : Caller Link} {link : Link}
    (found : session.calls.callers[id]? = some caller)
    (promise : session.promise? id caller = some link) :
    session.carried id = some link.handle := by
  unfold promise? at promise
  unfold carried Calls.phaseAt
  rw [found, Option.map_some]
  split at promise
  · rename_i phase
    simpa only [phase] using Dial.handle?_of_link? promise
  · rename_i phase
    simp only [phase, Option.some.inj promise]
  · simp at promise

theorem cache_connect (os : OperatingSystem σ) (names : NameService)
    (session : Session σ η) (id : CallerId) (address : Address) :
    (session.connect os names id address).calls.cache = session.calls.cache ∧
      (session.connect os names id address).transport.closed =
        session.transport.closed := by
  have settles : ∀ {next : Session σ η} (attempt : Attempt Link),
      next.calls = session.calls →
        next.transport.closed = session.transport.closed →
          (next.settle id attempt).calls.cache = session.calls.cache ∧
            (next.settle id attempt).transport.closed =
              session.transport.closed := by
    intro next attempt same closed
    rw [← same]
    exact ⟨next.calls.cache_answer id _, closed⟩
  have attempts := session.attempts_connect os names id address
  generalize session.connect os names id address = next at attempts ⊢
  cases attempts with
  | failed resources error made => exact settles _ rfl rfl
  | connected stage =>
      apply settles
      · rw [calls_keep]
        split <;> rfl
      · rw [closed_keep]
        split <;> rfl
  | _ => exact ⟨rfl, rfl⟩

/-! ## Hooks -/

theorem Hooking.moveTask {session : Session σ η} {handle : Handle}
    (hooks : session.Hooking handle) {position : Nat} {task : Task}
    (found : session.tasks[position]? = some task) (phase : Task.Phase)
    (other : task.phase = .hooking → task.handle ≠ handle) :
    (session.moveTask position task phase).Hooking handle := by
  obtain ⟨hook, member, same, hooking⟩ := hooks
  obtain ⟨place, at'⟩ := List.mem_iff_getElem?.mp member
  have different : position ≠ place := by
    rintro rfl
    obtain rfl := Option.some.inj (found.symm.trans at')
    exact other hooking same
  refine ⟨hook, List.mem_iff_getElem?.mpr ⟨place, ?_⟩, same, hooking⟩
  simp only [Session.moveTask]
  rw [List.getElem?_set_ne different]
  exact at'

theorem hooking_moveTask {session : Session σ η} {position : Nat} {task : Task}
    (found : session.tasks[position]? = some task) :
    (session.moveTask position task .hooking).Hooking task.handle :=
  ⟨_, List.mem_set (List.getElem?_eq_some_iff.mp found).1 _, rfl, rfl⟩

namespace Tends

variable {session next : Session σ η}

/-! ## Steps of callers -/

/-- A step in which no channel becomes inactive, and no link is cached but those
that have a home and a caller. -/
theorem transport (tends : Tends session)
    (closing : next.closing = session.closing)
    (homes : next.homes = session.homes)
    (inactive : next.transport.inactive = session.transport.inactive)
    (hooking : ∀ handle, session.Hooking handle → next.Hooking handle)
    (insists : ∀ (id : CallerId) caller,
      next.calls.callers[id]? = some caller →
        caller.replacements.isSome = true)
    (promised : ∀ (id : CallerId) caller link,
      next.calls.callers[id]? = some caller →
        next.promise? id caller = some link →
          session.homes.lookup link.handle = some caller.address)
    (links : ∀ address link, next.calls.cache.get? address = some link →
      session.calls.cache.get? address = some link ∨
        session.homes.lookup link.link.handle = some address ∧
          next.calls.Pending address link)
    (pending : ∀ address link, session.calls.Pending address link →
      session.isActive link = false →
        next.calls.cache.get? address = some link →
          next.calls.Pending address link) : Tends next := by
  refine ⟨closing.trans tends.idle, insists, ?_, ?_, ?_⟩
  · intro address link has
    rw [homes]
    rcases links address link has with before | ⟨home, -⟩
    · exact tends.homed address link before
    · exact home
  · intro id caller link found promise
    rw [homes]
    exact promised id caller link found promise
  · intro address link has dead
    have dead' : session.isActive link = false := by
      rw [isActive_eq_false_iff, inactive] at dead
      exact isActive_eq_false_iff.mpr dead
    rcases links address link has with before | ⟨-, pends⟩
    · rcases tends.tended address link before dead' with hooks | pends
      · exact .inl (hooking _ hooks)
      · exact .inr (pending address link pends dead' has)
    · exact .inr pends

theorem still (tends : Tends session)
    (calls : next.calls = session.calls)
    (homes : next.homes = session.homes)
    (dial : next.dial = session.dial)
    (inactive : next.transport.inactive = session.transport.inactive)
    (closing : next.closing = session.closing)
    (hooking : ∀ handle, session.Hooking handle → next.Hooking handle) :
    Tends next := by
  have promises : ∀ id caller, next.promise? id caller =
      session.promise? id caller := by
    intro id caller
    simp only [promise?, dial]
  refine tends.transport closing homes inactive hooking ?_ ?_ ?_ ?_
  · rw [calls]
    exact tends.insists
  · intro id caller link found promise
    rw [calls] at found
    rw [promises] at promise
    exact tends.promised id caller link found promise
  · intro address link has
    rw [calls] at has
    exact .inl has
  · intro address link pends _ _
    rwa [calls]

theorem move (tends : Tends session) {id : CallerId} {caller : Caller Link}
    (found : session.calls.callers[id]? = some caller) (after : Caller Link)
    (callers : ∀ other : CallerId, next.calls.callers[other]? =
      if other = id then some after else session.calls.callers[other]?)
    (continues : caller.Continues after)
    (closing : next.closing = session.closing)
    (homes : next.homes = session.homes)
    (inactive : next.transport.inactive = session.transport.inactive)
    (tasks : next.tasks = session.tasks)
    (dial : ∀ other, other ≠ id → next.dial other = session.dial other)
    (promise : ∀ link, next.promise? id after = some link →
      session.promise? id caller = some link ∨
        session.homes.lookup link.handle = some caller.address)
    (links : ∀ address link, next.calls.cache.get? address = some link →
      session.calls.cache.get? address = some link ∨
        session.homes.lookup link.link.handle = some address ∧
          address = caller.address ∧ after.pending? = some link)
    (pending : ∀ link, caller.pending? = some link →
      session.isActive link = false →
        next.calls.cache.get? caller.address = some link →
          after.pending? = some link) : Tends next := by
  have here : next.calls.callers[id]? = some after := by
    rw [callers, if_pos rfl]
  have pends : ∀ link, after.pending? = some link →
      next.calls.Pending caller.address link := fun link has =>
    ⟨id, after, here, continues.address, has⟩
  refine tends.transport closing homes inactive ?_ ?_ ?_ ?_ ?_
  · intro handle hooks
    rwa [Hooking, tasks]
  · intro other caller' found'
    rw [callers] at found'
    split at found'
    · obtain rfl := Option.some.inj found'
      exact continues.insists (tends.insists id caller found)
    · exact tends.insists other caller' found'
  · intro other caller' link found' promises
    rw [callers] at found'
    split at found'
    · rename_i same
      subst same
      obtain rfl := Option.some.inj found'
      rw [continues.address]
      rcases promise link promises with before | home
      · exact tends.promised other caller link found before
      · exact home
    · rename_i different
      refine tends.promised other caller' link found' ?_
      simpa only [promise?, dial other different] using promises
  · intro address link has
    rcases links address link has with before | ⟨home, rfl, own⟩
    · exact .inl before
    · exact .inr ⟨home, pends link own⟩
  · rintro address link ⟨other, caller', found', rfl, own⟩ dead has
    by_cases same : other = id
    · subst same
      obtain rfl := Option.some.inj (found.symm.trans found')
      exact pends link (pending link own dead has)
    · refine ⟨other, caller', ?_, rfl, own⟩
      rw [callers, if_neg same, found']

theorem turn (tends : Tends session) (sockets : Sockets session)
    {owner : ReferenceId → Address} (sound : Calls.Sound owner session.calls)
    (id : CallerId) : Tends (session.call (.turn id)) := by
  obtain same | ⟨caller, after, found, ⟨warning, taken⟩, callers⟩ :=
    session.calls.turn_cases id
  · have still : session.call (.turn id) = session := by
      simp only [Session.call, Calls.step, same]
    rwa [still]
  · obtain ⟨plain, idle⟩ := Caller.phase_of_turn taken
    have moved : ∀ other : CallerId,
        (session.calls.turn id).callers[other]? =
          if other = id then some after else session.calls.callers[other]? := by
      intro other
      rw [callers]
      exact Calls.getElem?_move found after other
    have promise : ∀ link,
        (session.call (.turn id)).promise? id after ≠ some link := by
      have begins : session.dial id = .check := by
        apply sockets.fresh
        intro reference phase
        obtain ⟨caller', again, connecting⟩ :=
          Calls.phaseAt_eq_some_iff.mp phase
        obtain rfl := Option.some.inj (found.symm.trans again)
        exact idle reference connecting
      intro link promises
      unfold promise? at promises
      split at promises
      · simp [Session.call, begins, Dial.link?] at promises
      · rename_i phase
        simp [phase, Caller.Phase.Answered] at plain
      · simp at promises
    have turned := Caller.turned_of_turn taken
    generalize cached : (session.calls.turn id).cache = cache at turned
    have goes : caller.Continues after →
        (∀ address link, cache.get? address = some link →
          session.calls.cache.get? address = some link ∨
            session.homes.lookup link.link.handle = some address ∧
              address = caller.address ∧ after.pending? = some link) →
        (∀ link, caller.pending? = some link →
          cache.get? caller.address = some link →
            after.pending? = some link) →
        Tends (session.call (.turn id)) := by
      intro continues links pending
      refine tends.move found after moved continues rfl rfl rfl rfl
        (fun _ _ => rfl) (fun link promises => (promise link promises).elim) ?_ ?_
      · intro address link has
        exact links address link (cached ▸ has)
      · intro link pends _ has
        exact pending link pends (cached ▸ has)
    cases turned with
    | plain continues alike pending =>
        refine goes continues ?_ ?_
        · intro address link has
          exact .inl (alike.links address ▸ has)
        · intro link pends _
          exact pending (tends.insists id caller found) link pends
    | stored phase =>
        rename_i reference link
        have empty : (session.calls.cache.reference reference).stored = none :=
          (sound.fits id caller found).content reference none
            (by simp [phase, Caller.Phase.permit?])
        obtain ⟨known, owned⟩ := (sound.fits id caller found).known reference
          (by simp [phase, Caller.Phase.reference?])
        have home : session.homes.lookup link.handle = some caller.address :=
          tends.promised id caller link found (by simp [promise?, phase])
        have issued := (LinkCache.store_of_empty empty link).1
        refine goes (caller.continues_enterPhase _) ?_
          (by simp [Caller.pending?, phase])
        intro address other has
        obtain ⟨place, entry, stored⟩ := LinkCache.get?_eq_some_iff.mp has
        by_cases here : place = reference
        · subst here
          right
          rw [LinkCache.reference_store_self known empty] at stored
          obtain rfl := Option.some.inj stored
          have address' := (sound.entered address place entry).2
          refine ⟨?_, address'.symm.trans owned, rfl⟩
          rw [issued, ← address', owned]
          exact home
        · left
          rw [LinkCache.reference_store_of_ne _ here] at stored
          exact LinkCache.get?_eq_some_iff.mpr ⟨place, entry, stored⟩
    | discarded phase =>
        rename_i link
        refine goes (caller.continues_replace link) ?_ ?_
        · intro address other has
          exact .inl (LinkCache.get?_of_evictIf_snd has).1
        · intro other pends has
          obtain rfl : link = other := by
            simpa [Caller.pending?, phase] using pends
          have apart := (LinkCache.get?_of_evictIf_snd has).2 rfl
          simp at apart

theorem answer (tends : Tends session) (id : CallerId)
    (change : Caller Link → Caller Link)
    (change_cases : ∀ caller, session.calls.callers[id]? = some caller →
      caller.Continues (change caller) ∧
      (session.promise? id (change caller) = none ∨
        change caller = caller) ∧
      ∀ link, caller.pending? = some link → session.isActive link = false →
        (change caller).pending? = some link) :
    Tends { session with calls := session.calls.answer id change } := by
  cases found : session.calls.callers[id]? with
  | none =>
      have still : session.calls.answer id change = session.calls := by
        simp only [Calls.answer, found]
      rwa [still]
  | some caller =>
      obtain ⟨continues, promise, pending⟩ := change_cases caller found
      refine tends.move found (change caller) ?_ continues rfl rfl rfl rfl
        (fun _ _ => rfl) ?_ ?_ ?_
      · intro other
        simp only [Calls.answer, found]
        exact Calls.getElem?_move found _ other
      · intro link promises
        left
        rcases promise with none | same
        · simp [promise?] at none promises
          simp [none] at promises
        · rwa [same] at promises
      · intro address link has
        left
        rwa [session.calls.cache_answer] at has
      · exact fun link pends dead _ => pending link pends dead

theorem resumes (tends : Tends session) (id : CallerId) :
    Tends (session.call (.resumed id)) := by
  refine tends.answer id _ ?_
  intro caller found
  unfold Caller.resumed
  split
  · rename_i phase
    refine ⟨caller.continues_advance, .inl ?_, by simp [Caller.pending?, phase]⟩
    unfold Caller.advance
    split <;> rfl
  · exact ⟨⟨rfl, fun insists => insists⟩, .inr rfl, fun _ pends _ => pends⟩

theorem judges (tends : Tends session) {id : CallerId} {caller : Caller Link}
    {link : Issued Link} (found : session.calls.callers[id]? = some caller)
    (phase : caller.phase = .judging link) :
    Tends (session.call (.judged id (session.isActive link))) := by
  refine tends.answer id _ ?_
  intro caller' again
  obtain rfl := Option.some.inj (found.symm.trans again)
  simp only [Caller.judged, phase]
  cases live : session.isActive link with
  | true =>
      refine ⟨caller.continues_enterPhase _, .inl rfl, ?_⟩
      intro other pends dead
      obtain rfl : link = other := by simpa [Caller.pending?, phase] using pends
      simp [live] at dead
  | false =>
      refine ⟨caller.continues_enterPhase _, .inl rfl, ?_⟩
      intro other pends _
      simpa [Caller.pending?, phase, Caller.enterPhase] using pends

theorem opens (tends : Tends session) (address : Address) :
    Tends (session.call
      (.call address session.transport.config.retry true)) := by
  have callers : ∀ {other : CallerId} {caller : Caller Link},
      (session.calls.call address session.transport.config.retry
        true).callers[other]? = some caller →
          session.calls.callers[other]? = some caller ∨
            caller = .startLive session.calls.callers.length address
              session.transport.config.retry := by
    intro other caller found
    simp only [Calls.call, if_true] at found
    rw [List.getElem?_append] at found
    split at found
    · exact .inl found
    · exact .inr (List.mem_singleton.mp (List.mem_of_getElem? found))
  refine tends.transport rfl rfl rfl (fun _ hooks => hooks) ?_ ?_ ?_ ?_
  · intro id caller found
    rcases callers found with before | rfl
    · exact tends.insists id caller before
    · rfl
  · intro id caller link found promise
    rcases callers found with before | rfl
    · exact tends.promised id caller link before promise
    · simp [promise?, Caller.startLive] at promise
  · exact fun _ _ has => .inl has
  · rintro _ link ⟨id, caller, found, rfl, own⟩ _ _
    refine ⟨id, caller, ?_, rfl, own⟩
    have below := (List.getElem?_eq_some_iff.mp found).1
    exact (List.getElem?_append_left below).trans found

/-! ## Tasks and hooks -/

theorem spawn (tends : Tends session) (handle : Handle) (kind : Task.Kind)
    (informed : Bool) : Tends (session.spawn handle kind informed) := by
  refine tends.still rfl rfl rfl rfl rfl ?_
  rintro other ⟨task, member, same, hooks⟩
  exact ⟨task, List.mem_append_left _ member, same, hooks⟩

/-- A task marks its channel; the first that does so will run the hook. -/
theorem mark (tends : Tends session) {position : Nat} {task : Task}
    (found : session.tasks[position]? = some task)
    (waits : task.phase = .waiting) {phase : Task.Phase}
    (hooks : task.handle ∉ session.transport.inactive → phase = .hooking) :
    Tends ((session.mark task.handle).moveTask position task phase) := by
  refine { tends with tended := ?_ }
  intro address link has dead
  cases before : session.isActive link with
  | false =>
      rcases tends.tended address link has before with hooking | pends
      · have marked : (session.mark task.handle).Hooking link.link.handle :=
          hooking
        exact .inl (marked.moveTask found phase (by simp [waits]))
      · exact .inr pends
  | true =>
      left
      have fresh := isActive_eq_true_iff.mp before
      have same : link.link.handle = task.handle :=
        (Transport.mem_markInactive.mp
          (isActive_eq_false_iff.mp dead)).resolve_right fresh
      have marked : (session.mark task.handle).tasks[position]? = some task :=
        found
      rw [hooks (same ▸ fresh), same]
      exact hooking_moveTask marked

/-- The hook of a channel evicts its link, wherever that is cached. -/
theorem hook (tends : Tends session) {position : Nat} {task : Task}
    (found : session.tasks[position]? = some task) :
    Tends ((session.runHook task.handle).moveTask position task
      (.ended true)) := by
  have links : ∀ address link,
      (session.runHook task.handle).calls.cache.get? address = some link →
        session.calls.cache.get? address = some link ∧
          (link.link.handle = task.handle →
            session.isActive link = true) := by
    intro address link has
    unfold runHook at has
    split at has
    · rename_i home found'
      obtain ⟨before, apart⟩ := LinkCache.get?_of_evictIf_snd has
      refine ⟨before, ?_⟩
      intro same
      have here := tends.homed address link before
      rw [same, found'] at here
      simpa using apart (Option.some.inj here).symm
    · rename_i homeless
      refine ⟨has, ?_⟩
      intro same
      have here := tends.homed address link has
      simp [same, homeless] at here
  have callers : (session.runHook task.handle).calls.callers =
      session.calls.callers := by
    unfold runHook
    split <;> rfl
  rw [runHook_eq]
  generalize session.runHook task.handle = ran at links callers
  refine ⟨tends.idle, ?_, ?_, ?_, ?_⟩
  · intro id caller found
    exact tends.insists id caller (callers ▸ found)
  · intro address link has
    exact tends.homed address link (links address link has).1
  · intro id caller link found promise
    exact tends.promised id caller link (callers ▸ found) promise
  · intro address link has dead
    obtain ⟨before, apart⟩ := links address link has
    rcases tends.tended address link before dead with hooking | pends
    · have ran' : Hooking { session with calls := ran.calls }
          link.link.handle := hooking
      refine .inl (ran'.moveTask found _ fun _ same => ?_)
      have live : session.isActive link = true := apart same.symm
      have dead' : session.isActive link = false := dead
      simp [live] at dead'
    · obtain ⟨id, caller, found', own⟩ := pends
      exact .inr ⟨id, caller, callers.symm ▸ found', own⟩

/-! ## Connecting -/

theorem home (tends : Tends session) (sockets : Sockets session)
    {id : CallerId} {reference : ReferenceId} {handle : Handle}
    {target : SocketAddress} {requests : List (SystemCall σ Unit)}
    (phase : session.calls.phaseAt id = some (.connecting reference))
    (dial : session.dial id = .prepare handle target requests)
    (address : Address) :
    Tends { session with homes := (handle, address) :: session.homes } := by
  have carried : session.carried id = some handle := by
    simp [Session.carried, phase, dial, Dial.handle?]
  have others : ∀ {other : Handle}, other ≠ handle →
      ((handle, address) :: session.homes).lookup other =
        session.homes.lookup other := by
    intro other different
    rw [List.lookup_cons, beq_false_of_ne different]
  refine ⟨tends.idle, tends.insists, ?_, ?_, tends.tended⟩
  · intro place link has
    obtain ⟨reference, -, stored⟩ := LinkCache.get?_eq_some_iff.mp has
    rw [others ((sockets.carried id handle carried).2 link ⟨reference, stored⟩)]
    exact tends.homed place link has
  · intro other caller link found promise
    have has : session.promise? other caller = some link := promise
    have carries := carried_of_promise? found has
    rw [others]
    · exact tends.promised other caller link found has
    · intro same
      obtain rfl := sockets.alone id other handle carried (same ▸ carries)
      obtain ⟨caller', again, connecting⟩ := Calls.phaseAt_eq_some_iff.mp phase
      obtain rfl := Option.some.inj (found.symm.trans again)
      simp [promise?, connecting, dial, Dial.link?] at has

theorem proceed (tends : Tends session) {id : CallerId} {caller : Caller Link}
    {reference : ReferenceId}
    (found : session.calls.callers[id]? = some caller)
    (phase : caller.phase = .connecting reference) {dial : Dial σ}
    (promise : ∀ link, dial.link? = some link →
      (session.dial id).link? = some link ∨
        session.homes.lookup link.handle = some caller.address) :
    Tends (session.proceed id dial) := by
  refine tends.move found caller ?_ ⟨rfl, fun insists => insists⟩ rfl rfl rfl
    rfl ?_ ?_ (fun _ _ has => .inl has) fun _ pends _ _ => pends
  · intro other
    split
    · rename_i same
      exact same ▸ found
    · rfl
  · intro other different
    simp [Session.proceed, different]
  · intro link promises
    simp only [promise?, phase, Session.proceed, if_true] at promises ⊢
    exact promise link promises

theorem settle (tends : Tends session) {id : CallerId} {caller : Caller Link}
    {reference : ReferenceId}
    (found : session.calls.callers[id]? = some caller)
    (phase : caller.phase = .connecting reference) (attempt : Attempt Link)
    (own : ∀ link, attempt = .connected link →
      (session.dial id).link? = some link) :
    Tends (session.settle id attempt) := by
  have stays : ∀ {phase : Caller.Phase Link},
      caller.Continues (caller.enterPhase phase) :=
    caller.continues_enterPhase _
  refine tends.move found (caller.connected attempt) ?_ ?_ rfl rfl rfl rfl
    ?_ ?_ ?_ ?_
  · intro other
    simp only [Session.settle, Session.proceed, Session.call, Calls.step,
      Calls.answer, found]
    exact Calls.getElem?_move found _ other
  · simp only [Caller.connected, phase]
    cases attempt with
    | failed error =>
        simp only
        split <;> exact stays
    | _ => exact stays
  · intro other different
    simp [Session.settle, Session.proceed, Session.call, different]
  · intro link promises
    left
    cases attempt with
    | connected other =>
        simp only [promise?, Caller.connected, phase, Caller.enterPhase,
          Option.some.injEq] at promises ⊢
        exact promises ▸ own other rfl
    | failed error =>
        by_cases refused : error.isConnectRefused <;>
          simp [promise?, Caller.connected, phase, Caller.enterPhase,
            refused] at promises
    | panicked =>
        simp [promise?, Caller.connected, phase, Caller.enterPhase]
          at promises
  · intro address link has
    left
    exact (session.proceed id .check).calls.cache_answer id
      (·.connected attempt) ▸ has
  · simp [Caller.pending?, phase]

theorem connect (tends : Tends session) (sockets : Sockets session)
    (os : OperatingSystem σ) (names : NameService) {id : CallerId}
    {caller : Caller Link} {reference : ReferenceId}
    (found : session.calls.callers[id]? = some caller)
    (phase : caller.phase = .connecting reference) :
    Tends (session.connect os names id caller.address) := by
  have uses : ∀ resources : Resources σ, Tends (session.use resources) :=
    fun _ => tends.still rfl rfl rfl rfl rfl fun _ hooks => hooks
  have attempts := session.attempts_connect os names id caller.address
  generalize session.connect os names id caller.address = next at attempts ⊢
  cases attempts with
  | failed resources error made =>
      exact (uses resources).settle found phase _ (by simp)
  | began bare =>
      exact tends.proceed found phase (by simp [Dial.link?_of_handle? bare])
  | created resources target requests made =>
      refine (uses resources).proceed found phase ?_
      rintro _ ⟨⟩
  | prepared resources stage made =>
      refine (uses resources).proceed found phase ?_
      rintro _ ⟨⟩
  | registered resources own stage made =>
      have stands : session.calls.phaseAt id = some (.connecting reference) :=
        Calls.phaseAt_eq_some_iff.mpr ⟨caller, found, phase⟩
      have homed := tends.home sockets stands stage caller.address
      have used : Tends (Session.use { session with
          homes := (_, caller.address) :: session.homes } resources) :=
        homed.still rfl rfl rfl rfl rfl fun _ hooks => hooks
      refine used.proceed found phase ?_
      rintro _ ⟨⟩
      right
      simp [Session.use, Transport.linkOver]
  | watched stage same =>
      refine tends.proceed found phase ?_
      rw [stage, same]
      exact fun _ has => .inl has
  | started stage =>
      exact (tends.spawn _ .reader _).proceed found phase
        (by simp [Session.spawn, stage, Dial.link?])
  | connected stage =>
      rename_i link informed
      have keeps : ∀ {next : Session σ η}, Tends next →
          next.calls = session.calls → next.dial = session.dial →
            Tends ((next.keep os link).settle id (.connected link)) := by
        intro next tends' calls dial
        have kept : Tends (next.keep os link) := by
          unfold Session.keep
          split <;> exact tends'.still rfl rfl rfl rfl rfl fun _ hooks => hooks
        have found' : (next.keep os link).calls.callers[id]? =
            some caller := by
          rw [calls_keep, calls, found]
        refine kept.settle found' phase _ ?_
        rintro _ ⟨⟩
        rw [dial_keep, dial, stage]
        rfl
      split
      · exact keeps (tends.spawn link.handle .queue informed) rfl rfl
      · exact keeps tends rfl rfl

/-! ## All steps -/

theorem of_steps (tends : Tends session) (sockets : Sockets session)
    {owner : ReferenceId → Address} (sound : Calls.Sound owner session.calls)
    {os : OperatingSystem σ} {names : NameService}
    (steps : Steps os names session next)
    (stillOpen : next.transport.closed = false) : Tends next := by
  cases steps with
  | idle => exact tends
  | opened address => exact tends.opens address
  | turned id => exact tends.turn sockets sound id
  | dialled found phase => exact tends.connect sockets os names found phase
  | resumed id => exact tends.resumes id
  | judged found phase => exact tends.judges found phase
  | handed handed =>
      exact tends.still rfl rfl rfl rfl rfl fun _ hooks => hooks
  | looked address =>
      exact tends.transport rfl rfl rfl (fun _ hooks => hooks) tends.insists
        tends.promised (fun _ _ has => .inl has) fun _ _ pends _ _ => pends
  | spawned stored kind informed => exact tends.spawn _ kind informed
  | ended found waits =>
      exact tends.still rfl rfl rfl rfl rfl fun _ hooks =>
        hooks.moveTask found _ (by simp [waits])
  | marked found waits marks hooks => exact tends.mark found waits hooks
  | hooked found hooks => exact tends.hook found
  | closed => simp [Session.close, tends.idle, Session.goOn] at stillOpen

/-- Only an inactive link is evicted. -/
theorem inactive_of_evicted (tends : Tends session) (upkeep : Upkeep session)
    {owner : ReferenceId → Address} (sound : Calls.Sound owner session.calls)
    {os : OperatingSystem σ} {names : NameService}
    (steps : Steps os names session next) {address : Address}
    {reference : ReferenceId}
    (found : session.calls.cache.find? address = some reference)
    (gone : next.calls.cache.find? address ≠ some reference) :
    ∃ link, (session.calls.cache.reference reference).stored = some link ∧
      session.isActive link = false := by
  have stays : next.calls.cache = session.calls.cache → ∃ link,
      (session.calls.cache.reference reference).stored = some link ∧
        session.isActive link = false := by
    intro same
    rw [same] at gone
    exact (gone found).elim
  cases steps with
  | turned id =>
      obtain same | ⟨caller, after, found', ⟨warning, taken⟩, -⟩ :=
        session.calls.turn_cases id
      · exact stays (congrArg Calls.cache same)
      · have turned := Caller.turned_of_turn taken
        generalize cached : (session.calls.turn id).cache = cache at turned
        replace gone : cache.find? address ≠ some reference := cached ▸ gone
        cases turned with
        | plain continues alike pending =>
            exact (gone (alike.entries address reference found)).elim
        | stored phase => exact (gone found).elim
        | discarded phase =>
            rename_i dead
            obtain ⟨link, stored, equal⟩ :=
              LinkCache.evicted_of_find? found gone
            obtain ⟨place, -, -, stored'⟩ :=
              (sound.fits id caller found').link dead
                (by simp [Caller.link?, phase])
            obtain rfl := upkeep.numbered.distinct link dead
              ⟨reference, stored⟩ ⟨place, stored'⟩ (by simpa using equal)
            exact ⟨link, stored, upkeep.discarded id link
              (Calls.phaseAt_eq_some_iff.mpr ⟨caller, found', phase⟩)⟩
  | hooked found' hooks =>
      simp only [moveTask, runHook] at gone
      split at gone
      · obtain ⟨link, stored, dead⟩ := LinkCache.evicted_of_find? found gone
        exact ⟨link, stored, by simpa using dead⟩
      · exact (gone found).elim
  | dialled found' phase => exact stays (cache_connect os names session _ _).1
  | closed =>
      refine stays ?_
      simp [Session.close, tends.idle, Session.goOn]
  | resumed id => exact stays (session.calls.cache_answer id _)
  | judged found' phase => exact stays (session.calls.cache_answer _ _)
  | _ => exact stays rfl

end Tends

/-! ## Runs -/

theorem closed_mark (session : Session σ η) (handle : Handle) :
    (session.mark handle).transport.closed = session.transport.closed := by
  simp only [mark, Transport.markInactive]
  split <;> rfl

theorem Steps.staysClosed {session next : Session σ η} {os : OperatingSystem σ}
    {names : NameService} (steps : Steps os names session next)
    (closed : session.transport.closed = true) :
    next.transport.closed = true := by
  cases steps with
  | dialled found phase =>
      exact (cache_connect os names session _ _).2.trans closed
  | marked found waits marks hooks => exact (closed_mark session _).trans closed
  | hooked found hooks =>
      rw [runHook_eq]
      exact closed
  | closed =>
      unfold Session.close
      split
      · rfl
      · exact closed
      · exact closed
      · exact (closed_mark session _).trans closed
      · rw [runHook_eq]
        exact closed
      · exact closed
      · exact closed
      · exact closed
      · exact closed
  | _ => exact closed

theorem tends_run (os : OperatingSystem σ) (names : NameService)
    {session : Session σ η} {owner : ReferenceId → Address}
    (sound : Calls.Sound owner session.calls) (sockets : Sockets session)
    (tends : session.transport.closed = false → Tends session)
    (actions : List Action)
    (stillOpen : (session.run os names actions).transport.closed = false) :
    Tends (session.run os names actions) := by
  induction actions generalizing session owner with
  | nil => exact tends stillOpen
  | cons action actions induction =>
      have steps := steps_step os names session action
      have sockets' := sockets.of_steps sound steps
      have tends' : (session.step os names action).transport.closed = false →
          Tends (session.step os names action) := by
        intro stays
        refine Tends.of_steps (tends ?_) sockets sound steps stays
        cases before : session.transport.closed with
        | false => rfl
        | true => simp [steps.staysClosed before] at stays
      obtain same | ⟨taken, stepped⟩ := Follows.of_steps steps
      · exact induction (same ▸ sound) sockets' tends' stillOpen
      · obtain ⟨after, sound'⟩ := sound.step taken
        exact induction (stepped ▸ sound') sockets' tends' stillOpen

/-- Take any state that a transport reaches before it is closed.  Every cached
link that is inactive is about to be evicted: the hook of its channel is about
to run, or a caller for its address has it and has not finished with it.  So
once no hook is left to run and all callers have ended, every cached link is
active.  The next step, whatever it is, removes an entry only if that has a link
and this is inactive, and then nobody is still connecting for the entry. -/
theorem evicts_dead_links (os : OperatingSystem σ) (names : NameService)
    (config : TransportConfig) (host : String) (listener : Bound)
    (workers : WorkerPools) (resources : Resources σ)
    (actions : List Action) (session : Session σ η)
    (reached : session =
      (start config host listener workers resources).run os names actions)
    (stillOpen : session.transport.closed = false) :
    (∀ address link, session.calls.cache.get? address = some link →
      session.isActive link = false →
        session.Hooking link.link.handle ∨
          session.calls.Pending address link) ∧
    ((∀ task ∈ session.tasks, task.phase ≠ .hooking) →
      (∀ caller ∈ session.calls.callers, caller.result?.isSome = true) →
        ∀ address link, session.calls.cache.get? address = some link →
          session.isActive link = true) ∧
    ∀ action address reference,
      session.calls.cache.find? address = some reference →
        (session.step os names action).calls.cache.find? address ≠
            some reference →
          (∃ link,
            (session.calls.cache.reference reference).stored = some link ∧
              session.isActive link = false) ∧
          ∀ caller ∈ session.calls.callers,
            caller.phase ≠ .connecting reference ∧
              ∀ link, caller.phase ≠ .store reference link := by
  have begins : Calls.Sound (fun _ => ⟨"", 0⟩) (start config host listener
      workers resources : Session σ η).calls := Calls.sound_start _
  have sockets : Sockets (start config host listener workers resources :
      Session σ η) := sockets_start config host listener workers resources
  obtain ⟨⟨owner, sound⟩, -, upkeep⟩ := invariants_run os names begins sockets
    (upkeep_start config host listener workers resources) actions
  have tends := tends_run os names begins sockets
    (fun _ => tends_start config host listener workers resources) actions
    (reached ▸ stillOpen)
  rw [← reached] at sound upkeep tends
  refine ⟨tends.tended, ?_, ?_⟩
  · intro noHook ended address link has
    cases live : session.isActive link with
    | true => rfl
    | false =>
        rcases tends.tended address link has live with
          ⟨task, member, -, hooks⟩ | ⟨id, caller, found, -, pends⟩
        · exact (noHook task member hooks).elim
        · have finished := ended caller (List.mem_of_getElem? found)
          simp [Caller.pending?_of_result? finished] at pends
  · intro action address reference found gone
    obtain ⟨link, stored, dead⟩ := tends.inactive_of_evicted upkeep sound
      (steps_step os names session action) found gone
    refine ⟨⟨link, stored, dead⟩, ?_⟩
    intro caller member
    obtain ⟨id, at'⟩ := List.mem_iff_getElem?.mp member
    have permits : caller.phase.permit? ≠ some (reference, none) := by
      intro permit
      have empty := (sound.fits id caller at').content reference none permit
      exact Option.some_ne_none link (stored.symm.trans empty)
    exact ⟨fun phase => permits (by rw [phase]; rfl),
      fun link phase => permits (by rw [phase]; rfl)⟩

/-- A channel ends and its hook runs before its link is stored.  The caller that
stores it finds it dead, evicts it, and connects again. -/
theorem evicts_dead_links_of_early_hook :
    let target : SocketAddress := ⟨.v4 .localhost, 9000⟩
    let resources :=
      ((Resources.start (Network.start true .none)).listen Network.os
        default target).2
    let names : NameService := ⟨.ok [], []⟩
    let address : Address := ⟨"127.0.0.1", 9000⟩
    let stored :=
      [Action.openLink address] ++ List.replicate 4 (Action.turn 0) ++
        List.replicate 12 (Action.dial 0) ++
        [Action.finish 0 .stream, .hook 0, .dial 0, .dial 0, .turn 0]
    let judged := stored ++ [Action.turn 0, .judge 0]
    let ended :=
      judged ++ List.replicate 5 (Action.turn 0) ++
        List.replicate 14 (Action.dial 0) ++ [Action.turn 0, .turn 0, .judge 0]
    let early : Session Network Unit :=
      (start default "127.0.0.1" ⟨0, target⟩ ⟨[]⟩ resources).run
        Network.os names stored
    let middle : Session Network Unit :=
      (start default "127.0.0.1" ⟨0, target⟩ ⟨[]⟩ resources).run
        Network.os names judged
    let late : Session Network Unit :=
      (start default "127.0.0.1" ⟨0, target⟩ ⟨[]⟩ resources).run
        Network.os names ended
    let dead : Issued Link := ⟨0, 1, ⟨.v4 .localhost, 60000⟩, target, true⟩
    let live : Issued Link := ⟨1, 2, ⟨.v4 .localhost, 60001⟩, target, true⟩
    early.transport.closed = false ∧
      early.calls.cache.get? address = some dead ∧
      early.isActive dead = false ∧
      early.calls.Pending address dead ∧
      middle.calls.cache.find? address = some 0 ∧
      (middle.step Network.os names (.turn 0)).calls.cache.find?
        address ≠ some 0 ∧
      (∃ link, (middle.calls.cache.reference 0).stored = some link ∧
        middle.isActive link = false) ∧
      late.calls.cache.get? address = some live ∧
      late.isActive live = true := by
  intro target resources names address stored judged ended early middle late
    dead live
  have open₁ : early.transport.closed = false := by decide +kernel
  have cached : early.calls.cache.get? address = some dead := by
    decide +kernel
  have inactive : early.isActive dead = false := by decide +kernel
  have noHook : ∀ task ∈ early.tasks, task.phase ≠ .hooking := by
    decide +kernel
  have open₂ : middle.transport.closed = false := by decide +kernel
  have found : middle.calls.cache.find? address = some 0 := by
    decide +kernel
  have gone : (middle.step Network.os names
      (.turn 0)).calls.cache.find? address ≠ some 0 := by
    decide +kernel
  have open₃ : late.transport.closed = false := by decide +kernel
  have noHook' : ∀ task ∈ late.tasks, task.phase ≠ .hooking := by
    decide +kernel
  have finished : ∀ caller ∈ late.calls.callers,
      caller.result?.isSome = true := by
    decide +kernel
  have cached' : late.calls.cache.get? address = some live := by
    decide +kernel
  obtain ⟨tended, -, -⟩ := evicts_dead_links Network.os names default
    "127.0.0.1" ⟨0, target⟩ ⟨[]⟩ resources stored early rfl open₁
  obtain ⟨-, -, evicts⟩ := evicts_dead_links Network.os names default
    "127.0.0.1" ⟨0, target⟩ ⟨[]⟩ resources judged middle rfl open₂
  obtain ⟨-, settled, -⟩ := evicts_dead_links Network.os names default
    "127.0.0.1" ⟨0, target⟩ ⟨[]⟩ resources ended late rfl open₃
  refine ⟨open₁, cached, inactive, ?_, found, gone,
    (evicts (.turn 0) address 0 found gone).1, cached',
    settled noHook' finished address live cached'⟩
  rcases tended address dead cached inactive with
    ⟨task, member, -, hooks⟩ | pends
  · exact (noHook task member hooks).elim
  · exact pends

end Session

end RemoteMessaging
