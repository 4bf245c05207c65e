import RemoteMessaging.Proofs.Session.Sockets

/-!
# What holds of links and marks

A channel becomes inactive through one of its tasks, or because its link was
cached when the transport was closed.  Until that is known, every link that is
active is cached, since no other is ever evicted.
-/

namespace RemoteMessaging

theorem Caller.link?_of_result? {Λ : Type} {caller : Caller Λ}
    {link : Issued Λ} (has : caller.result? = some (.link link)) :
    caller.link? = some link := by
  simp only [link?, phase_of_result? has]

theorem Transport.result_of_outcome {closed : Bool}
    {result : Option (CallResult Link)} {link : Issued Link}
    (handed : outcome closed result = some (.ok link)) :
    result = some (.link link) := by
  unfold outcome at handed
  split at handed <;> simp_all

theorem Transport.mem_markInactive {η : Type} {transport : Transport η}
    {handle other : Handle} :
    other ∈ (transport.markInactive handle).inactive ↔
      other = handle ∨ other ∈ transport.inactive := by
  unfold markInactive
  split
  · rename_i already
    constructor
    · exact .inr
    · rintro (rfl | before)
      · exact already
      · exact before
  · exact List.mem_cons

namespace Session

variable {σ η : Type}

theorem isActive_eq_true_iff {session : Session σ η} {link : Issued Link} :
    session.isActive link = true ↔
      link.link.handle ∉ session.transport.inactive := by
  simp [isActive, Transport.isActive]

theorem isActive_eq_false_iff {session : Session σ η} {link : Issued Link} :
    session.isActive link = false ↔
      link.link.handle ∈ session.transport.inactive := by
  simp [isActive, Transport.isActive]

/-- A task of the channel has marked it as inactive. -/
def Reported (session : Session σ η) (handle : Handle) : Prop :=
  ∃ task ∈ session.tasks, task.handle = handle ∧ task.marked = true

/-- The links that are left to be marked, once it is known which were cached. -/
def Closing.left : Closing → Option (List (Issued Link))
  | .idle | .signalling | .surveying => none
  | .marking links | .hooking _ links => some links
  | .stopping | .returning | .returned => some []

/-- Before it is known which links are cached, all that are active are. -/
structure Cached (session : Session σ η) : Prop where
  unknown : session.survey = none
  whole : .cleared ∉ session.calls.history
  cached : ∀ link, session.calls.Established link →
    session.isActive link = true →
      ∃ address, session.calls.cache.get? address = some link

/-- Afterwards, those that were established by then and are active are left to be
marked. -/
structure Survey.Covers (survey : Survey) (session : Session σ η)
    (links : List (Issued Link)) : Prop where
  known : session.survey = some survey
  among : ∀ link ∈ links, link ∈ survey.links
  early : ∀ link ∈ survey.links,
    session.calls.Established link ∧ link.serial < survey.issued
  bound : survey.issued ≤ session.calls.cache.issued
  left : ∀ link, session.calls.Established link →
    link.serial < survey.issued → session.isActive link = true → link ∈ links

/-- How links, marks and closing fit together. -/
structure Upkeep (session : Session σ η) : Prop where
  numbered : session.calls.Numbered
  told : ∀ handle, session.Reported handle →
    handle ∈ session.transport.inactive
  caused : ∀ handle ∈ session.transport.inactive, session.Reported handle ∨
    ∃ survey, session.survey = some survey ∧
      ∃ link ∈ survey.links, link.link.handle = handle
  discarded : ∀ id link, session.calls.phaseAt id = some (.discard link) →
    session.isActive link = false
  out : ∀ id link, (id, .ok link) ∈ session.returned →
    session.calls.Established link
  before : session.closing.left = none → session.Cached
  after : ∀ links, session.closing.left = some links →
    ∃ survey : Survey, survey.Covers session links

theorem upkeep_start (config : TransportConfig) (host : String)
    (listener : Bound) (workers : WorkerPools) (resources : Resources σ) :
    Upkeep (start config host listener workers resources : Session σ η) := by
  have nothing : ∀ link, ¬ (start config host listener workers resources :
      Session σ η).calls.Established link := by
    simp [Calls.Established, start, Calls.start, LinkCache.empty,
      LinkCache.reference, Reference.new]
  refine ⟨⟨?_, ?_⟩, ?_, ?_, ?_, ?_, fun _ => ⟨rfl, ?_, ?_⟩, ?_⟩
  · exact fun link established => (nothing link established).elim
  · exact fun link _ established => (nothing link established).elim
  · simp [Reported, start]
  · simp [start, Transport.assemble]
  · simp [start, Calls.start, Calls.phaseAt]
  · simp [start]
  · simp [start, Calls.start]
  · exact fun link established => (nothing link established).elim
  · simp [start, Closing.left]

/-- A step that neither looks which links are cached nor marks one of those.
Tasks mark channels as inactive in it, and before it is known which links are
cached, none that is active is evicted. -/
structure Ordinary (session next : Session σ η) (marks : Handle → Prop)
    (stored : Option (Issued Link)) (evicted : Issued Link → Prop) :
    Prop where
  changes : Calls.Changes session.calls next.calls stored evicted
  entered : .cleared ∉ session.calls.history → ∀ link, stored = some link →
    ∃ address, next.calls.cache.get? address = some link
  dead : session.closing.left = none → ∀ link,
    session.calls.Established link → evicted link →
      session.isActive link = false
  whole : session.closing.left = none → .cleared ∈ next.calls.history →
    .cleared ∈ session.calls.history
  inactive : ∀ handle, handle ∈ next.transport.inactive ↔
    handle ∈ session.transport.inactive ∨ marks handle
  reported : ∀ handle, next.Reported handle ↔
    session.Reported handle ∨ marks handle
  closing : next.closing.left = session.closing.left
  survey : next.survey = session.survey
  discarded : ∀ id link, next.calls.phaseAt id = some (.discard link) →
    session.calls.phaseAt id = some (.discard link) ∨
      session.isActive link = false
  out : ∀ id link, (id, .ok link) ∈ next.returned →
    (id, .ok link) ∈ session.returned ∨ session.calls.Established link

namespace Upkeep

variable {session next : Session σ η}

theorem ordinary (upkeep : Upkeep session) (marks : Handle → Prop)
    (stored : Option (Issued Link)) (evicted : Issued Link → Prop)
    (step : Ordinary session next marks stored evicted) : Upkeep next := by
  have established : ∀ link, session.calls.Established link →
      next.calls.Established link := fun link before =>
    (step.changes.established link).mpr (.inl before)
  have stays : ∀ link, session.isActive link = false →
      next.isActive link = false := by
    intro link dead
    rw [isActive_eq_false_iff] at dead ⊢
    exact (step.inactive _).mpr (.inl dead)
  have wasActive : ∀ link, next.isActive link = true →
      session.isActive link = true := by
    intro link active
    cases dead : session.isActive link with
    | true => rfl
    | false => simp [stays link dead] at active
  refine ⟨upkeep.numbered.changes step.changes, ?_, ?_, ?_, ?_, ?_, ?_⟩
  · intro handle reported
    apply (step.inactive handle).mpr
    rcases (step.reported handle).mp reported with before | now
    · exact .inl (upkeep.told handle before)
    · exact .inr now
  · intro handle inactive
    rw [step.survey, step.reported]
    rcases (step.inactive handle).mp inactive with before | now
    · rcases upkeep.caused handle before with reported | cached
      · exact .inl (.inl reported)
      · exact .inr cached
    · exact .inl (.inr now)
  · intro id link phase
    rcases step.discarded id link phase with before | dead
    · exact stays link (upkeep.discarded id link before)
    · exact stays link dead
  · intro id link returned
    rcases step.out id link returned with before | now
    · exact established link (upkeep.out id link before)
    · exact established link now
  · intro left
    have early : session.closing.left = none := step.closing ▸ left
    obtain ⟨unknown, whole, cached⟩ := upkeep.before early
    refine ⟨step.survey.trans unknown,
      fun cleared => whole (step.whole early cleared), ?_⟩
    intro link now active
    rcases (step.changes.established link).mp now with before | stored
    · obtain ⟨address, has⟩ := cached link before (wasActive link active)
      rcases step.changes.kept address link has with still | evicted
      · exact ⟨address, still⟩
      · have dead := step.dead early link before evicted
        simp [wasActive link active] at dead
    · exact step.entered whole link stored
  · intro links left
    obtain ⟨survey, known, among, early, bound, marked⟩ :=
      upkeep.after links (step.closing ▸ left)
    refine ⟨survey, step.survey.trans known, among, ?_, ?_, ?_⟩
    · intro link member
      obtain ⟨before, below⟩ := early link member
      exact ⟨established link before, below⟩
    · rw [step.changes.issued]
      exact Nat.le_trans bound (Nat.le_add_right _ _)
    · intro link now below active
      rcases (step.changes.established link).mp now with before | stored
      · exact marked link before below (wasActive link active)
      · rw [step.changes.numbered link stored] at below
        exact (Nat.not_lt_of_le bound below).elim

/-! ## Tasks -/

theorem still (upkeep : Upkeep session)
    (calls : next.calls = session.calls)
    (inactive : next.transport.inactive = session.transport.inactive)
    (reported : ∀ handle, next.Reported handle ↔ session.Reported handle)
    (closing : next.closing.left = session.closing.left)
    (survey : next.survey = session.survey)
    (returned : next.returned = session.returned) : Upkeep next := by
  apply upkeep.ordinary (fun _ => False) none fun _ => False
  refine { changes := .of_cache (by rw [calls]), entered := ?_, dead := ?_
           whole := ?_, inactive := ?_, reported := ?_, closing := closing
           survey := survey, discarded := ?_, out := ?_ }
  · simp
  · simp
  · simp [calls]
  · simp [inactive]
  · simp [reported]
  · intro id link phase
    rw [calls] at phase
    exact .inl phase
  · intro id link member
    rw [returned] at member
    exact .inl member

theorem congr (upkeep : Upkeep session)
    (calls : next.calls = session.calls)
    (inactive : next.transport.inactive = session.transport.inactive)
    (tasks : next.tasks = session.tasks)
    (closing : next.closing.left = session.closing.left)
    (survey : next.survey = session.survey)
    (returned : next.returned = session.returned) : Upkeep next := by
  refine upkeep.still calls inactive ?_ closing survey returned
  intro handle
  simp only [Reported, tasks]

theorem spawn (upkeep : Upkeep session) (handle : Handle)
    (kind : Task.Kind) (informed : Bool) :
    Upkeep (session.spawn handle kind informed) := by
  refine upkeep.still rfl rfl ?_ rfl rfl rfl
  intro other
  have unmarked : ∀ phase, phase = Task.Phase.dropped ∨ phase = .waiting →
      Task.marked ⟨handle, kind, informed, phase⟩ = false := by
    rintro _ (rfl | rfl) <;> rfl
  have fresh : Task.marked ⟨handle, kind, informed,
      if session.halted then .dropped else .waiting⟩ = false := by
    apply unmarked
    split
    · exact .inl rfl
    · exact .inr rfl
  simp only [Reported, Session.spawn, List.mem_append, List.mem_singleton]
  constructor
  · rintro ⟨task, member | rfl, same, marked⟩
    · exact ⟨task, member, same, marked⟩
    · simp [fresh] at marked
  · rintro ⟨task, member, same, marked⟩
    exact ⟨task, .inl member, same, marked⟩

end Upkeep

/-- A task moves to another phase: what is marked now was marked before, or is
marked by it. -/
theorem reported_moveTask {session : Session σ η} {position : Nat}
    {task : Task} (found : session.tasks[position]? = some task)
    (phase : Task.Phase) (handle : Handle)
    (keeps : task.marked = true →
      Task.marked { task with phase := phase } = true) :
    (session.moveTask position task phase).Reported handle ↔
      session.Reported handle ∨
        task.handle = handle ∧
          Task.marked { task with phase := phase } = true := by
  obtain ⟨below, here⟩ := List.getElem?_eq_some_iff.mp found
  simp only [Reported, moveTask]
  constructor
  · rintro ⟨other, member, same, marked⟩
    rcases List.mem_or_eq_of_mem_set member with before | rfl
    · exact .inl ⟨other, before, same, marked⟩
    · exact .inr ⟨same, marked⟩
  · rintro (⟨other, member, same, marked⟩ | ⟨same, marked⟩)
    · obtain ⟨place, at'⟩ := List.mem_iff_getElem?.mp member
      by_cases equal : place = position
      · subst equal
        obtain rfl := Option.some.inj (found.symm.trans at')
        exact ⟨_, List.mem_set below _, same, keeps marked⟩
      · refine ⟨other, List.mem_iff_getElem?.mpr ⟨place, ?_⟩, same, marked⟩
        rw [List.getElem?_set_ne (Ne.symm equal)]
        exact at'
    · exact ⟨_, List.mem_set below _, same, marked⟩

namespace Upkeep

variable {session : Session σ η}

theorem moveTask (upkeep : Upkeep session) {position : Nat} {task : Task}
    (found : session.tasks[position]? = some task) (phase : Task.Phase)
    (same : Task.marked { task with phase := phase } = task.marked) :
    Upkeep (session.moveTask position task phase) := by
  refine upkeep.still rfl rfl ?_ rfl rfl rfl
  intro handle
  rw [reported_moveTask found phase handle fun marked => same.trans marked,
    same]
  constructor
  · rintro (before | ⟨rfl, marked⟩)
    · exact before
    · exact ⟨task, List.mem_of_getElem? found, rfl, marked⟩
  · exact .inl

theorem mark (upkeep : Upkeep session) {position : Nat} {task : Task}
    (found : session.tasks[position]? = some task)
    (fresh : task.marked = false) (phase : Task.Phase)
    (marks : Task.marked { task with phase := phase } = true) :
    Upkeep ((session.mark task.handle).moveTask position task phase) := by
  apply upkeep.ordinary (fun handle => task.handle = handle) none fun _ => False
  refine { changes := .of_cache rfl, entered := ?_, dead := ?_
           whole := ?_, inactive := ?_, reported := ?_, closing := rfl
           survey := rfl, discarded := ?_, out := ?_ }
  · simp
  · simp
  · exact fun _ cleared => cleared
  · intro handle
    exact Transport.mem_markInactive.trans
      (or_comm.trans (or_congr_right eq_comm))
  · intro handle
    have moved : ((session.mark task.handle).moveTask position task phase
        ).Reported handle ↔ session.Reported handle ∨ task.handle = handle ∧
          Task.marked { task with phase := phase } = true :=
      reported_moveTask found phase handle (by simp [fresh])
    simpa [marks] using moved
  · exact fun id link phase => .inl phase
  · exact fun id link member => .inl member

/-! ## Callers -/

theorem call (upkeep : Upkeep session) {calls : Calls Link}
    {stored : Option (Issued Link)} {evicted : Issued Link → Prop}
    (changes : Calls.Changes session.calls calls stored evicted)
    (entered : .cleared ∉ session.calls.history → ∀ link,
      stored = some link → ∃ address, calls.cache.get? address = some link)
    (dead : session.closing.left = none → ∀ link,
      session.calls.Established link → evicted link →
        session.isActive link = false)
    (whole : session.closing.left = none → .cleared ∈ calls.history →
      .cleared ∈ session.calls.history)
    (discarded : ∀ id link, calls.phaseAt id = some (.discard link) →
      session.calls.phaseAt id = some (.discard link) ∨
        session.isActive link = false) :
    Upkeep { session with calls := calls } := by
  apply upkeep.ordinary (fun _ => False) stored evicted
  refine { changes := changes, entered := entered, dead := dead, whole := whole
           inactive := ?_, reported := ?_, closing := rfl, survey := rfl
           discarded := discarded, out := ?_ }
  · simp
  · simp [Reported]
  · exact fun id link member => .inl member

theorem turn (upkeep : Upkeep session) {owner : ReferenceId → Address}
    (sound : Calls.Sound owner session.calls) (id : CallerId) :
    Upkeep (session.call (.turn id)) := by
  have whole : session.closing.left = none →
      .cleared ∈ (session.calls.turn id).history →
        .cleared ∈ session.calls.history := by
    intro _ cleared
    have cleared' : .cleared ∈ (session.calls.step (.turn id)).history := cleared
    exact (Calls.cleared_of_step cleared').resolve_right (by simp)
  have discarded : ∀ other link,
      (session.calls.turn id).phaseAt other = some (.discard link) →
        session.calls.phaseAt other = some (.discard link) ∨
          session.isActive link = false := by
    intro other link phase
    left
    by_cases same : other = id
    · subst same
      obtain still | ⟨caller, next, cache, warning, -, taken, lands⟩ :=
        session.calls.phaseAt_turn_self other
      · rwa [still] at phase
      · have plain := (Caller.phase_of_turn taken).1
        rw [lands] at phase
        simp [Option.some.inj phase, Caller.Phase.Answered] at plain
    · rwa [session.calls.phaseAt_turn_of_ne same] at phase
  obtain changes | ⟨caller, reference, link, -, -, changes, cached⟩ |
      ⟨caller, link, found, phase, changes⟩ := sound.turn_changes id
  · exact upkeep.call changes (by simp) (by simp) whole discarded
  · refine upkeep.call changes ?_ (by simp) whole discarded
    rintro uncleared _ ⟨⟩
    exact ⟨caller.address, cached uncleared⟩
  · refine upkeep.call changes (by simp) ?_ whole discarded
    intro _ cached established same
    obtain ⟨place, -, -, stored⟩ := (sound.fits id caller found).link link
      (by simp [Caller.link?, phase])
    obtain rfl := upkeep.numbered.distinct cached link established
      ⟨place, stored⟩ same
    exact upkeep.discarded id cached
      (Calls.phaseAt_eq_some_iff.mpr ⟨caller, found, phase⟩)

theorem answer (upkeep : Upkeep session) (id : CallerId)
    (change : Caller Link → Caller Link)
    (change_cases : ∀ caller, session.calls.callers[id]? = some caller →
      change caller = caller ∨ ∀ link,
        (change caller).phase = .discard link →
          session.isActive link = false) :
    Upkeep { session with calls := session.calls.answer id change } := by
  have changes : Calls.Changes session.calls (session.calls.answer id change)
      none fun _ => False := .of_cache (session.calls.cache_answer id change)
  refine upkeep.call changes (by simp) (by simp) ?_ ?_
  · intro _ cleared
    unfold Calls.answer at cleared
    split at cleared <;> exact cleared
  · intro other link phase
    by_cases same : other = id
    · subst same
      cases found : session.calls.callers[other]? with
      | none => simp [Calls.answer, Calls.phaseAt, found] at phase
      | some caller =>
          rw [Calls.phaseAt_answer_self found] at phase
          obtain still | dead := change_cases caller found
          · left
            rw [still] at phase
            exact Calls.phaseAt_eq_some_iff.mpr
              ⟨caller, found, Option.some.inj phase⟩
          · exact .inr (dead link (Option.some.inj phase))
    · left
      rwa [session.calls.phaseAt_answer_of_ne same] at phase

theorem runHook (upkeep : Upkeep session) (handle : Handle) :
    Upkeep (session.runHook handle) := by
  unfold Session.runHook
  split
  · refine upkeep.call (.of_evictIf rfl) (by simp) ?_ ?_ ?_
    · intro _ link _ inactive
      simpa using inactive
    · exact fun _ cleared => (Calls.cleared_of_step cleared).resolve_right (by simp)
    · exact fun id link phase => .inl phase
  · exact upkeep

theorem opens (upkeep : Upkeep session) (address : Address) :
    Upkeep (session.call
      (.call address session.transport.config.retry true)) := by
  have changes : Calls.Changes session.calls
      (session.calls.call address session.transport.config.retry true)
      none fun _ => False := .of_cache rfl
  refine upkeep.call changes (by simp) (by simp) (fun _ cleared => cleared) ?_
  intro id link phase
  left
  by_cases same : id = session.calls.callers.length
  · subst same
    have begins := session.calls.phaseAt_call_self address
      session.transport.config.retry true
    simp [Calls.step, begins] at phase
  · rwa [Calls.step, session.calls.phaseAt_call_of_ne same] at phase

theorem judges (upkeep : Upkeep session) {id : CallerId}
    {caller : Caller Link} {link : Issued Link}
    (found : session.calls.callers[id]? = some caller)
    (phase : caller.phase = .judging link) :
    Upkeep (session.call (.judged id (session.isActive link))) := by
  refine upkeep.answer id _ ?_
  intro caller' again
  obtain rfl := Option.some.inj (found.symm.trans again)
  right
  intro other discards
  simp only [Caller.judged, phase] at discards
  split at discards
  · simp [Caller.finish, Caller.enterPhase] at discards
  · rename_i dead
    simp only [Caller.enterPhase, Caller.Phase.discard.injEq] at discards
    subst discards
    simpa using dead

theorem resumes (upkeep : Upkeep session) (id : CallerId) :
    Upkeep (session.call (.resumed id)) := by
  refine upkeep.answer id _ ?_
  intro caller _
  unfold Caller.resumed
  split
  · right
    intro link discards
    have plain := caller.not_answered_advance
    simp [discards, Caller.Phase.Answered] at plain
  · exact .inl rfl

theorem settle (upkeep : Upkeep session) (id : CallerId)
    (attempt : Attempt Link) : Upkeep (session.settle id attempt) := by
  have begun : Upkeep (session.proceed id .check) :=
    upkeep.congr rfl rfl rfl rfl rfl rfl
  refine begun.answer id _ ?_
  intro caller _
  unfold Caller.connected
  split
  · right
    intro link
    cases attempt with
    | failed error =>
        simp only
        split <;> simp [Caller.enterPhase]
    | _ => simp [Caller.enterPhase]
  · exact .inl rfl

theorem hands (upkeep : Upkeep session) {owner : ReferenceId → Address}
    (sound : Calls.Sound owner session.calls) {id : CallerId}
    {outcome : Except Error (Issued Link)}
    (handed : Transport.outcome session.transport.closed
      (session.calls.callers[id]?.bind Caller.result?) = some outcome) :
    Upkeep { session with returned := session.returned ++ [(id, outcome)] } := by
  apply upkeep.ordinary (fun _ => False) none fun _ => False
  refine { changes := .of_cache rfl, entered := ?_, dead := ?_
           whole := ?_, inactive := ?_, reported := ?_, closing := rfl
           survey := rfl, discarded := ?_, out := ?_ }
  · simp
  · simp
  · exact fun _ cleared => cleared
  · simp
  · simp [Reported]
  · exact fun other link phase => .inl phase
  · intro other link member
    rcases List.mem_append.mp member with before | now
    · exact .inl before
    · right
      obtain ⟨-, rfl⟩ := Prod.mk.inj (List.mem_singleton.mp now)
      obtain ⟨caller, found, result⟩ := Option.bind_eq_some_iff.mp
        (Transport.result_of_outcome handed)
      obtain ⟨place, -, -, stored⟩ := (sound.fits id caller found).link link
        (Caller.link?_of_result? result)
      exact ⟨place, stored⟩

theorem looks (upkeep : Upkeep session) (address : Address) :
    Upkeep (session.call (.get address)) := by
  have changes : Calls.Changes session.calls
      (session.calls.step (.get address)) none fun _ => False := .of_cache rfl
  refine upkeep.call changes (by simp) (by simp) ?_
    fun id link phase => .inl phase
  exact fun _ cleared => (Calls.cleared_of_step cleared).resolve_right (by simp)

theorem connect (upkeep : Upkeep session) (os : OperatingSystem σ)
    (names : NameService) (id : CallerId) (address : Address) :
    Upkeep (session.connect os names id address) := by
  have attempts := session.attempts_connect os names id address
  generalize session.connect os names id address = next at attempts ⊢
  cases attempts with
  | failed resources error made =>
      have used : Upkeep (session.use resources) :=
        upkeep.congr rfl rfl rfl rfl rfl rfl
      exact used.settle id _
  | started stage =>
      exact (upkeep.spawn _ .reader _).congr rfl rfl rfl rfl rfl rfl
  | connected stage =>
      rename_i link informed
      have keeps : ∀ {session : Session σ η}, Upkeep session →
          Upkeep ((session.keep os link).settle id (.connected link)) := by
        intro session upkeep
        apply settle
        unfold Session.keep
        split <;> exact upkeep.congr rfl rfl rfl rfl rfl rfl
      split
      · exact keeps (upkeep.spawn link.handle .queue informed)
      · exact keeps upkeep
  | _ => exact upkeep.congr rfl rfl rfl rfl rfl rfl

end Upkeep

end Session

end RemoteMessaging
