import RemoteMessaging.Proofs.Listening
import RemoteMessaging.Proofs.Releasing
import RemoteMessaging.Proofs.Session.Sealing

/-!
# Sockets that are gone

Only the socket of a link is served by tasks, so nobody serves one that is still
being prepared.  Numbers of sockets are not used again: a socket that was closed
while nobody had it stays closed, and neither a link nor a task ever gets it.
-/

namespace RemoteMessaging

variable {σ η : Type}

namespace Resources

theorem sockets_close (os : OperatingSystem σ) (handle : Handle)
    (resources : Resources σ) :
    (resources.close os handle).sockets ⊆ resources.sockets :=
  List.filter_subset_self _

theorem sockets_closeAll (os : OperatingSystem σ) (handles : List Handle)
    (resources : Resources σ) :
    (resources.closeAll os handles).sockets ⊆ resources.sockets := by
  induction handles generalizing resources with
  | nil => exact List.Subset.refl _
  | cons handle handles induction =>
      exact List.Subset.trans (induction (resources.close os handle))
        (resources.sockets_close os handle)

end Resources

namespace Session

variable {session next : Session σ η} {os : OperatingSystem σ}
variable {names : NameService}

theorem sockets_keep (os : OperatingSystem σ) (session : Session σ η)
    (link : Link) :
    (session.keep os link).resources.sockets ⊆ session.resources.sockets := by
  unfold keep
  split
  · exact session.resources.sockets_close os link.handle
  · exact List.Subset.refl _

/-- An attempt opens at most one socket in a step, which is new. -/
theorem sockets_connect (os : OperatingSystem σ) (names : NameService)
    (session : Session σ η) (id : CallerId) (address : Address) :
    (session.connect os names id address).resources.sockets ⊆
      session.resources.made :: session.resources.sockets := by
  have same : session.resources.sockets ⊆
      session.resources.made :: session.resources.sockets :=
    List.subset_cons_self _ _
  have asks : ∀ {α : Type} {request : SystemCall σ α}
      {outcome : Except IoError α} {resources : Resources σ},
      session.resources.call request = (outcome, resources) →
        resources.sockets ⊆
          session.resources.made :: session.resources.sockets :=
    fun asked => Resources.sockets_of_call asked ▸ same
  unfold connect
  split
  · split <;> exact same
  · split <;> exact same
  · have creates := session.resources.allOrNothing_create os
    split
    · rename_i failed
      rw [failed] at creates
      exact List.subset_cons_of_subset _ creates.sockets
    · rename_i made
      rw [made] at creates
      obtain ⟨rfl, -⟩ := Resources.made_of_create made
      exact creates.sockets
  · split
    · rename_i asked
      exact List.Subset.trans (Resources.sockets_close os _ _) (asks asked)
    · rename_i asked
      exact asks asked
  · split
    · rename_i asked
      exact List.Subset.trans (Resources.sockets_close os _ _) (asks asked)
    · rename_i asked
      exact asks asked
  · exact same
  · exact same
  · exact same
  · refine List.Subset.trans (sockets_keep os _ _) ?_
    split <;> exact same

def Served (session : Session σ η) (handle : Handle) : Prop :=
  ∃ task ∈ session.tasks, task.handle = handle

/-- A socket is that of a link, which was established or which an attempt is about to
hand out. -/
def Linked (session : Session σ η) (handle : Handle) : Prop :=
  (∃ link, session.calls.Established link ∧ link.link.handle = handle) ∨
    ∃ id link, (session.dial id).link? = some link ∧ link.handle = handle

theorem served_spawn (session : Session σ η) {handle other : Handle}
    {kind : Task.Kind} {informed : Bool}
    (served : (session.spawn other kind informed).Served handle) :
    session.Served handle ∨ other = handle := by
  obtain ⟨task, member, same⟩ := served
  rcases List.mem_append.mp member with before | now
  · exact .inl ⟨task, before, same⟩
  · obtain rfl := List.mem_singleton.mp now
    exact .inr same

theorem served_moveTask (session : Session σ η) {handle : Handle}
    {position : Nat} {task : Task} {phase : Task.Phase}
    (found : session.tasks[position]? = some task)
    (served : (session.moveTask position task phase).Served handle) :
    session.Served handle := by
  obtain ⟨other, member, same⟩ := served
  rcases List.mem_or_eq_of_mem_set member with before | rfl
  · exact ⟨other, before, same⟩
  · exact ⟨task, List.mem_of_getElem? found, same⟩

@[simp] theorem tasks_keep (os : OperatingSystem σ) (session : Session σ η)
    (link : Link) : (session.keep os link).tasks = session.tasks := by
  unfold keep
  split <;> rfl

theorem served_connect {id : CallerId} {address : Address} {handle : Handle}
    (served : (session.connect os names id address).Served handle) :
    session.Served handle ∨ session.Linked handle := by
  have attempts := session.attempts_connect os names id address
  generalize session.connect os names id address = next at attempts served
  have own : ∀ {link : Link}, (session.dial id).link? = some link →
      link.handle = handle → session.Linked handle :=
    fun {link} has same => .inr ⟨id, link, has, same⟩
  cases attempts with
  | started stage =>
      rename_i link informed
      have spawned := served_spawn session served
      exact spawned.imp_right (own (by rw [stage]; rfl))
  | connected stage =>
      rename_i link informed
      obtain ⟨task, member, same⟩ := served
      simp only [settle, proceed, Session.call, tasks_keep] at member
      split at member
      · have spawned := served_spawn session ⟨task, member, same⟩
        exact spawned.imp_right (own (by rw [stage]; rfl))
      · exact .inl ⟨task, member, same⟩
  | _ => exact .inl served

theorem served_halt (os : OperatingSystem σ) {handle : Handle}
    (served : (session.halt os).Served handle) : session.Served handle := by
  obtain ⟨task, member, same⟩ := served
  obtain ⟨other, before, rfl⟩ := List.mem_map.mp member
  refine ⟨other, before, ?_⟩
  split at same <;> exact same

theorem close_frame (os : OperatingSystem σ) (session : Session σ η) :
    (session.close os).dial = session.dial ∧
      (session.close os).resources.sockets ⊆ session.resources.sockets ∧
      ∀ handle, (session.close os).Served handle → session.Served handle := by
  have still : ∀ {after : Session σ η}, after.dial = session.dial →
      after.resources = session.resources → after.tasks = session.tasks →
        after.dial = session.dial ∧
          after.resources.sockets ⊆ session.resources.sockets ∧
          ∀ handle, after.Served handle → session.Served handle := by
    intro after dial resources tasks
    exact ⟨dial, resources ▸ List.Subset.refl _, fun handle served =>
      by rwa [Served, tasks] at served⟩
  unfold Session.close
  split
  · exact still rfl rfl rfl
  · exact still rfl rfl rfl
  · exact still rfl rfl rfl
  · exact still rfl rfl rfl
  · rw [runHook_eq]
    exact still rfl rfl rfl
  · exact still rfl rfl rfl
  · exact ⟨rfl, Resources.sockets_closeAll os _ _,
      fun handle served => served_halt os served⟩
  · exact still rfl rfl rfl
  · exact still rfl rfl rfl

theorem Steps.sockets (steps : Steps os names session next) :
    next.resources.sockets ⊆
      session.resources.made :: session.resources.sockets := by
  cases steps with
  | dialled found phase => exact session.sockets_connect os names _ _
  | hooked found hooks =>
      rw [runHook_eq]
      exact List.subset_cons_self _ _
  | closed =>
      exact List.subset_cons_of_subset _ (session.close_frame os).2.1
  | _ => exact List.subset_cons_self _ _

theorem Steps.served (steps : Steps os names session next) {handle : Handle}
    (served : next.Served handle) :
    session.Served handle ∨ session.Linked handle := by
  cases steps with
  | dialled found phase => exact served_connect served
  | spawned stored kind informed =>
      rename_i link
      exact (served_spawn session served).imp_right fun same =>
        .inl ⟨link, stored, same⟩
  | ended found waits => exact .inl (served_moveTask session found served)
  | marked found waits marks hooks =>
      exact .inl (served_moveTask (session.mark _) found served)
  | hooked found hooks =>
      rw [runHook_eq] at served
      exact .inl (served_moveTask { session with calls := _ } found served)
  | closed => exact .inl ((session.close_frame os).2.2 handle served)
  | _ => exact .inl served

/-- Whoever has a socket connects, and its socket counts as carried. -/
theorem Sockets.carried_of_handle? (sockets : Sockets session) {id : CallerId}
    {handle : Handle} (has : (session.dial id).handle? = some handle) :
    (∃ reference, session.calls.phaseAt id = some (.connecting reference)) ∧
      session.carried id = some handle := by
  have connects : ∃ reference,
      session.calls.phaseAt id = some (.connecting reference) := by
    apply Classical.byContradiction
    intro idle
    rw [sockets.fresh id (not_exists.mp idle)] at has
    cases has
  obtain ⟨reference, phase⟩ := connects
  exact ⟨⟨reference, phase⟩, by simp only [Session.carried, phase, has]⟩

theorem Sockets.lt_of_linked (sockets : Sockets session) {handle : Handle}
    (linked : session.Linked handle) : handle < session.resources.made := by
  rcases linked with ⟨link, stored, rfl⟩ | ⟨id, link, has, rfl⟩
  · exact sockets.linked link stored
  · obtain ⟨-, carries⟩ :=
      sockets.carried_of_handle? (Dial.handle?_of_link? has)
    exact (sockets.carried id _ carries).1

def Prepares (session : Session σ η) (id : CallerId) (handle : Handle) : Prop :=
  (session.dial id).handle? = some handle ∧ (session.dial id).link? = none

theorem Sockets.not_linked (sockets : Sockets session) {id : CallerId}
    {handle : Handle} (prepares : session.Prepares id handle) :
    ¬ session.Linked handle := by
  obtain ⟨has, bare⟩ := prepares
  obtain ⟨-, carries⟩ := sockets.carried_of_handle? has
  rintro (⟨link, stored, same⟩ | ⟨other, link, has', rfl⟩)
  · exact (sockets.carried id handle carries).2 link stored same
  · obtain ⟨-, carries'⟩ :=
      sockets.carried_of_handle? (Dial.handle?_of_link? has')
    obtain rfl := sockets.alone id other _ carries carries'
    simp [bare] at has'

theorem prepares_connect {id other : CallerId} {address : Address}
    {handle : Handle}
    (prepares : (session.connect os names id address).Prepares other handle) :
    session.Prepares other handle ∨ handle = session.resources.made := by
  by_cases same : other = id
  · subst same
    have attempts := session.attempts_connect os names other address
    generalize session.connect os names other address = next
      at attempts prepares
    obtain ⟨has, bare⟩ := prepares
    cases attempts with
    | failed resources error made =>
        rw [dial_settle] at has
        cases has
    | began bare' => simp [bare'] at has
    | created resources target requests made =>
        rw [dial_proceed] at has
        exact .inr (Option.some.inj has).symm
    | prepared resources stage made =>
        rw [dial_proceed] at has
        exact .inl ⟨by rw [stage]; exact has, by rw [stage]; rfl⟩
    | registered resources own stage made =>
        simp only [dial_proceed] at bare
        cases bare
    | watched stage same' => simp [same'] at bare
    | started stage =>
        rw [dial_proceed] at bare
        cases bare
    | connected stage =>
        rw [dial_settle] at has
        cases has
  · left
    obtain ⟨unchanged, -⟩ :=
      session.others_connect os names id address other same
    rwa [Prepares, unchanged] at prepares

theorem Steps.prepares (steps : Steps os names session next) {id : CallerId}
    {handle : Handle} (prepares : next.Prepares id handle) :
    session.Prepares id handle ∨ handle = session.resources.made := by
  cases steps with
  | dialled found phase => exact prepares_connect prepares
  | hooked found hooks =>
      rw [runHook_eq] at prepares
      exact .inl prepares
  | closed =>
      rw [Prepares, (session.close_frame os).1] at prepares
      exact .inl prepares
  | _ => exact .inl prepares

/-- Tasks serve sockets that have been made, but none that is still being
prepared. -/
structure Serves (session : Session σ η) : Prop where
  made : ∀ handle, session.Served handle → handle < session.resources.made
  unready : ∀ id handle, session.Prepares id handle → ¬ session.Served handle

theorem serves_start (config : TransportConfig) (host : String)
    (listener : Bound) (workers : WorkerPools) (resources : Resources σ) :
    Serves (start config host listener workers resources : Session σ η) := by
  refine ⟨?_, ?_⟩
  · rintro handle ⟨task, member, -⟩
    cases member
  · rintro id handle ⟨has, -⟩
    cases has

theorem Serves.of_steps (serves : Serves session)
    {owner : ReferenceId → Address} (sound : Calls.Sound owner session.calls)
    (sockets : Sockets session) (steps : Steps os names session next) :
    Serves next := by
  have grows : session.resources.made ≤ next.resources.made := by
    obtain ⟨own, stored, -, grows, -⟩ := sockets.passes sound steps
    exact grows
  have below : ∀ handle, next.Served handle →
      handle < session.resources.made := by
    intro handle served
    rcases steps.served served with before | linked
    · exact serves.made handle before
    · exact sockets.lt_of_linked linked
  refine ⟨?_, ?_⟩
  · exact fun handle served => Nat.lt_of_lt_of_le (below handle served) grows
  · intro id handle prepares served
    rcases steps.prepares prepares with before | rfl
    · rcases steps.served served with earlier | linked
      · exact serves.unready id handle before earlier
      · exact sockets.not_linked before linked
    · exact Nat.lt_irrefl _ (below _ served)

theorem serves_run (os : OperatingSystem σ) (names : NameService)
    (config : TransportConfig) (host : String) (listener : Bound)
    (workers : WorkerPools) (resources : Resources σ) (actions : List Action) :
    Serves ((start config host listener workers resources : Session σ η).run os
      names actions) := by
  refine run_induction os names ?_ (Calls.sound_start fun _ => ⟨"", 0⟩)
    (sockets_start config host listener workers resources)
    (serves_start config host listener workers resources) actions
  exact fun sound sockets steps serves => serves.of_steps sound sockets steps

/-- A socket is closed, and nobody has it: no attempt, no link, no task. -/
structure Spent (handle : Handle) (session : Session σ η) : Prop where
  made : handle < session.resources.made
  free : ∀ id, session.carried id ≠ some handle
  unlinked : ∀ link, session.calls.Established link →
    link.link.handle ≠ handle
  unserved : ¬ session.Served handle
  closed : handle ∉ session.resources.sockets

theorem Spent.of_steps {handle : Handle} (spent : Spent handle session)
    {owner : ReferenceId → Address} (sound : Calls.Sound owner session.calls)
    (sockets : Sockets session) (steps : Steps os names session next) :
    Spent handle next := by
  have unlinked : ¬ session.Linked handle := by
    rintro (⟨link, stored, same⟩ | ⟨id, link, has, rfl⟩)
    · exact spent.unlinked link stored same
    · exact spent.free id
        (sockets.carried_of_handle? (Dial.handle?_of_link? has)).2
  obtain ⟨own, stored, -, grows, others, mine, established, moved⟩ :=
    sockets.passes sound steps
  refine ⟨Nat.lt_of_lt_of_le spent.made grows, ?_, ?_, ?_, ?_⟩
  · intro id carries
    by_cases same : id = own
    · subst same
      rcases mine handle carries with before | ⟨above, -⟩
      · exact spent.free id before
      · exact Nat.not_lt_of_le above spent.made
    · exact spent.free id (others id handle same carries)
  · rintro link linked rfl
    rcases (established link).mp linked with before | now
    · exact spent.unlinked link before rfl
    · exact spent.free own (moved link now).1
  · intro served
    exact (steps.served served).elim spent.unserved unlinked
  · intro opened
    rcases List.mem_cons.mp (steps.sockets opened) with rfl | before
    · exact Nat.lt_irrefl _ spent.made
    · exact spent.closed before

theorem Spent.run {handle : Handle} (spent : Spent handle session)
    {owner : ReferenceId → Address} (sound : Calls.Sound owner session.calls)
    (sockets : Sockets session) (actions : List Action) :
    Spent handle (session.run os names actions) := by
  refine run_induction os names ?_ sound sockets spent actions
  exact fun sound sockets steps spent => spent.of_steps sound sockets steps

end Session

end RemoteMessaging
