import RemoteMessaging.Os.Network
import RemoteMessaging.Proofs.Session.Upkeep

/-!
# Links of a closed transport

A link that was established when it was looked which links are cached is inactive
in the end.  A link that is established later is not found any more, and nothing
but its tasks can mark its channel.
-/

namespace RemoteMessaging

namespace LinkCache

variable {Λ : Type}

theorem mem_links_of_get? {cache : LinkCache Λ} {address : Address}
    {link : Issued Λ} (has : cache.get? address = some link) :
    link ∈ cache.links := by
  obtain ⟨id, found, stored⟩ := get?_eq_some_iff.mp has
  obtain ⟨before, after, entries, -⟩ := List.lookup_eq_some_iff.mp found
  refine List.mem_filterMap.mpr ⟨(address, id), ?_, stored⟩
  rw [entries]
  simp

theorem stored_of_mem_links {cache : LinkCache Λ} {link : Issued Λ}
    (member : link ∈ cache.links) :
    ∃ id, (cache.reference id).stored = some link := by
  obtain ⟨entry, -, stored⟩ := List.mem_filterMap.mp member
  exact ⟨entry.2, stored⟩

end LinkCache

namespace Session

variable {σ η : Type}

namespace Upkeep

variable {session : Session σ η}

theorem survey (upkeep : Upkeep session)
    (early : session.closing.left = none) :
    Upkeep ({ session with
      survey := some ⟨session.calls.cache.links, session.calls.cache.issued⟩
      }.goOn (.marking session.calls.cache.links)) := by
  obtain ⟨unknown, -, cached⟩ := upkeep.before early
  refine { upkeep with caused := ?_, before := ?_, after := ?_ }
  · intro handle inactive
    rcases upkeep.caused handle inactive with reported | ⟨survey, known, -⟩
    · exact .inl reported
    · simp [unknown] at known
  · simp [Session.goOn, Closing.left]
  · rintro _ ⟨⟩
    refine ⟨_, rfl, fun link member => member, ?_, Nat.le_refl _, ?_⟩
    · intro link member
      have established := LinkCache.stored_of_mem_links member
      exact ⟨established, upkeep.numbered.below link established⟩
    · intro link established _ active
      obtain ⟨address, has⟩ := cached link established active
      exact LinkCache.mem_links_of_get? has

theorem markCached (upkeep : Upkeep session) {link : Issued Link}
    {links : List (Issued Link)}
    (left : session.closing.left = some (link :: links)) (closing : Closing)
    (left' : closing.left = some links) :
    Upkeep ((session.mark link.link.handle).goOn closing) := by
  obtain ⟨survey, known, among, early, bound, marked⟩ := upkeep.after _ left
  have inactive : ∀ handle,
      handle ∈ (session.mark link.link.handle).transport.inactive ↔
        handle = link.link.handle ∨ handle ∈ session.transport.inactive :=
    fun _ => Transport.mem_markInactive
  refine { upkeep with told := ?_, caused := ?_, discarded := ?_, before := ?_
                       after := ?_ }
  · intro handle reported
    exact (inactive handle).mpr (.inr (upkeep.told handle reported))
  · intro handle dead
    rcases (inactive handle).mp dead with rfl | before
    · exact .inr ⟨survey, known, link, among link List.mem_cons_self, rfl⟩
    · exact upkeep.caused handle before
  · intro id other phase
    have dead := upkeep.discarded id other phase
    rw [isActive_eq_false_iff] at dead ⊢
    exact (inactive _).mpr (.inr dead)
  · simp [Session.goOn, left']
  · intro rest left''
    obtain rfl := Option.some.inj (left'.symm.trans left'')
    refine ⟨survey, known, ?_, early, bound, ?_⟩
    · exact fun other member => among other (List.mem_cons_of_mem link member)
    · intro other established below active
      rw [isActive_eq_true_iff] at active
      have before : session.isActive other = true := by
        rw [isActive_eq_true_iff]
        exact fun dead => active ((inactive _).mpr (.inr dead))
      rcases List.mem_cons.mp (marked other established below before) with
        rfl | member
      · exact (active ((inactive _).mpr (.inl rfl))).elim
      · exact member

theorem halt (upkeep : Upkeep session) (os : OperatingSystem σ) :
    Upkeep (session.halt os) := by
  refine upkeep.still rfl rfl ?_ rfl rfl rfl
  intro handle
  have marked : ∀ task : Task, Task.marked
      (if task.phase = .waiting then { task with phase := .dropped }
        else task) = task.marked := by
    intro task
    split
    · rename_i waits
      simp [Task.marked, waits]
    · rfl
  have handles : ∀ task : Task, Task.handle
      (if task.phase = .waiting then { task with phase := .dropped }
        else task) = task.handle := by
    intro task
    split <;> rfl
  simp only [Reported, Session.halt, List.mem_map]
  constructor
  · rintro ⟨_, ⟨task, member, rfl⟩, same, yes⟩
    exact ⟨task, member, (handles task).symm.trans same,
      (marked task).symm.trans yes⟩
  · rintro ⟨task, member, same, yes⟩
    exact ⟨_, ⟨task, member, rfl⟩, (handles task).trans same,
      (marked task).trans yes⟩

theorem clear (upkeep : Upkeep session) {links : List (Issued Link)}
    (left : session.closing.left = some links) :
    Upkeep (session.call .clear) := by
  have changes : Calls.Changes session.calls (session.calls.step .clear) none
      fun _ => True :=
    .of_stored (fun _ => rfl) rfl fun _ _ _ => .inr trivial
  refine upkeep.call changes (by simp) ?_ ?_ fun id link phase => .inl phase
  · simp [left]
  · simp [left]

theorem goOn (upkeep : Upkeep session) {closing : Closing}
    (same : closing.left = session.closing.left) :
    Upkeep (session.goOn closing) :=
  upkeep.congr rfl rfl rfl same rfl rfl

theorem close (upkeep : Upkeep session) (os : OperatingSystem σ) :
    Upkeep (session.close os) := by
  cases stage : session.closing with
  | idle =>
      have left : session.closing.left = none := by rw [stage]; rfl
      simp only [Session.close, stage]
      exact upkeep.congr rfl rfl rfl left.symm rfl rfl
  | signalling =>
      have left : session.closing.left = none := by rw [stage]; rfl
      simp only [Session.close, stage]
      exact upkeep.congr rfl rfl rfl left.symm rfl rfl
  | surveying =>
      have left : session.closing.left = none := by rw [stage]; rfl
      simp only [Session.close, stage]
      exact upkeep.survey left
  | marking links =>
      cases links with
      | nil =>
          have left : session.closing.left = some [] := by rw [stage]; rfl
          simp only [Session.close, stage]
          exact (upkeep.clear left).goOn left.symm
      | cons link links =>
          have left : session.closing.left = some (link :: links) := by
            rw [stage]
            rfl
          simp only [Session.close, stage]
          refine upkeep.markCached left _ ?_
          split <;> rfl
  | hooking link links =>
      have left : session.closing.left = some links := by rw [stage]; rfl
      simp only [Session.close, stage]
      refine (upkeep.runHook link.link.handle).goOn ?_
      rw [runHook_eq]
      exact left.symm
  | stopping =>
      have left : session.closing.left = some [] := by rw [stage]; rfl
      simp only [Session.close, stage]
      exact (upkeep.halt os).goOn left.symm
  | returning =>
      have left : session.closing.left = some [] := by rw [stage]; rfl
      simp only [Session.close, stage]
      exact upkeep.goOn left.symm
  | returned =>
      simp only [Session.close, stage]
      exact upkeep

theorem of_steps (upkeep : Upkeep session) {owner : ReferenceId → Address}
    (sound : Calls.Sound owner session.calls) {os : OperatingSystem σ}
    {names : NameService} {next : Session σ η}
    (steps : Steps os names session next) : Upkeep next := by
  cases steps with
  | idle => exact upkeep
  | opened address => exact upkeep.opens address
  | turned id => exact upkeep.turn sound id
  | dialled found phase => exact upkeep.connect os names _ _
  | resumed id => exact upkeep.resumes id
  | judged found phase => exact upkeep.judges found phase
  | handed handed => exact upkeep.hands sound handed
  | looked address => exact upkeep.looks address
  | spawned stored kind informed => exact upkeep.spawn _ kind informed
  | ended found waits =>
      exact upkeep.moveTask found _ (by simp [Task.marked, waits])
  | marked found waits marks hooks =>
      exact upkeep.mark found (by simp [Task.marked, waits]) _ marks
  | hooked found hooks =>
      refine (upkeep.runHook _).moveTask ?_ _ (by simp [Task.marked, hooks])
      rw [runHook_eq]
      exact found
  | closed => exact upkeep.close os

end Upkeep

theorem invariants_run (os : OperatingSystem σ) (names : NameService)
    {session : Session σ η} {owner : ReferenceId → Address}
    (sound : Calls.Sound owner session.calls) (sockets : Sockets session)
    (upkeep : Upkeep session) (actions : List Action) :
    (∃ owner, Calls.Sound owner (session.run os names actions).calls) ∧
      Sockets (session.run os names actions) ∧
      Upkeep (session.run os names actions) := by
  induction actions generalizing session owner with
  | nil => exact ⟨⟨owner, sound⟩, sockets, upkeep⟩
  | cons action actions induction =>
      have steps := steps_step os names session action
      have sockets' := sockets.of_steps sound steps
      have upkeep' := upkeep.of_steps sound steps
      obtain same | ⟨taken, stepped⟩ := Follows.of_steps steps
      · exact induction (same ▸ sound) sockets' upkeep'
      · obtain ⟨after, sound'⟩ := sound.step taken
        exact induction (stepped ▸ sound') sockets' upkeep'

/-- However opening and closing are interleaved, once the transport has been
closed, a link that anybody got is active exactly if it was stored after it had
been looked which links were cached, and no task of its channel has marked it. -/
theorem isActive_iff_of_closed (os : OperatingSystem σ) (names : NameService)
    (config : TransportConfig) (host : String) (listener : Bound)
    (workers : WorkerPools) (resources : Resources σ)
    (actions : List Action) :
    let session := (start config host listener workers resources :
      Session σ η).run os names actions
    session.closing = .returned →
      ∀ id link, (id, .ok link) ∈ session.returned →
        (session.isActive link = true ↔
          ∃ survey, session.survey = some survey ∧
            survey.issued ≤ link.serial ∧
            ¬ session.Reported link.link.handle) := by
  intro session closed id link member
  obtain ⟨-, sockets, upkeep⟩ := invariants_run os names
    (Calls.sound_start fun _ => ⟨"", 0⟩)
    (sockets_start config host listener workers resources : Sockets _)
    (upkeep_start config host listener workers resources : Upkeep _) actions
  have established := upkeep.out id link member
  obtain ⟨survey, known, -, early, -, left⟩ :=
    upkeep.after [] (by simp [session, closed, Closing.left])
  constructor
  · intro active
    refine ⟨survey, known, Nat.le_of_not_lt ?_, ?_⟩
    · intro below
      exact List.not_mem_nil (left link established below active)
    · intro reported
      exact isActive_eq_true_iff.mp active (upkeep.told _ reported)
  · rintro ⟨survey', known', late, unreported⟩
    obtain rfl := Option.some.inj (known.symm.trans known')
    apply isActive_eq_true_iff.mpr
    intro inactive
    rcases upkeep.caused _ inactive with
      reported | ⟨survey', again, other, cached, same⟩
    · exact unreported reported
    · obtain rfl := Option.some.inj (known.symm.trans again)
      obtain ⟨before, below⟩ := early other cached
      obtain rfl := sockets.apart other link before established same
      exact Nat.not_lt_of_le late below

/-- An attempt has its socket when the transport is closed, and makes its tasks
when the threads have stopped.  Nothing is left that could mark its channel, and
whoever opened it gets an active link. -/
theorem active_though_closed :
    let target : SocketAddress := ⟨.v4 .localhost, 9000⟩
    let resources :=
      ((Resources.start (Network.start true .none)).listen Network.os
        default target).2
    let actions : List Action :=
      [.openLink ⟨"127.0.0.1", 9000⟩] ++ List.replicate 4 (.turn 0) ++
        List.replicate 10 (.dial 0) ++ List.replicate 6 .close ++
        List.replicate 4 (.dial 0) ++ List.replicate 2 (.turn 0) ++
        [.judge 0, .handOut 0]
    let session := (start default "127.0.0.1" ⟨0, target⟩ ⟨[]⟩ resources :
      Session Network Unit).run Network.os ⟨.ok [], []⟩ actions
    let link : Issued Link := ⟨0, 1, ⟨.v4 .localhost, 60000⟩, target, true⟩
    session.closing = .returned ∧
      session.calls.callers.map Caller.result? = [some (.link link)] ∧
      session.returned = [(0, .ok link)] ∧
      session.tasks.map Task.phase = [.dropped, .dropped] ∧
      session.isActive link = true := by
  decide +kernel

/-- Of two links, the first was cached when the transport was closed, and the
second was stored afterwards: only the second is active. -/
theorem isActive_iff_of_closed_between :
    let target : SocketAddress := ⟨.v4 .localhost, 9000⟩
    let resources :=
      ((Resources.start (Network.start true .none)).listen Network.os
        default target).2
    let names : NameService := ⟨.ok [], [("peer", .ok [target.ip])]⟩
    let actions : List Action :=
      [.openLink ⟨"127.0.0.1", 9000⟩] ++ List.replicate 4 (.turn 0) ++
        List.replicate 14 (.dial 0) ++ List.replicate 2 (.turn 0) ++
        [.judge 0, .handOut 0, .openLink ⟨"peer", 9000⟩] ++
        List.replicate 4 (.turn 1) ++ List.replicate 10 (.dial 1) ++
        List.replicate 8 .close ++ List.replicate 4 (.dial 1) ++
        List.replicate 2 (.turn 1) ++ [.judge 1, .handOut 1]
    let session := (start default "127.0.0.1" ⟨0, target⟩ ⟨[]⟩ resources :
      Session Network Unit).run Network.os names actions
    let early : Issued Link := ⟨0, 1, ⟨.v4 .localhost, 60000⟩, target, true⟩
    let late : Issued Link := ⟨1, 2, ⟨.v4 .localhost, 60001⟩, target, true⟩
    session.closing = .returned ∧
      session.returned = [(0, .ok early), (1, .ok late)] ∧
      session.survey = some ⟨[early], 1⟩ ∧
      session.isActive early = false ∧ session.isActive late = true := by
  intro target resources names actions session early late
  have closed : session.closing = .returned := by decide +kernel
  have returned : session.returned = [(0, .ok early), (1, .ok late)] := by
    decide +kernel
  have known : session.survey = some ⟨[early], 1⟩ := by decide +kernel
  have tasks : session.tasks.map Task.marked = [false, false, false, false] := by
    decide +kernel
  have condition : ∀ id link, (id, .ok link) ∈ session.returned →
      (session.isActive link = true ↔
        ∃ survey, session.survey = some survey ∧
          survey.issued ≤ link.serial ∧
          ¬ session.Reported link.link.handle) :=
    isActive_iff_of_closed Network.os names default "127.0.0.1" ⟨0, target⟩
      ⟨[]⟩ resources actions closed
  clear_value session
  refine ⟨closed, returned, known, ?_, ?_⟩
  · cases active : session.isActive early with
    | false => rfl
    | true =>
        obtain ⟨survey, known', late', -⟩ :=
          (condition 0 early (by simp [returned])).mp active
        obtain rfl := Option.some.inj (known.symm.trans known')
        exact (Nat.not_succ_le_zero 0 late').elim
  · refine (condition 1 late (by simp [returned])).mpr
      ⟨_, known, Nat.le_refl 1, ?_⟩
    rintro ⟨task, member, -, marked⟩
    have unmarked := List.mem_map_of_mem (f := Task.marked) member
    simp [tasks, marked] at unmarked

end Session

end RemoteMessaging
