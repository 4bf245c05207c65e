import Mathlib.Algebra.GroupWithZero.Nat
import RemoteMessaging.Channel.ReadTask
import RemoteMessaging.Proofs.ArbitraryStreams

/-!
# A read loop on arbitrary bytes

Whatever a channel carries, its read loop tells of the frames within the limit and
then of the fault, or stops on the way once a shutdown is signalled.  However many
mark the channel as inactive, one of them clears the flag, and that one runs the
hook, perhaps after the loop has ended.
-/

namespace RemoteMessaging

/-! ## Marking -/

namespace Marking

/-- A call that marks a channel has come past its first step only if the flag is
cleared. -/
def Fits (marking : Marking) (activity : Activity) : Prop :=
  marking = .begun ∨ activity.active = false

/-- The runs of the hook that a call still owes. -/
def owed (marking : Marking) : Nat :=
  if marking = .hooking then 1 else 0

variable {marking other : Marking} {activity : Activity}

theorem hooked_step : (marking.step activity).2.hooked = activity.hooked := by
  cases marking with
  | hooking =>
      simp only [step, Activity.runHook]
      split <;> rfl
  | _ => rfl

theorem Fits.step (fits : other.Fits activity) :
    other.Fits (marking.step activity).2 := by
  refine fits.imp_right fun cleared => ?_
  cases marking with
  | begun => rfl
  | hooking =>
      simp only [Marking.step, Activity.runHook]
      split <;> exact cleared
  | ended => exact cleared

theorem fits_step (fits : marking.Fits activity) :
    (marking.step activity).1.Fits (marking.step activity).2 := by
  cases marking with
  | begun => exact .inr rfl
  | hooking =>
      have cleared : activity.active = false := fits.resolve_left nofun
      exact Fits.step (.inr cleared)
  | ended => exact .inr (fits.resolve_left nofun)

/-- Of the flag, what a call owes, and the runs of the hook, a step gives up as much
of one as it adds to another. -/
theorem balance_step (hooked : activity.hooked = true) (fits : marking.Fits activity) :
    (marking.step activity).2.active.toNat + (marking.step activity).1.owed +
        (marking.step activity).2.hookRuns =
      activity.active.toNat + marking.owed + activity.hookRuns := by
  cases marking with
  | begun =>
      cases active : activity.active <;>
        simp [step, Activity.deactivate, active, owed]
  | hooking =>
      simp [step, Activity.runHook, hooked, owed]
      omega
  | ended => rfl

theorem markInactive_eq (activity : Activity) :
    activity.markInactive =
      (let (marking, activity) := Marking.begun.step activity
      (marking.step activity).2) := by
  obtain ⟨active, hooked, hookRuns⟩ := activity
  cases active <;> cases hooked <;> rfl

end Marking

namespace ReadTask

variable {task next : ReadTask}

/-! ## Steps -/

/-- What may come of a step. -/
inductive Steps (task : ReadTask) : Action → ReadTask → Prop where
  | idle {action : Action}
      (stays : action = .read → task.marking.isSome ∨
        (Frame.read task.channel.maxFrameLength task.source).1 = .waiting) :
      Steps task action task
  | passed {payload : List UInt8} {rest : Source} (reading : task.marking = none)
      (received : Frame.read task.channel.maxFrameLength task.source =
        (.payload payload, rest)) :
      Steps task .read
        ({ task with source := rest }.tell (task.channel.notice payload))
  | failed {error : IoError} {rest : Source} (reading : task.marking = none)
      (received : Frame.read task.channel.maxFrameLength task.source =
        (.failed error, rest)) :
      Steps task .read ({ task with source := rest }.tell (.error
        (Operation.read.channelError task.channel.remoteAddress error))).exit
  | finished {rest : Source} (reading : task.marking = none)
      (received : Frame.read task.channel.maxFrameLength task.source =
        (.finished, rest)) :
      Steps task .read { task with source := rest }.exit
  | left (reading : task.marking = none) (signalled : task.signalled = true) :
      Steps task .leave task.exit
  | marked {marking : Marking} (stands : task.marking = some marking) :
      Steps task .mark { task with
        marking := some (marking.step task.activity).1
        activity := (marking.step task.activity).2 }
  | signalled : Steps task .signal { task with signalled := true }
  | called : Steps task .call { task with others := task.others ++ [.begun] }
  | proceeded {position : Nat} {marking : Marking}
      (stands : task.others[position]? = some marking) :
      Steps task (.proceed position) { task with
        others := task.others.set position (marking.step task.activity).1
        activity := (marking.step task.activity).2 }

theorem steps_step (task : ReadTask) (action : Action) :
    Steps task action (task.step action) := by
  cases action with
  | read =>
      rw [step, read]
      split
      · rename_i left
        exact .idle fun _ => .inl left
      · rename_i reading
        replace reading : task.marking = none := Option.not_isSome_iff_eq_none.mp reading
        split <;> rename_i received
        · exact .passed reading received
        · exact .failed reading received
        · exact .finished reading received
        · exact .idle fun _ => .inr (congrArg Prod.fst received)
  | leave =>
      rw [step, leave]
      split
      · rename_i possible
        exact .left possible.1 possible.2
      · exact .idle nofun
  | mark =>
      rw [step, mark]
      split
      · exact .idle nofun
      · rename_i stands
        exact .marked stands
  | signal => exact .signalled
  | call => exact .called
  | proceed position =>
      rw [step, proceed]
      split
      · exact .idle nofun
      · rename_i stands
        exact .proceeded stands

theorem run_induction {P : ReadTask → Prop} (start : P task)
    (keeps : ∀ {task next action}, Steps task action next → P task → P next)
    (actions : List Action) : P (task.run actions) := by
  induction actions generalizing task with
  | nil => exact start
  | cons action actions induction =>
      exact induction (keeps (steps_step task action) start)

/-! ## Notices -/

/-- The notices of a task so far, of all that can be told of its stream. -/
structure Tells (whole : List Channel.Notice) (task : ReadTask) : Prop where
  begun : task.notices <+: whole
  left : task.marking = none →
    task.notices ++ task.channel.receive none task.source = whole
  undisturbed : task.marking.isSome → task.signalled = false →
    task.notices = whole

theorem tells_start (channel : Channel) (hooked : Bool) (source : Source) :
    Tells (channel.receive none source) (start channel hooked source) :=
  ⟨List.nil_prefix, fun _ => rfl, nofun⟩

theorem Tells.step {whole : List Channel.Notice} {action : Action}
    (steps : Steps task action next) (tells : Tells whole task) :
    Tells whole next := by
  cases steps with
  | idle stays => exact tells
  | @passed payload rest reading received =>
      have left := tells.left reading
      rw [Channel.receive_of_payload (Option.some_ne_none 0).symm received] at left
      have rest' : task.notices ++ [task.channel.notice payload] ++
          task.channel.receive none rest = whole := by
        rw [List.append_assoc]
        exact left
      refine ⟨⟨_, rest'⟩, fun _ => rest', fun ended => ?_⟩
      simp [tell, reading] at ended
  | failed reading received =>
      have left := tells.left reading
      rw [Channel.receive_of_failed (Option.some_ne_none 0).symm received] at left
      exact ⟨⟨[], (List.append_nil _).trans left⟩, nofun, fun _ _ => left⟩
  | finished reading received =>
      have left := tells.left reading
      rw [Channel.receive_of_nothing none received (.inl rfl),
        List.append_nil] at left
      exact ⟨tells.begun, nofun, fun _ _ => left⟩
  | left reading signalled =>
      refine ⟨tells.begun, nofun, fun _ silent => ?_⟩
      simp [exit, signalled] at silent
  | marked stands =>
      refine ⟨tells.begun, nofun, fun _ silent => ?_⟩
      exact tells.undisturbed (by simp [stands]) silent
  | signalled => exact ⟨tells.begun, tells.left, nofun⟩
  | called => exact ⟨tells.begun, tells.left, tells.undisturbed⟩
  | proceeded stands => exact ⟨tells.begun, tells.left, tells.undisturbed⟩

/-! ## Hooks -/

/-- The calls that mark the channel, that of the loop and those of others. -/
def markings (task : ReadTask) : List Marking :=
  task.marking.toList ++ task.others

/-- One of the flag, a call that marks the channel, and the hook has the one run of
the hook to its account. -/
structure Marks (task : ReadTask) : Prop where
  hooked : task.activity.hooked = true
  fits : ∀ marking ∈ task.markings, marking.Fits task.activity
  balance : task.activity.active.toNat + (task.markings.map Marking.owed).sum +
    task.activity.hookRuns = 1

theorem marks_start (channel : Channel) (source : Source) :
    Marks (start channel true source) :=
  ⟨rfl, by simp [markings, start], rfl⟩

theorem Marks.move (marks : Marks task) (before after : List Marking)
    {marking : Marking} (stands : task.markings = before ++ marking :: after)
    (activity : next.activity = (marking.step task.activity).2)
    (markings : next.markings =
      before ++ (marking.step task.activity).1 :: after) : Marks next := by
  have fits := marks.fits
  have balance := marks.balance
  rw [stands, List.forall_mem_append, List.forall_mem_cons] at fits
  obtain ⟨early, here, late⟩ := fits
  have moved := Marking.balance_step marks.hooked here
  rw [stands] at balance
  refine ⟨?_, ?_, ?_⟩
  · rw [activity, Marking.hooked_step]
    exact marks.hooked
  · rw [activity, markings, List.forall_mem_append, List.forall_mem_cons]
    exact ⟨fun other member => (early other member).step, Marking.fits_step here,
      fun other member => (late other member).step⟩
  · rw [activity, markings]
    simp only [List.map_append, List.map_cons, List.sum_append, List.sum_cons]
      at balance ⊢
    omega

theorem Marks.still (marks : Marks task) (activity : next.activity = task.activity)
    (same : ∀ marking ∈ next.markings, marking = .begun ∨ marking ∈ task.markings)
    (owed : (next.markings.map Marking.owed).sum =
      (task.markings.map Marking.owed).sum) : Marks next := by
  refine ⟨activity ▸ marks.hooked, fun marking member => ?_, ?_⟩
  · rw [activity]
    rcases same marking member with begun | before
    · exact .inl begun
    · exact marks.fits marking before
  · rw [activity, owed]
    exact marks.balance

theorem Marks.exit (marks : Marks task) (reading : task.marking = none)
    (activity : next.activity = task.activity) (others : next.others = task.others)
    (marking : next.marking = some .begun) : Marks next := by
  refine marks.still activity ?_ ?_
  · intro other member
    simpa [markings, marking, reading, others] using member
  · simp [markings, marking, reading, others, Marking.owed]

theorem Marks.step {action : Action} (steps : Steps task action next)
    (marks : Marks task) : Marks next := by
  cases steps with
  | idle stays => exact marks
  | passed reading received => exact ⟨marks.hooked, marks.fits, marks.balance⟩
  | failed reading received => exact marks.exit reading rfl rfl rfl
  | finished reading received => exact marks.exit reading rfl rfl rfl
  | left reading signalled => exact marks.exit reading rfl rfl rfl
  | @marked marking stands =>
      refine marks.move [] task.others ?_ rfl rfl
      simp [markings, stands]
  | signalled => exact ⟨marks.hooked, marks.fits, marks.balance⟩
  | called =>
      refine marks.still rfl (fun marking member => ?_) ?_
      · simpa [markings, or_comm, or_assoc, or_left_comm] using member
      · simp [markings, Marking.owed]
  | @proceeded position marking stands =>
      obtain ⟨below, rfl⟩ := List.getElem?_eq_some_iff.mp stands
      refine marks.move (task.marking.toList ++ task.others.take position)
        (task.others.drop (position + 1)) ?_ rfl ?_
      · rw [List.append_assoc, ← List.drop_eq_getElem_cons below,
          List.take_append_drop]
        rfl
      · rw [List.append_assoc, markings, List.set_eq_take_append_cons_drop,
          if_pos below]

theorem sum_owed (markings : List Marking) :
    (markings.map Marking.owed).sum = markings.count .hooking := by
  induction markings with
  | nil => rfl
  | cons marking markings induction =>
      rw [List.map_cons, List.sum_cons, induction, List.count_cons, Nat.add_comm]
      cases marking <;> rfl

/-- A loop that has ended has left the channel inactive.  The hook has run, unless one
of the others is about to run it. -/
theorem Marks.ended (marks : Marks task) (ended : task.marking = some .ended) :
    task.activity.active = false ∧ task.others.count .hooking ≤ 1 ∧
      task.activity.hookRuns = if .hooking ∈ task.others then 0 else 1 := by
  have among : Marking.ended ∈ task.markings := by simp [markings, ended]
  have inactive : task.activity.active = false :=
    (marks.fits _ among).resolve_left nofun
  have balance := marks.balance
  rw [inactive, markings, ended, sum_owed, List.count_append] at balance
  have own : (some Marking.ended).toList.count .hooking = 0 := rfl
  rw [own, Bool.toNat_false] at balance
  refine ⟨inactive, by omega, ?_⟩
  split
  · rename_i pending
    have positive := List.count_pos_iff.mpr pending
    omega
  · rename_i done
    rw [List.count_eq_zero.mpr done] at balance
    omega

theorem Marks.hookRuns_le (marks : Marks task) : task.activity.hookRuns ≤ 1 := by
  have balance := marks.balance
  omega

/-! ## Reads -/

def reads (actions : List Action) : Nat :=
  actions.count .read

theorem reads_cons (action : Action) (actions : List Action) :
    reads (action :: actions) = reads [action] + reads actions := by
  rw [reads, ← List.singleton_append, List.count_append]
  rfl

theorem marking_of_steps {action : Action} (steps : Steps task action next)
    (goes : next.marking = none) : task.marking = none := by
  cases steps with
  | passed reading received => exact reading
  | failed reading received => exact reading
  | finished reading received => exact reading
  | left reading signalled => exact reading
  | marked stands => exact nomatch goes
  | _ => exact goes

theorem marking_of_run (actions : List Action)
    (goes : (task.run actions).marking = none) : task.marking = none := by
  induction actions generalizing task with
  | nil => exact goes
  | cons action actions induction =>
      exact marking_of_steps (steps_step task action) (induction goes)

theorem length_notices_step {action : Action} (steps : Steps task action next)
    (closed : task.source.ending = .closed) (goes : next.marking = none) :
    next.source.ending = .closed ∧
      next.notices.length = task.notices.length + reads [action] := by
  have ends := Frame.read_of_closed task.channel.maxFrameLength closed
  cases steps with
  | passed reading received =>
      rw [received] at ends
      exact ⟨ends.2, List.length_append⟩
  | failed reading received => exact nomatch goes
  | finished reading received => exact nomatch goes
  | left reading signalled => exact nomatch goes
  | marked stands => exact nomatch goes
  | @idle action stays =>
      have other : action ≠ .read := fun same =>
        (stays same).elim (by simp [goes]) ends.1
      have none : reads [action] = 0 :=
        List.count_eq_zero.mpr (by simpa using other.symm)
      exact ⟨closed, none ▸ rfl⟩
  | _ => exact ⟨closed, rfl⟩

theorem length_notices (actions : List Action) (closed : task.source.ending = .closed)
    (goes : (task.run actions).marking = none) :
    (task.run actions).notices.length = task.notices.length + reads actions := by
  induction actions generalizing task with
  | nil => rfl
  | cons action actions induction =>
      obtain ⟨closed', now⟩ := length_notices_step (steps_step task action) closed
        (marking_of_run actions goes)
      have later := induction closed' goes
      rw [now, Nat.add_assoc, ← reads_cons] at later
      exact later

/-! ## The loop by itself -/

theorem run_append (first second : List Action) :
    task.run (first ++ second) = (task.run first).run second :=
  List.foldl_append

theorem run_of_left (count : Nat) (left : task.marking = some .begun) :
    task.run (List.replicate count .read ++ [.signal, .leave]) =
      { task with signalled := true } := by
  induction count with
  | zero => simp [run, step, leave, left]
  | succ count induction =>
      have stays : task.read = task := by simp [read, left]
      rw [List.replicate_succ, List.cons_append, run, List.foldl_cons, step, stays]
      exact induction

theorem run_reads (task : ReadTask) (count : Nat) (reading : task.marking = none) :
    let next := task.run (List.replicate count .read ++ [.signal, .leave])
    next.notices = task.notices ++
        task.channel.receive (some count) task.source ∧
      next.marking = some .begun ∧ next.activity = task.activity := by
  induction count generalizing task with
  | zero => simp [run, step, leave, reading, exit, Channel.receive]
  | succ count induction =>
      have patient : some (count + 1) ≠ some 0 := by simp
      rw [List.replicate_succ, List.cons_append, run, List.foldl_cons, step]
      cases received : Frame.read task.channel.maxFrameLength task.source with
      | mk outcome rest =>
      cases outcome with
      | payload payload =>
          have passes : task.read =
              { task with source := rest }.tell (task.channel.notice payload) := by
            simp [read, reading, received, Channel.notice]
          rw [passes, Channel.receive_of_payload patient received]
          obtain ⟨notices, left, activity⟩ := induction
            ({ task with source := rest }.tell (task.channel.notice payload)) reading
          refine ⟨notices.trans ?_, left, activity⟩
          simp [tell]
      | failed error =>
          have ends : task.read = ({ task with source := rest }.tell (.error
              (Operation.read.channelError task.channel.remoteAddress error))).exit := by
            simp [read, reading, received]
          have leaves := run_of_left count (congrArg marking ends)
          rw [run] at leaves
          rw [leaves, ends, Channel.receive_of_failed patient received]
          exact ⟨rfl, rfl, rfl⟩
      | finished =>
          have ends : task.read = { task with source := rest }.exit := by
            simp [read, reading, received]
          have leaves := run_of_left count (congrArg marking ends)
          rw [run] at leaves
          rw [leaves, ends, Channel.receive_of_nothing _ received (.inl rfl),
            List.append_nil]
          exact ⟨rfl, rfl, rfl⟩
      | waiting =>
          have stays : task.read = task := by simp [read, reading, received]
          have later := induction task reading
          rw [Channel.receive_of_nothing _ received (.inr rfl)] at later ⊢
          rw [stays]
          exact later

theorem run_marks (left : task.marking = some .begun) :
    task.run [.mark, .mark] =
      { task with marking := some .ended, activity := task.activity.markInactive } := by
  rw [Marking.markInactive_eq]
  cases active : task.activity.active <;>
    simp [run, step, mark, left, Marking.step, Activity.deactivate, active]

/-- The steps of the loop are those that are told of the whole loop: it reads a number
of frames, sees a shutdown, and marks the channel. -/
theorem run_of_readLoop (channel : Channel) (hooked : Bool) (source : Source)
    (count : Nat) :
    let task := (start channel hooked source).run
      (List.replicate count .read ++ [.signal, .leave] ++ [.mark, .mark])
    (task.notices, task.activity) =
        channel.readLoop (.start hooked) (some count) source ∧
      task.marking = some .ended := by
  intro task
  obtain ⟨notices, left, activity⟩ :=
    run_reads (start channel hooked source) count rfl
  have marks : task = _ := (run_append _ _).trans (run_marks left)
  rw [marks]
  refine ⟨Prod.ext notices ?_, rfl⟩
  exact congrArg Activity.markInactive activity

/-! ## Cuts -/

/-- Two tasks are in the same state but for the cuts of what they are still to read. -/
structure Alike (stop : Stop) (task other : ReadTask) : Prop where
  same : other = { task with source := other.source }
  carried : task.marking = none → ∃ bytes,
    task.source.Carries bytes stop ∧ other.source.Carries bytes stop

theorem alike_read {stop : Stop} {source : Source}
    (carried : task.marking = none → ∃ bytes,
      task.source.Carries bytes stop ∧ source.Carries bytes stop) :
    Alike stop task.read { task with source := source }.read := by
  obtain ⟨channel, activity, own, signalled, notices, marking, others⟩ := task
  cases marking with
  | some marking => exact ⟨rfl, nofun⟩
  | none =>
      obtain ⟨bytes, here, there⟩ := carried rfl
      obtain ⟨received, left, left', step, step', carried'⟩ :=
        Frame.read_congr channel.maxFrameLength here there
      unfold read
      simp only [step, step', Option.isSome_none, Bool.false_eq_true, if_false]
      cases received with
      | payload payload => exact ⟨rfl, fun _ => carried' payload rfl⟩
      | failed error => exact ⟨rfl, nofun⟩
      | finished => exact ⟨rfl, nofun⟩
      | waiting => exact ⟨rfl, fun _ => ⟨bytes, here, there⟩⟩

theorem Alike.step {stop : Stop} {other : ReadTask} (alike : Alike stop task other)
    (action : Action) : Alike stop (task.step action) (other.step action) := by
  obtain ⟨same, carried⟩ := alike
  generalize other.source = source at same carried
  subst same
  cases action with
  | read => exact alike_read carried
  | signal => exact ⟨rfl, carried⟩
  | call => exact ⟨rfl, carried⟩
  | leave =>
      simp only [ReadTask.step, leave]
      split
      · exact ⟨rfl, nofun⟩
      · exact ⟨rfl, carried⟩
  | mark =>
      simp only [ReadTask.step, mark]
      split
      · exact ⟨rfl, carried⟩
      · exact ⟨rfl, nofun⟩
  | proceed position =>
      simp only [ReadTask.step, proceed]
      split <;> exact ⟨rfl, carried⟩

theorem Alike.run {stop : Stop} {other : ReadTask} (alike : Alike stop task other)
    (actions : List Action) : Alike stop (task.run actions) (other.run actions) := by
  induction actions generalizing task other with
  | nil => exact alike
  | cons action actions induction => exact induction (alike.step action)

/-! ## Everything together -/

theorem signalled_run (actions : List Action) (silent : .signal ∉ actions) :
    (task.run actions).signalled = task.signalled := by
  induction actions generalizing task with
  | nil => rfl
  | cons action actions induction =>
      rw [List.mem_cons, not_or] at silent
      refine (induction silent.2).trans ?_
      have steps := steps_step task action
      generalize task.step action = next at steps
      cases steps with
      | signalled => exact (silent.1 rfl).elim
      | _ => rfl

end ReadTask

end RemoteMessaging
