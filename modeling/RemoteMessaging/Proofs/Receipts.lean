import RemoteMessaging.Proofs.UnorderedSteps

/-!
# What becomes of the messages

A message that somebody hands over to a link is told of once, is still on its way,
or was lost.  Threads that are told to stop lose the messages that they have in
hand, and nothing else does: as long as they run every message is told of in the
end.
-/

namespace RemoteMessaging

variable {μ : Type}

namespace OrderedWriter

def pending (writer : OrderedWriter μ) : List μ :=
  (writer.offered ++ writer.inHand).map (·.message)

/-- Nobody takes another step with a message. -/
def Quiet (writer : OrderedWriter μ) : Prop :=
  writer.offered = [] ∧ writer.phase.isLive = false

/-- A writer that has ended or was dropped leaves nothing behind, and its queue
takes no more messages. -/
structure Shut (writer : OrderedWriter μ) : Prop where
  rejecting : writer.phase = .rejecting → writer.isOpen = false
  finished : writer.phase.isLive = false →
    writer.isOpen = false ∧ writer.queue = []

theorem inHand_accept (writer : OrderedWriter μ) (outbound : Outbound μ)
    (offered : List (Outbound μ)) :
    inHand { writer with
      offered := offered
      queue := writer.queue ++ [outbound] } = writer.inHand ++ [outbound] := by
  unfold inHand
  cases phase : writer.phase <;> rfl

namespace Steps

variable {writer next : OrderedWriter μ} {action : Action μ}

theorem staysShut (steps : Steps writer action next) (shut : writer.Shut) :
    next.Shut := by
  obtain ⟨rejecting, finished⟩ := shut
  cases steps with
  | still activity connected signalled halted nobody nothing none stops =>
      exact ⟨rejecting, finished⟩
  | accepted found isOpen =>
      constructor
      · intro phase
        simp [rejecting phase] at isOpen
      · intro phase
        simp [(finished phase).1] at isOpen
  | rejected phase queued =>
      constructor <;> simp_all [report, Phase.isLive]
  | _ => constructor <;> simp_all [report, Phase.isLive]

/-- A step loses a message, tells of it, or keeps it on its way. -/
theorem perm_messages (steps : Steps writer action next) :
    (next.outlet.receipts.map Receipt.message ++ next.pending ++
      writer.lost action).Perm
        (writer.outlet.receipts.map Receipt.message ++ writer.pending ++
          writer.submitted action) := by
  classical
  rw [List.perm_iff_count]
  intro item
  cases steps with
  | still activity connected signalled halted nobody nothing none stops =>
      simp [pending, inHand, nobody, none]
  | refused connected refuses =>
      simp [pending, inHand, submitted, connected, lost, report, Outlet.report,
        Receipt.message, List.count_cons]
      omega
  | offered connected offers =>
      simp [pending, inHand, submitted, connected, lost,
        Sender.message_of_offer offers, List.count_cons]
  | accepted found isOpen =>
      rename_i position outbound
      have others := ((perm_cons_eraseIdx found).map (·.message)).count_eq item
      simp [pending, inHand_accept, submitted, lost, List.count_cons] at others ⊢
      omega
  | turnedAway found isShut =>
      rename_i position outbound
      have others := ((perm_cons_eraseIdx found).map (·.message)).count_eq item
      simp [pending, inHand, submitted, lost, report, Outlet.report,
        Receipt.message, List.count_cons] at others ⊢
      omega
  | taken phase queued =>
      simp [pending, inHand, submitted, lost, phase, queued, Outbound.begin]
  | wrote phase writes =>
      simp [pending, inHand, submitted, lost, phase, Outlet.put,
        Writing.outbound_of_more writes]
  | completed phase writes =>
      simp [pending, inHand, submitted, lost, phase, Outlet.put, Outlet.report,
        Receipt.message, List.count_cons]
      omega
  | broken phase breaks =>
      simp [pending, inHand, submitted, lost, phase, Outlet.put, Outlet.fail,
        Outlet.report, Outlet.deactivate, Receipt.message, List.count_cons]
      omega
  | left leaves phase =>
      rcases leaves with rfl | rfl <;>
        simp [pending, inHand, submitted, lost, phase]
  | shut phase => simp [pending, inHand, submitted, lost, phase]
  | rejected phase queued =>
      simp [pending, inHand, submitted, lost, phase, queued, report,
        Outlet.report, Receipt.message, List.count_cons]
      omega
  | ended phase empty => simp [pending, inHand, submitted, lost, phase]
  | dropped halted live =>
      simp [pending, submitted, lost, halted, live]
      simp [inHand]

theorem halted_eq_false (steps : Steps writer action next)
    (running : writer.halted = false) (other : action ≠ .halt) :
    next.halted = false := by
  cases steps with
  | still activity connected signalled halted nobody nothing none stops =>
      rcases stops with same | halts
      · exact same.trans running
      · exact absurd halts other
  | _ => exact running

end Steps

theorem shut_run {writer : OrderedWriter μ} (shut : writer.Shut)
    (actions : List (Action μ)) : (writer.run actions).Shut := by
  induction actions generalizing writer with
  | nil => exact shut
  | cons action actions induction =>
      exact induction ((steps_step writer action).staysShut shut)

theorem shut_start (sender : Sender μ) (hooked : Bool) :
    (start sender hooked).Shut := by
  constructor <;> simp [start, Phase.isLive]

theorem pending_of_quiet {writer : OrderedWriter μ} (shut : writer.Shut)
    (quiet : writer.Quiet) : writer.pending = [] := by
  obtain ⟨none, finished⟩ := quiet
  have empty : writer.inHand = [] := by
    unfold inHand
    split
    · rename_i phase
      simp [phase, Phase.isLive] at finished
    · exact (shut.finished finished).2
  rw [pending, none, empty]
  rfl

theorem perm_messages_run (writer : OrderedWriter μ)
    (actions : List (Action μ)) :
    ((writer.run actions).outlet.receipts.map Receipt.message ++
      (writer.run actions).pending ++ noted step lost writer actions).Perm
        (writer.outlet.receipts.map Receipt.message ++ writer.pending ++
          noted step submitted writer actions) :=
  perm_of_balance
    (fun writer => writer.outlet.receipts.map Receipt.message ++ writer.pending)
    (fun writer action => (steps_step writer action).perm_messages)
    writer actions

theorem lost_eq_nil (writer : OrderedWriter μ) (actions : List (Action μ))
    (running : writer.halted = false) (never : .halt ∉ actions) :
    noted step lost writer actions = [] := by
  refine noted_eq_nil (fun writer => writer.halted = false)
    (fun action => action ≠ .halt) ?_ ?_ writer actions running ?_
  · intro writer action running
    cases action <;> simp [lost, running]
  · intro writer action running other
    exact (steps_step writer action).halted_eq_false running other
  · rintro action member rfl
    exact never member

end OrderedWriter

namespace UnorderedWriter

def pending (writer : UnorderedWriter μ) : List μ :=
  writer.ahead ++ writer.untold.map Receipt.message

/-- Nobody takes another step with a message. -/
def Quiet (writer : UnorderedWriter μ) : Prop :=
  writer.offered = [] ∧ writer.waiting = [] ∧ writer.current = none ∧
    writer.errands = []

theorem Steps.perm_messages {writer next : UnorderedWriter μ} {action : Action μ}
    (steps : Steps writer action next) :
    (next.outlet.receipts.map Receipt.message ++ next.pending ++
      writer.lost action).Perm
        (writer.outlet.receipts.map Receipt.message ++ writer.pending ++
          writer.submitted action) := by
  classical
  have handed := perm_submitted writer action
  have ahead := steps.perm_ahead
  have untold := steps.perm_untold.map Receipt.message
  rw [List.perm_iff_count] at handed ahead untold ⊢
  intro item
  have handed := handed item
  have ahead := ahead item
  have untold := untold item
  simp only [pending, steps.receipts, List.map_append, List.count_append]
    at handed ahead untold ⊢
  omega

theorem perm_messages_run (writer : UnorderedWriter μ)
    (actions : List (Action μ)) :
    ((writer.run actions).outlet.receipts.map Receipt.message ++
      (writer.run actions).pending ++ noted step lost writer actions).Perm
        (writer.outlet.receipts.map Receipt.message ++ writer.pending ++
          noted step submitted writer actions) :=
  perm_of_balance
    (fun writer => writer.outlet.receipts.map Receipt.message ++ writer.pending)
    (fun writer action => (steps_step writer action).perm_messages)
    writer actions

theorem lost_eq_nil (writer : UnorderedWriter μ) (actions : List (Action μ))
    (running : writer.halted = false) (never : .halt ∉ actions) :
    noted step lost writer actions = [] := by
  refine noted_eq_nil (fun writer => writer.halted = false)
    (fun action => action ≠ .halt) ?_ ?_ writer actions running ?_
  · intro writer action running
    simp [lost, running]
  · intro writer action running other
    exact ((steps_step writer action).halted_eq other).trans running
  · rintro action member rfl
    exact never member

theorem pending_of_quiet {writer : UnorderedWriter μ} (quiet : writer.Quiet) :
    writer.pending = [] := by
  obtain ⟨offered, waiting, current, errands⟩ := quiet
  simp [pending, ahead, untold, offered, waiting, current, errands]

end UnorderedWriter

/-- If nothing is on its way, all is told of if and only if nothing is lost. -/
theorem perm_submitted_iff {told pending lost submitted : List μ}
    (all : (told ++ pending ++ lost).Perm submitted) (settled : pending = []) :
    told.Perm submitted ↔ lost = [] := by
  subst settled
  rw [List.append_nil] at all
  constructor
  · intro each
    have lengths := (all.trans each.symm).length_eq
    rw [List.length_append] at lengths
    exact List.length_eq_zero_iff.mp (by omega)
  · rintro rfl
    rwa [List.append_nil] at all

/-- Take any run of a link, ordered or not.  Every message that was handed over is
told of once, is on its way, or was lost, and no other message is told of.  When
the link is quiet, every message is told of exactly once if and only if none was
lost.  None is lost as long as the threads are not told to stop. -/
theorem tells_once_unless_lost (sender : Sender μ) (hooked : Bool) :
    (∀ actions : List (OrderedWriter.Action μ),
      let first := OrderedWriter.start sender hooked
      let writer := first.run actions
      let told := writer.outlet.receipts.map Receipt.message
      let lost := noted OrderedWriter.step OrderedWriter.lost first actions
      let submitted :=
        noted OrderedWriter.step OrderedWriter.submitted first actions
      (told ++ writer.pending ++ lost).Perm submitted ∧
      (writer.Quiet → (told.Perm submitted ↔ lost = [])) ∧
      (.halt ∉ actions → lost = [])) ∧
    (∀ actions : List (UnorderedWriter.Action μ),
      let first := UnorderedWriter.new sender hooked
      let writer := first.run actions
      let told := writer.outlet.receipts.map Receipt.message
      let lost := noted UnorderedWriter.step UnorderedWriter.lost first actions
      let submitted :=
        noted UnorderedWriter.step UnorderedWriter.submitted first actions
      (told ++ writer.pending ++ lost).Perm submitted ∧
      (writer.Quiet → (told.Perm submitted ↔ lost = [])) ∧
      (.halt ∉ actions → lost = [])) := by
  constructor
  · intro actions first writer told lost submitted
    have all : (told ++ writer.pending ++ lost).Perm submitted :=
      first.perm_messages_run actions
    have shut : writer.Shut :=
      OrderedWriter.shut_run (OrderedWriter.shut_start sender hooked) actions
    exact ⟨all,
      fun quiet => perm_submitted_iff all
        (OrderedWriter.pending_of_quiet shut quiet),
      OrderedWriter.lost_eq_nil first actions rfl⟩
  · intro actions first writer told lost submitted
    have all : (told ++ writer.pending ++ lost).Perm submitted :=
      first.perm_messages_run actions
    exact ⟨all,
      fun quiet => perm_submitted_iff all
        (UnorderedWriter.pending_of_quiet quiet),
      UnorderedWriter.lost_eq_nil first actions rfl⟩

/-- One message is written, and one is left in the queue or refused. -/
theorem tells_once_unless_lost_of_two :
    let sender : Sender (List UInt8) := ⟨.ok, 8, ⟨.v4 .localhost, 9000⟩⟩
    let ordered : List (OrderedWriter.Action (List UInt8)) :=
      [.offer [1], .offer [2], .enqueue 0, .take, .enqueue 0,
        .write (.taken 9), .signal, .leave, .closeQueue, .reject, .reject]
    let unordered : List (UnorderedWriter.Action (List UInt8)) :=
      [.offer [1], .start 0, .acquire 0, .write (.taken 9), .release, .deactivate,
        .offer [2], .tell 0]
    .halt ∉ ordered ∧
    ((OrderedWriter.start sender false).run ordered).Quiet ∧
    (((OrderedWriter.start sender false).run ordered).outlet.receipts.map
      Receipt.message).Perm [[1], [2]] ∧
    .halt ∉ unordered ∧
    ((UnorderedWriter.new sender false).run unordered).Quiet ∧
    (((UnorderedWriter.new sender false).run unordered).outlet.receipts.map
      Receipt.message).Perm [[1], [2]] := by
  intro sender ordered unordered
  have inOrder := (tells_once_unless_lost sender false).1 ordered
  have running : .halt ∉ ordered := by decide
  have quiet : ((OrderedWriter.start sender false).run ordered).Quiet := by
    constructor <;> decide +kernel
  have freely := (tells_once_unless_lost sender false).2 unordered
  have running' : .halt ∉ unordered := by decide
  have quiet' : ((UnorderedWriter.new sender false).run unordered).Quiet := by
    refine ⟨?_, ?_, ?_, ?_⟩ <;> decide +kernel
  exact ⟨running, quiet, (inOrder.2.1 quiet).mpr (inOrder.2.2 running),
    running', quiet', (freely.2.1 quiet').mpr (freely.2.2 running')⟩

/-- Nothing is told of a message whose writing has stalled when the threads stop,
nor of one whose task starts only afterwards. -/
theorem untold_of_halted :
    let sender : Sender (List UInt8) := ⟨.ok, 8, ⟨.v4 .localhost, 9000⟩⟩
    let ordered : List (OrderedWriter.Action (List UInt8)) :=
      [.offer [1], .enqueue 0, .take, .write (.taken 3), .signal, .deactivate,
        .halt, .drop]
    let unordered : List (UnorderedWriter.Action (List UInt8)) :=
      [.offer [1], .deactivate, .halt, .start 0]
    ((OrderedWriter.start sender false).run ordered).Quiet ∧
    noted OrderedWriter.step OrderedWriter.submitted
      (OrderedWriter.start sender false) ordered = [[1]] ∧
    ((OrderedWriter.start sender false).run ordered).outlet.receipts = [] ∧
    ((UnorderedWriter.new sender false).run unordered).Quiet ∧
    noted UnorderedWriter.step UnorderedWriter.submitted
      (UnorderedWriter.new sender false) unordered = [[1]] ∧
    ((UnorderedWriter.new sender false).run unordered).outlet.receipts =
      [] := by
  intro sender ordered unordered
  refine ⟨⟨?_, ?_⟩, ?_, ?_, ⟨?_, ?_, ?_, ?_⟩, ?_, ?_⟩ <;> decide +kernel

end RemoteMessaging
