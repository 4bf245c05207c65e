import RemoteMessaging.Proofs.Connection
import RemoteMessaging.Proofs.OrderedSteps

/-!
# What an ordered writer tells

The messages that the queue has accepted are told of in their order: first those
that were written, then perhaps one whose write has failed, then those that were
left in the queue.  The wire holds the frames of those that were written, and
perhaps a beginning of the next.  A message that never reaches the queue is told
of by its sender and changes nothing else.
-/

namespace RemoteMessaging

variable {μ : Type}

namespace OrderedWriter

/-! ## Receipts -/

def told (writer : OrderedWriter μ) (action : Action μ) : List (Receipt μ) :=
  writer.added (writer.step action)

/-- The step is one of the writer itself that may tell of a message; all others
that do are steps of senders. -/
def Action.tells : Action μ → Bool
  | .write _ | .reject => true
  | _ => false

/-- What the writer tells in a step of a message from its queue. -/
def outcome (writer : OrderedWriter μ) (action : Action μ) :
    List (Receipt μ) :=
  if action.tells then writer.told action else []

/-- What a sender tells in a step of a message that does not reach the queue. -/
def refusal (writer : OrderedWriter μ) (action : Action μ) :
    List (Receipt μ) :=
  if action.tells then [] else writer.told action

def withReceipts (writer : OrderedWriter μ) (receipts : List (Receipt μ)) :
    OrderedWriter μ :=
  { writer with outlet := { writer.outlet with receipts := receipts } }

@[simp] theorem withReceipts_self (writer : OrderedWriter μ) :
    writer.withReceipts writer.outlet.receipts = writer := rfl

@[simp] theorem receipts_withReceipts (writer : OrderedWriter μ)
    (receipts : List (Receipt μ)) :
    (writer.withReceipts receipts).outlet.receipts = receipts := rfl

@[simp] theorem phase_withReceipts (writer : OrderedWriter μ)
    (receipts : List (Receipt μ)) :
    (writer.withReceipts receipts).phase = writer.phase := rfl

theorem withReceipts_ite (condition : Prop) [Decidable condition]
    (first second : OrderedWriter μ) (receipts : List (Receipt μ)) :
    (if condition then first else second).withReceipts receipts =
      if condition then first.withReceipts receipts
      else second.withReceipts receipts := by
  split <;> rfl

/-- Receipts have no influence on a step. -/
theorem exists_step_withReceipts (writer : OrderedWriter μ)
    (action : Action μ) : ∃ added, ∀ receipts,
      (writer.withReceipts receipts).step action =
        (writer.step action).withReceipts (receipts ++ added) := by
  cases action with
  | offer message =>
      cases connected : writer.connected with
      | false => exact ⟨[], fun _ => by simp [step, withReceipts, connected]⟩
      | true =>
          cases offered : writer.sender.offer writer.outlet.activity.active
              message with
          | error error =>
              exact ⟨[.failed message error], fun _ => by
                simp [step, withReceipts, connected, OrderedWriter.offer,
                  offered, report, Outlet.report]⟩
          | ok outbound =>
              exact ⟨[], fun _ => by
                simp [step, withReceipts, connected, OrderedWriter.offer,
                  offered]⟩
  | enqueue position =>
      cases found : writer.offered[position]? with
      | none => exact ⟨[], fun _ => by simp [step, withReceipts, enqueue, found]⟩
      | some outbound =>
          cases isOpen : writer.isOpen with
          | true =>
              exact ⟨[], fun _ => by
                simp [step, withReceipts, enqueue, found, isOpen]⟩
          | false =>
              exact ⟨[.failed outbound.message .closed], fun _ => by
                simp [step, withReceipts, enqueue, found, isOpen, report,
                  Outlet.report]⟩
  | write answer =>
      cases phase : writer.phase with
      | writing writing =>
          cases written : writing.write answer with
          | more next =>
              exact ⟨[], fun _ => by
                simp [step, withReceipts, write, phase, written, Outlet.put]⟩
          | complete =>
              exact ⟨[.written writing.outbound.message], fun _ => by
                simp [step, withReceipts, write, phase, written, Outlet.put,
                  Outlet.report]⟩
          | broken error =>
              exact ⟨[.failed writing.outbound.message
                  (writer.sender.writeError error)], fun _ => by
                simp [step, withReceipts, write, phase, written, Outlet.put,
                  Outlet.fail, Outlet.report, Outlet.deactivate]⟩
      | _ => exact ⟨[], fun _ => by simp [step, withReceipts, write, phase]⟩
  | reject =>
      cases phase : writer.phase with
      | rejecting =>
          cases queue : writer.queue with
          | nil =>
              exact ⟨[], fun _ => by
                simp [step, withReceipts, reject, phase, queue]⟩
          | cons outbound queue' =>
              exact ⟨[.failed outbound.message .closed], fun _ => by
                simp [step, withReceipts, reject, phase, queue, report,
                  Outlet.report]⟩
      | _ => exact ⟨[], fun _ => by simp [step, withReceipts, reject, phase]⟩
  | take =>
      refine ⟨[], fun _ => ?_⟩
      simp only [step, withReceipts, take, List.append_nil]
      split <;> rfl
  | leave =>
      refine ⟨[], fun receipts => ?_⟩
      simp only [step, leave, phase_withReceipts, List.append_nil]
      split
      · rw [withReceipts_ite]
        rfl
      · rfl
  | finish =>
      refine ⟨[], fun receipts => ?_⟩
      simp only [step, finish, phase_withReceipts, List.append_nil]
      split
      · rw [withReceipts_ite]
        rfl
      · rfl
  | closeQueue =>
      refine ⟨[], fun _ => ?_⟩
      simp only [step, withReceipts, closeQueue, List.append_nil]
      split <;> rfl
  | drop =>
      refine ⟨[], fun receipts => ?_⟩
      simp only [step, drop, withReceipts_ite, List.append_nil]
      rfl
  | deactivate => exact ⟨[], fun _ => by simp [step, withReceipts,
      Outlet.deactivate]⟩
  | signal => exact ⟨[], fun _ => by simp [step, withReceipts]⟩
  | disconnect => exact ⟨[], fun _ => by simp [step, withReceipts]⟩
  | halt => exact ⟨[], fun _ => by simp [step, withReceipts]⟩

theorem step_withReceipts (writer : OrderedWriter μ)
    (receipts : List (Receipt μ)) (action : Action μ) :
    (writer.withReceipts receipts).step action =
      (writer.step action).withReceipts (receipts ++ writer.told action) := by
  obtain ⟨added, steps⟩ := writer.exists_step_withReceipts action
  have own := congrArg (·.outlet.receipts) (steps writer.outlet.receipts)
  simp only [withReceipts_self, receipts_withReceipts] at own
  rw [steps, told, OrderedWriter.added, own, List.drop_left]

theorem receipts_step (writer : OrderedWriter μ) (action : Action μ) :
    (writer.step action).outlet.receipts =
      writer.outlet.receipts ++ writer.told action :=
  congrArg (·.outlet.receipts)
    (writer.step_withReceipts writer.outlet.receipts action)

@[simp] theorem told_withReceipts (writer : OrderedWriter μ)
    (receipts : List (Receipt μ)) (action : Action μ) :
    (writer.withReceipts receipts).told action = writer.told action := by
  rw [told, added, step_withReceipts, receipts_withReceipts,
    receipts_withReceipts, List.drop_left]

theorem outcome_withReceipts (writer : OrderedWriter μ)
    (receipts : List (Receipt μ)) (action : Action μ) :
    (writer.withReceipts receipts).outcome action = writer.outcome action := by
  simp only [outcome, told_withReceipts]

theorem admitted_withReceipts (writer : OrderedWriter μ)
    (receipts : List (Receipt μ)) (action : Action μ) :
    (writer.withReceipts receipts).admitted action =
      writer.admitted action := by
  cases action <;> rfl

theorem outcome_append_refusal (writer : OrderedWriter μ)
    (action : Action μ) :
    writer.outcome action ++ writer.refusal action = writer.told action := by
  unfold outcome refusal
  split
  · exact List.append_nil _
  · exact List.nil_append _

theorem wire_run_withReceipts (writer : OrderedWriter μ)
    (receipts : List (Receipt μ)) (actions : List (Action μ)) :
    ((writer.withReceipts receipts).run actions).outlet.wire =
      (writer.run actions).outlet.wire := by
  induction actions generalizing writer receipts with
  | nil => rfl
  | cons action actions induction =>
      simp only [run, List.foldl_cons, step_withReceipts] at induction ⊢
      exact induction (writer.step action) _

theorem noted_withReceipts {β : Type}
    {note : OrderedWriter μ → Action μ → List β}
    (same : ∀ writer receipts action,
      note (withReceipts writer receipts) action = note writer action)
    (writer : OrderedWriter μ) (receipts : List (Receipt μ))
    (actions : List (Action μ)) :
    noted step note (writer.withReceipts receipts) actions =
      noted step note writer actions := by
  induction actions generalizing writer receipts with
  | nil => rfl
  | cons action actions induction =>
      simp only [noted, same, step_withReceipts, induction]

/-! ## The division of the accepted messages -/

/-- What has become of the messages that the queue has accepted. -/
structure Ledger (μ : Type) where
  done : List (Outbound μ)
  /-- The message whose write has failed. -/
  fault : Option (Outbound μ × Error)
  rejected : List (Outbound μ)
  /-- The messages that nothing was told of. -/
  rest : List (Outbound μ)
  /-- What is on the wire of a message that is not done. -/
  taken : List UInt8

namespace Ledger

def left (ledger : Ledger μ) : List (Outbound μ) :=
  ledger.fault.toList.map (·.1) ++ (ledger.rejected ++ ledger.rest)

def outcomes (ledger : Ledger μ) : List (Receipt μ) :=
  ledger.done.map (fun outbound => .written outbound.message) ++
    (ledger.fault.toList.map (fun fault => .failed fault.1.message fault.2) ++
      ledger.rejected.map (fun outbound => .failed outbound.message .closed))

/-- The ledger divides these messages; this was told of them, and this is on the
wire. -/
structure Keeps (ledger : Ledger μ) (accepted : List (Outbound μ))
    (outcomes : List (Receipt μ)) (wire : List UInt8) : Prop where
  split : accepted = ledger.done ++ ledger.left
  told : outcomes = ledger.outcomes
  protocol : ∀ outbound error, ledger.fault = some (outbound, error) →
    error.kind = .protocol
  wire : wire = Outbound.stream ledger.done ++ ledger.taken
  /-- The wire ends with a whole frame, or within that of the next message. -/
  cut : ledger.taken = [] ∨ ∃ next, ledger.left.head? = some next ∧
    ledger.taken <+: next.frame ∧ ledger.taken ≠ next.frame

/-- Where the messages are that nothing was told of. -/
def Fits (ledger : Ledger μ) (writer : OrderedWriter μ) : Prop :=
  match writer.phase with
  | .ready => ledger.fault = none ∧ ledger.rejected = [] ∧
      ledger.rest = writer.queue ∧ ledger.taken = []
  | .writing writing => ledger.fault = none ∧ ledger.rejected = [] ∧
      ledger.rest = writing.outbound :: writer.queue ∧
        ledger.taken ++ writing.rest = writing.outbound.frame ∧
          writing.rest ≠ []
  | .leaving => ledger.rejected = [] ∧ ledger.rest = writer.queue
  | .rejecting => ledger.rest = writer.queue
  | .ended | .dropped => True


/-! ### Entries -/

def accept (ledger : Ledger μ) (outbound : Outbound μ) : Ledger μ :=
  { ledger with rest := ledger.rest ++ [outbound] }

def put (ledger : Ledger μ) (bytes : List UInt8) : Ledger μ :=
  { ledger with taken := ledger.taken ++ bytes }

/-- The message in front of the queue is done. -/
def complete (ledger : Ledger μ) (outbound : Outbound μ)
    (queue : List (Outbound μ)) : Ledger μ :=
  { ledger with
    done := ledger.done ++ [outbound]
    rest := queue
    taken := [] }

/-- The write of the message in front of the queue has failed. -/
def fail (ledger : Ledger μ) (outbound : Outbound μ) (error : Error)
    (queue : List (Outbound μ)) : Ledger μ :=
  { ledger with fault := some (outbound, error), rest := queue }

/-- The first message that is left in the closed queue is told of. -/
def reject (ledger : Ledger μ) (outbound : Outbound μ)
    (queue : List (Outbound μ)) : Ledger μ :=
  { ledger with rejected := ledger.rejected ++ [outbound], rest := queue }

/-! ### Steps -/

variable {ledger : Ledger μ} {sender : Sender μ} {writer : OrderedWriter μ}
  {accepted : List (Outbound μ)} {outcomes : List (Receipt μ)}
  {wire : List UInt8}

theorem Keeps.accept (keeps : ledger.Keeps accepted outcomes wire)
    (outbound : Outbound μ) :
    (ledger.accept outbound).Keeps (accepted ++ [outbound]) outcomes wire := by
  have later : (ledger.accept outbound).left = ledger.left ++ [outbound] := by
    simp only [Ledger.accept, left, List.append_assoc]
  refine ⟨?_, keeps.told, keeps.protocol, keeps.wire, ?_⟩
  · rw [keeps.split, later, List.append_assoc]
    rfl
  · refine keeps.cut.imp_right ?_
    rintro ⟨next, head, part⟩
    refine ⟨next, ?_, part⟩
    rw [later, List.head?_append, head]
    rfl

theorem Fits.accept (fits : ledger.Fits writer) (outbound : Outbound μ)
    (offered : List (Outbound μ)) :
    (ledger.accept outbound).Fits { writer with
      offered := offered
      queue := writer.queue ++ [outbound] } := by
  unfold Fits at fits ⊢
  cases phase : writer.phase with
  | ready =>
      simp only [phase] at fits
      exact ⟨fits.1, fits.2.1, by rw [Ledger.accept, fits.2.2.1], fits.2.2.2⟩
  | writing writing =>
      simp only [phase] at fits
      exact ⟨fits.1, fits.2.1,
        by rw [Ledger.accept, fits.2.2.1, List.cons_append], fits.2.2.2⟩
  | leaving =>
      simp only [phase] at fits
      exact ⟨fits.1, by rw [Ledger.accept, fits.2]⟩
  | rejecting =>
      simp only [phase] at fits ⊢
      rw [Ledger.accept, fits]
  | ended => trivial
  | dropped => trivial

theorem Keeps.put {writing next : Writing μ} {answer : WriteAnswer}
    (keeps : ledger.Keeps accepted outcomes wire)
    (fits : ledger.Fits writer) (phase : writer.phase = .writing writing)
    (writes : writing.write answer = .more next) :
    (ledger.put (answer.bytes writing.rest)).Keeps accepted outcomes
      (wire ++ answer.bytes writing.rest) := by
  simp only [Fits, phase] at fits
  obtain ⟨fault, rejected, rest, whole, -⟩ := fits
  refine ⟨keeps.split, keeps.told, keeps.protocol, ?_, .inr ?_⟩
  · rw [keeps.wire, Ledger.put, List.append_assoc]
  · have parts : ledger.taken ++ answer.bytes writing.rest ++ next.rest =
        writing.outbound.frame := by
      rw [List.append_assoc, Writing.bytes_append_rest writes, whole]
    refine ⟨writing.outbound, ?_, ⟨next.rest, parts⟩, ?_⟩
    · simp [left, Ledger.put, fault, rejected, rest]
    · intro (all : ledger.taken ++ answer.bytes writing.rest =
        writing.outbound.frame)
      rw [all] at parts
      exact Writing.rest_ne_nil_of_more writes
        (List.append_right_eq_self.mp parts)

theorem Keeps.complete {writing : Writing μ} {answer : WriteAnswer}
    (keeps : ledger.Keeps accepted outcomes wire)
    (fits : ledger.Fits writer) (phase : writer.phase = .writing writing)
    (writes : writing.write answer = .complete) :
    (ledger.complete writing.outbound writer.queue).Keeps accepted
      (outcomes ++ [.written writing.outbound.message])
      (wire ++ answer.bytes writing.rest) := by
  simp only [Fits, phase] at fits
  obtain ⟨fault, rejected, rest, whole, -⟩ := fits
  refine ⟨?_, ?_, keeps.protocol, ?_, .inl rfl⟩
  · simp [keeps.split, Ledger.complete, left, fault, rejected, rest]
  · simp [keeps.told, Ledger.complete, Ledger.outcomes, fault, rejected]
  · rw [keeps.wire, Writing.bytes_of_complete writes, List.append_assoc, whole]
    simp [Ledger.complete]

theorem Keeps.fail {writing : Writing μ} {answer : WriteAnswer}
    {cause : IoError} (keeps : ledger.Keeps accepted outcomes wire)
    (fits : ledger.Fits writer) (phase : writer.phase = .writing writing)
    (breaks : writing.write answer = .broken cause) :
    (ledger.fail writing.outbound (writer.sender.writeError cause)
      writer.queue).Keeps accepted
        (outcomes ++ [.failed writing.outbound.message
          (writer.sender.writeError cause)])
        (wire ++ answer.bytes writing.rest) := by
  simp only [Fits, phase] at fits
  obtain ⟨fault, rejected, rest, -, -⟩ := fits
  have same : (ledger.fail writing.outbound
      (writer.sender.writeError cause) writer.queue).left = ledger.left := by
    simp [Ledger.fail, left, fault, rejected, rest]
  refine ⟨?_, ?_, ?_, ?_, ?_⟩
  · rw [same]
    exact keeps.split
  · simp [keeps.told, Ledger.fail, Ledger.outcomes, fault, rejected]
  · intro outbound error failed
    obtain ⟨rfl, rfl⟩ := Prod.mk.inj (Option.some.inj failed)
    rfl
  · rw [keeps.wire, Writing.bytes_of_broken breaks, List.append_nil]
    rfl
  · rw [same]
    exact keeps.cut

theorem Keeps.reject {outbound : Outbound μ} {queue : List (Outbound μ)}
    (keeps : ledger.Keeps accepted outcomes wire)
    (rest : ledger.rest = outbound :: queue) :
    (ledger.reject outbound queue).Keeps accepted
      (outcomes ++ [.failed outbound.message .closed]) wire := by
  have same : (ledger.reject outbound queue).left = ledger.left := by
    simp [Ledger.reject, left, rest]
  refine ⟨?_, ?_, keeps.protocol, keeps.wire, ?_⟩
  · rw [same]
    exact keeps.split
  · simp [keeps.told, Ledger.reject, Ledger.outcomes]
  · rw [same]
    exact keeps.cut

/-- Every step has its entry. -/
theorem Keeps.step {next : OrderedWriter μ} {action : Action μ}
    (keeps : ledger.Keeps accepted outcomes writer.outlet.wire)
    (fits : ledger.Fits writer) (sound : Sound sender accepted writer)
    (steps : Steps writer action next) :
    ∃ after : Ledger μ, after.Fits next ∧
      after.Keeps (accepted ++ writer.admitted action)
        (outcomes ++ if action.tells then writer.added next else [])
        next.outlet.wire := by
  cases steps with
  | still activity connected signalled halted nobody nothing none stops =>
      refine ⟨ledger, fits, ?_⟩
      simpa [nothing, added] using keeps
  | refused connected refuses =>
      refine ⟨ledger, fits, ?_⟩
      simpa [admitted, Action.tells, report, Outlet.report] using keeps
  | offered connected offers =>
      refine ⟨ledger, fits, ?_⟩
      simpa [admitted, Action.tells] using keeps
  | accepted found isOpen =>
      rename_i position outbound
      refine ⟨ledger.accept outbound, fits.accept outbound _, ?_⟩
      simpa [admitted, isOpen, found, Action.tells] using
        keeps.accept outbound
  | turnedAway found isShut =>
      refine ⟨ledger, fits, ?_⟩
      simpa [admitted, isShut, Action.tells, report, Outlet.report] using keeps
  | taken phase queued =>
      rename_i outbound queue
      simp only [Fits, phase] at fits
      obtain ⟨fault, rejected, rest, taken⟩ := fits
      refine ⟨ledger, ⟨fault, rejected, rest.trans queued, ?_, ?_⟩, ?_⟩
      · rw [taken]
        rfl
      · have member : outbound ∈ accepted := by
          simp [keeps.split, left, rest, queued]
        obtain ⟨payload, -, -, -, frame⟩ :=
          Sender.payload_of_prepare (sound.kept outbound member)
        show outbound.frame ≠ []
        rw [frame]
        exact Frame.frame_ne_nil payload
      · simpa [admitted, Action.tells] using keeps
  | wrote phase writes =>
      rename_i answer writing next
      have later := keeps.put fits phase writes
      simp only [Fits, phase] at fits
      obtain ⟨fault, rejected, rest, whole, -⟩ := fits
      refine ⟨ledger.put (answer.bytes writing.rest), ⟨fault, rejected, ?_, ?_,
        Writing.rest_ne_nil_of_more writes⟩, ?_⟩
      · rw [Writing.outbound_of_more writes]
        exact rest
      · rw [Writing.outbound_of_more writes, Ledger.put, List.append_assoc,
          Writing.bytes_append_rest writes]
        exact whole
      · simpa [admitted, added, Outlet.put] using later
  | completed phase writes =>
      rename_i answer writing
      have later := keeps.complete fits phase writes
      simp only [Fits, phase] at fits
      refine ⟨ledger.complete writing.outbound writer.queue,
        ⟨fits.1, fits.2.1, rfl, rfl⟩, ?_⟩
      simpa [admitted, added, Action.tells, Outlet.put, Outlet.report] using
        later
  | broken phase breaks =>
      rename_i answer writing cause
      have later := keeps.fail fits phase breaks
      simp only [Fits, phase] at fits
      refine ⟨ledger.fail writing.outbound (writer.sender.writeError cause)
        writer.queue, ⟨fits.2.1, rfl⟩, ?_⟩
      simpa [admitted, added, Action.tells, Outlet.put, Outlet.fail,
        Outlet.report, Outlet.deactivate] using later
  | left leaves phase =>
      simp only [Fits, phase] at fits
      refine ⟨ledger, ⟨fits.2.1, fits.2.2.1⟩, ?_⟩
      rcases leaves with rfl | rfl <;>
        simpa [admitted, Action.tells] using keeps
  | shut phase =>
      simp only [Fits, phase] at fits
      exact ⟨ledger, fits.2, by simpa [admitted, Action.tells] using keeps⟩
  | rejected phase queued =>
      rename_i outbound queue
      simp only [Fits, phase] at fits
      refine ⟨ledger.reject outbound queue, ?_, ?_⟩
      · simp [Fits, report, phase, Ledger.reject]
      · simpa [admitted, added, Action.tells, report, Outlet.report] using
          keeps.reject (fits.trans queued)
  | ended phase empty =>
      exact ⟨ledger, trivial, by simpa [admitted, added] using keeps⟩
  | dropped halted live =>
      exact ⟨ledger, trivial, by simpa [admitted, added] using keeps⟩

/-- Every run has its ledger. -/
theorem Keeps.run (keeps : ledger.Keeps accepted outcomes writer.outlet.wire)
    (fits : ledger.Fits writer) (sound : Sound sender accepted writer)
    (actions : List (Action μ)) :
    ∃ after : Ledger μ,
      after.Keeps (accepted ++ noted OrderedWriter.step admitted writer actions)
        (outcomes ++ noted OrderedWriter.step outcome writer actions)
        (writer.run actions).outlet.wire := by
  induction actions generalizing ledger writer accepted outcomes with
  | nil => exact ⟨ledger, by simpa [noted, OrderedWriter.run] using keeps⟩
  | cons action actions induction =>
      obtain ⟨after, fits, keeps⟩ :=
        keeps.step fits sound (steps_step writer action)
      obtain ⟨last, keeps⟩ := induction keeps fits (sound.step action)
      refine ⟨last, ?_⟩
      simpa only [noted, List.append_assoc, outcome, OrderedWriter.told,
        OrderedWriter.run, List.foldl_cons] using keeps

end Ledger

/-! ## Messages that do not reach the queue -/

/-- A message that is handed over is refused, accepted, or on its way to the
queue. -/
theorem Steps.perm_submitted {writer next : OrderedWriter μ}
    {action : Action μ} (steps : Steps writer action next) :
    (next.offered.map (·.message) ++
      ((if action.tells then [] else writer.added next).map Receipt.message ++
        (writer.admitted action).map (·.message))).Perm
      (writer.offered.map (·.message) ++ writer.submitted action) := by
  cases steps with
  | still activity connected signalled halted nobody nothing none stops =>
      simp [nobody, nothing, added]
  | refused connected refuses =>
      simp [admitted, submitted, connected, added, Action.tells, report,
        Outlet.report, Receipt.message]
  | offered connected offers =>
      simp [admitted, submitted, connected, added, Action.tells,
        Sender.message_of_offer offers]
  | accepted found isOpen =>
      rename_i position outbound
      have others := (perm_cons_eraseIdx found).map (·.message)
      simpa [admitted, submitted, isOpen, found, added, Action.tells] using
        List.perm_append_comm.trans others
  | turnedAway found isShut =>
      rename_i position outbound
      have others := (perm_cons_eraseIdx found).map (·.message)
      simpa [admitted, submitted, isShut, added, Action.tells, report,
        Outlet.report, Receipt.message] using
          List.perm_append_comm.trans others
  | left leaves phase =>
      rcases leaves with rfl | rfl <;>
        simp [admitted, submitted, added, Action.tells]
  | _ =>
      simp [admitted, submitted, added, Action.tells, report, Outlet.report]

theorem perm_submitted_run (writer : OrderedWriter μ)
    (actions : List (Action μ)) :
    ((writer.run actions).offered.map (·.message) ++
      ((noted step refusal writer actions).map Receipt.message ++
        (noted step admitted writer actions).map (·.message))).Perm
      (writer.offered.map (·.message) ++
        noted step submitted writer actions) := by
  have balance := perm_of_balance
    (fun writer => writer.offered.map (·.message))
    (fun writer action => (steps_step writer action).perm_submitted)
    writer actions
  have parts := perm_noted_append step
    (fun writer action => (refusal writer action).map Receipt.message)
    (fun writer action => (admitted writer action).map (·.message))
    writer actions
  rw [noted_map, noted_map] at parts
  exact (parts.symm.append_left _).trans balance

theorem Steps.sender {writer next : OrderedWriter μ} {action : Action μ}
    (steps : Steps writer action next) : next.sender = writer.sender := by
  cases steps <;> rfl

theorem sender_run (writer : OrderedWriter μ) (actions : List (Action μ)) :
    (writer.run actions).sender = writer.sender := by
  induction actions generalizing writer with
  | nil => rfl
  | cons action actions induction =>
      exact (induction (writer.step action)).trans
        (steps_step writer action).sender

theorem step_offer_of_error {writer : OrderedWriter μ} {message : μ}
    {error : Error}
    (refuses : writer.sender.offer writer.outlet.activity.active message =
      .error error) :
    ∃ receipts, writer.step (.offer message) = writer.withReceipts receipts := by
  rw [step]
  split
  · rw [offer, refuses]
    exact ⟨_, rfl⟩
  · exact ⟨_, writer.withReceipts_self.symm⟩

/-! ## After a failed write -/

def Phase.writes : Phase μ → Bool
  | .ready | .writing _ => true
  | _ => false

theorem Steps.wire_of_writes_eq_false {writer next : OrderedWriter μ}
    {action : Action μ} (steps : Steps writer action next)
    (finished : writer.phase.writes = false) :
    next.phase.writes = false ∧ next.outlet.wire = writer.outlet.wire := by
  cases steps <;> simp_all [Phase.writes, report, Outlet.report]

theorem wire_run_of_writes_eq_false (writer : OrderedWriter μ)
    (actions : List (Action μ)) (finished : writer.phase.writes = false) :
    (writer.run actions).outlet.wire = writer.outlet.wire := by
  induction actions generalizing writer with
  | nil => rfl
  | cons action actions induction =>
      obtain ⟨later, same⟩ :=
        (steps_step writer action).wire_of_writes_eq_false finished
      exact (induction _ later).trans same

theorem step_write_of_error {writer : OrderedWriter μ} {writing : Writing μ}
    {answer : WriteAnswer} {cause : IoError}
    (phase : writer.phase = .writing writing)
    (failed : answer.error? = some cause) :
    (writer.step (.write answer)).phase.writes = false ∧
      (writer.step (.write answer)).outlet.wire = writer.outlet.wire := by
  have breaks : writing.write answer = .broken cause := by
    rw [Writing.write, failed]
  simp [step, write, phase, breaks, Phase.writes, Outlet.fail, Outlet.put,
    Outlet.report, Outlet.deactivate, Writing.bytes_of_broken breaks]

/-! ## Runs -/

/-- Take any run of an ordered writer.  The messages that the queue has accepted
divide in their order into those that are written, at most one whose write has
failed, those that were left in the closed queue, and those that nothing is told
of; this was told of them in the same order, and the wire holds the frames of the
first and at most a proper beginning of the next frame.  The listener has heard
this and nothing else but of messages that were refused before the queue: every
message that was handed over is refused, accepted, or on its way.  After a failed
write nothing is written.  A message that its sender refuses changes nothing for
the others. -/
theorem run_in_order (sender : Sender μ) (hooked : Bool)
    (actions : List (Action μ)) :
    let first := start sender hooked
    let writer := first.run actions
    let accepted := noted step admitted first actions
    let outcomes := noted step outcome first actions
    let refusals := noted step refusal first actions
    (∃ ledger : Ledger μ, ledger.Keeps accepted outcomes writer.outlet.wire) ∧
    outcomes.Sublist writer.outlet.receipts ∧
    writer.outlet.receipts.Perm (outcomes ++ refusals) ∧
    (writer.offered.map (·.message) ++
      (refusals.map Receipt.message ++ accepted.map (·.message))).Perm
        (noted step submitted first actions) ∧
    (∀ before answer after writing cause,
      actions = before ++ .write answer :: after →
        (first.run before).phase = .writing writing →
          answer.error? = some cause →
            writer.outlet.wire = (first.run before).outlet.wire) ∧
    (∀ before message after error,
      actions = before ++ .offer message :: after →
        sender.offer (first.run before).outlet.activity.active message =
          .error error →
            accepted = noted step admitted first (before ++ after) ∧
            outcomes = noted step outcome first (before ++ after) ∧
            writer.outlet.wire =
              (first.run (before ++ after)).outlet.wire) := by
  intro first writer accepted outcomes refusals
  have receipts : writer.outlet.receipts = noted step told first actions :=
    noted_of_log (fun writer => writer.outlet.receipts) receipts_step first
      actions
  refine ⟨?_, ?_, ?_, ?_, ?_, ?_⟩
  · have keeps : Ledger.Keeps (⟨[], none, [], [], []⟩ : Ledger μ) [] []
        first.outlet.wire :=
      ⟨rfl, rfl, by simp, rfl, .inl rfl⟩
    exact keeps.run ⟨rfl, rfl, rfl, rfl⟩ (sound_start sender hooked) actions
  · rw [receipts]
    refine noted_sublist (fun writer action => ?_) first actions
    rw [← outcome_append_refusal]
    exact List.sublist_append_left _ _
  · rw [receipts]
    have parts := perm_noted_append step outcome refusal first actions
    simpa only [outcome_append_refusal] using parts
  · exact perm_submitted_run first actions
  · intro before answer after writing cause parts phase failed
    obtain ⟨finished, same⟩ := step_write_of_error phase failed
    have rest := wire_run_of_writes_eq_false _ after finished
    simp only [writer, parts, run, List.foldl_append, List.foldl_cons] at rest ⊢
    exact rest.trans same
  · intro before message after error parts refuses
    have same : (first.run before).sender = sender := sender_run first before
    rw [← same] at refuses
    obtain ⟨receipts, refused⟩ := step_offer_of_error refuses
    simp only [run] at refused
    refine ⟨?_, ?_, ?_⟩
    · simp only [accepted, parts, noted_append, noted, refused,
        noted_withReceipts admitted_withReceipts]
      rfl
    · simp only [outcomes, parts, noted_append, noted, refused,
        noted_withReceipts outcome_withReceipts]
      rfl
    · simp only [writer, parts, run, List.foldl_append, List.foldl_cons,
        refused]
      exact wire_run_withReceipts _ receipts after

/-- Three accepted messages: the first is written, the second breaks off, and the
third is left in the queue.  A fourth is refused in between. -/
theorem run_in_order_of_three :
    let sender : Sender (List UInt8) := ⟨.ok, 8, ⟨.v4 .localhost, 9000⟩⟩
    let cause := IoError.ofKind .brokenPipe
    let begun : List (Action (List UInt8)) :=
      [.offer [1], .offer [2], .offer [3], .enqueue 0, .enqueue 0, .enqueue 0,
        .take, .write (.taken 9), .take, .write (.taken 3)]
    let broken := begun ++ [.write (.failed cause)]
    let rest : List (Action (List UInt8)) := [.closeQueue, .reject, .reject]
    let actions := broken ++ .offer [4] :: rest
    ((start sender false).run begun).phase =
      .writing ⟨⟨[2], [0, 0, 0, 1, 2]⟩, [1, 2]⟩ ∧
    (WriteAnswer.failed cause).error? = some cause ∧
    sender.offer ((start sender false).run broken).outlet.activity.active [4] =
      .error .closed ∧
    ((start sender false).run actions).outlet.wire =
      ((start sender false).run begun).outlet.wire ∧
    ((start sender false).run actions).outlet.wire =
      [0, 0, 0, 1, 1, 0, 0, 0] ∧
    ((start sender false).run actions).outlet.receipts.map Receipt.message =
      [[1], [2], [4], [3]] ∧
    noted step admitted (start sender false) actions =
      noted step admitted (start sender false) (broken ++ rest) := by
  intro sender cause begun broken rest actions
  have phase : ((start sender false).run begun).phase =
      .writing ⟨⟨[2], [0, 0, 0, 1, 2]⟩, [1, 2]⟩ := by
    decide +kernel
  have refuses : sender.offer
      ((start sender false).run broken).outlet.activity.active [4] =
        .error .closed := by
    have inactive : ((start sender false).run
        broken).outlet.activity.active = false := by
      decide +kernel
    rw [inactive]
    rfl
  obtain ⟨-, -, -, -, still, unmoved⟩ := run_in_order sender false actions
  have same := still begun (.failed cause) (.offer [4] :: rest) _ cause
    (List.append_assoc begun [.write (.failed cause)] (.offer [4] :: rest))
    phase rfl
  obtain ⟨accepted, -, -⟩ := unmoved broken [4] rest .closed rfl refuses
  refine ⟨phase, rfl, refuses, same, ?_, ?_, accepted⟩
  · rw [same]
    decide +kernel
  · decide +kernel

end OrderedWriter

end RemoteMessaging
