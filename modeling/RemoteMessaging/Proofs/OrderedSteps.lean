import RemoteMessaging.Proofs.Notes
import RemoteMessaging.Proofs.OrderedWriter

/-!
# What a step of an ordered writer does

A step may hand over a message, put one into the queue, tell of one, lose some, or
concern none.  `OrderedWriter.Steps` lists what the writer may be after a step, so
that the accounts of a run need not look into the steps again.
-/

namespace RemoteMessaging

variable {μ : Type}

def Receipt.message : Receipt μ → μ
  | .written message | .failed message _ => message

theorem Writing.rest_ne_nil_of_more {writing next : Writing μ}
    {answer : WriteAnswer} (step : writing.write answer = .more next) :
    next.rest ≠ [] := by
  unfold write at step
  split at step
  · simp at step
  · split at step
    · simp at step
    · rename_i some
      obtain rfl := Outcome.more.inj step
      exact some

theorem Sender.message_of_offer {sender : Sender μ} {active : Bool}
    {message : μ} {outbound : Outbound μ}
    (offered : sender.offer active message = .ok outbound) :
    outbound.message = message :=
  message_of_prepare (prepare_of_offer offered)

namespace OrderedWriter

def Phase.isLive : Phase μ → Bool
  | .ended | .dropped => false
  | _ => true

/-- The messages that the writer has accepted and not told of: the one that it is
writing, and those in the queue. -/
def inHand (writer : OrderedWriter μ) : List (Outbound μ) :=
  match writer.phase with
  | .writing writing => writing.outbound :: writer.queue
  | _ => writer.queue

def submitted (writer : OrderedWriter μ) : Action μ → List μ
  | .offer message => if writer.connected then [message] else []
  | _ => []

/-- The messages that a step loses: those that the writer has in hand when its
threads drop it. -/
def lost (writer : OrderedWriter μ) : Action μ → List μ
  | .drop =>
      if writer.halted && writer.phase.isLive then
        writer.inHand.map (·.message)
      else []
  | _ => []

def added (writer next : OrderedWriter μ) : List (Receipt μ) :=
  next.outlet.receipts.drop writer.outlet.receipts.length

/-- What a writer may be after a step. -/
inductive Steps (writer : OrderedWriter μ) :
    Action μ → OrderedWriter μ → Prop where
  | still {action : Action μ} (activity : Activity)
      (connected signalled halted : Bool)
      (nobody : writer.submitted action = [])
      (nothing : writer.admitted action = [])
      (none : writer.lost action = [])
      (stops : halted = writer.halted ∨ action = .halt) :
      Steps writer action { writer with
        outlet := { writer.outlet with activity := activity }
        connected := connected
        signalled := signalled
        halted := halted }
  | refused {message : μ} {error : Error}
      (connected : writer.connected = true)
      (refuses : writer.sender.offer writer.outlet.activity.active message =
        .error error) :
      Steps writer (.offer message) (writer.report (.failed message error))
  | offered {message : μ} {outbound : Outbound μ}
      (connected : writer.connected = true)
      (offers : writer.sender.offer writer.outlet.activity.active message =
        .ok outbound) :
      Steps writer (.offer message)
        { writer with offered := writer.offered ++ [outbound] }
  | accepted {position : Nat} {outbound : Outbound μ}
      (found : writer.offered[position]? = some outbound)
      (isOpen : writer.isOpen = true) :
      Steps writer (.enqueue position) { writer with
        offered := writer.offered.eraseIdx position
        queue := writer.queue ++ [outbound] }
  | turnedAway {position : Nat} {outbound : Outbound μ}
      (found : writer.offered[position]? = some outbound)
      (isShut : writer.isOpen = false) :
      Steps writer (.enqueue position)
        ({ writer with offered := writer.offered.eraseIdx position }.report
          (.failed outbound.message .closed))
  | taken {outbound : Outbound μ} {queue : List (Outbound μ)}
      (phase : writer.phase = .ready)
      (queued : writer.queue = outbound :: queue) :
      Steps writer .take
        { writer with queue := queue, phase := .writing outbound.begin }
  | wrote {answer : WriteAnswer} {writing next : Writing μ}
      (phase : writer.phase = .writing writing)
      (writes : writing.write answer = .more next) :
      Steps writer (.write answer) { writer with
        outlet := writer.outlet.put (answer.bytes writing.rest)
        phase := .writing next }
  | completed {answer : WriteAnswer} {writing : Writing μ}
      (phase : writer.phase = .writing writing)
      (writes : writing.write answer = .complete) :
      Steps writer (.write answer) { writer with
        outlet := (writer.outlet.put (answer.bytes writing.rest)).report
          (.written writing.outbound.message)
        phase := .ready }
  | broken {answer : WriteAnswer} {writing : Writing μ} {error : IoError}
      (phase : writer.phase = .writing writing)
      (breaks : writing.write answer = .broken error) :
      Steps writer (.write answer) { writer with
        outlet := (writer.outlet.put (answer.bytes writing.rest)).fail
          writing.outbound.message (writer.sender.writeError error)
        phase := .leaving }
  | left {action : Action μ} (leaves : action = .leave ∨ action = .finish)
      (phase : writer.phase = .ready) :
      Steps writer action { writer with phase := .leaving }
  | shut (phase : writer.phase = .leaving) :
      Steps writer .closeQueue
        { writer with isOpen := false, phase := .rejecting }
  | rejected {outbound : Outbound μ} {queue : List (Outbound μ)}
      (phase : writer.phase = .rejecting)
      (queued : writer.queue = outbound :: queue) :
      Steps writer .reject
        ({ writer with queue := queue }.report
          (.failed outbound.message .closed))
  | ended (phase : writer.phase = .rejecting) (empty : writer.queue = []) :
      Steps writer .reject { writer with phase := .ended }
  | dropped (halted : writer.halted = true)
      (live : writer.phase.isLive = true) :
      Steps writer .drop
        { writer with queue := [], isOpen := false, phase := .dropped }

theorem Steps.idle {writer : OrderedWriter μ} {action : Action μ}
    (nobody : writer.submitted action = [])
    (nothing : writer.admitted action = [])
    (none : writer.lost action = []) : Steps writer action writer :=
  .still writer.outlet.activity writer.connected writer.signalled
    writer.halted nobody nothing none (.inl rfl)

theorem steps_step (writer : OrderedWriter μ) (action : Action μ) :
    Steps writer action (writer.step action) := by
  cases action with
  | offer message =>
      rw [step]
      split
      · rename_i connected
        rw [offer]
        split
        · rename_i error refuses
          exact .refused connected refuses
        · rename_i outbound offers
          exact .offered connected offers
      · rename_i alone
        exact .idle (by simp [submitted, alone]) rfl rfl
  | enqueue position =>
      rw [step, enqueue]
      split
      · rename_i missing
        exact .idle rfl (by simp [admitted, missing]) rfl
      · rename_i outbound found
        simp only
        split
        · rename_i isOpen
          exact .accepted found isOpen
        · rename_i isShut
          exact .turnedAway found (by simpa using isShut)
  | take =>
      rw [step, take]
      split
      · rename_i phase queued
        exact .taken phase queued
      · exact .idle rfl rfl rfl
  | write answer =>
      rw [step, write]
      split
      · rename_i writing phase
        simp only
        split
        · rename_i next writes
          exact .wrote phase writes
        · rename_i writes
          exact .completed phase writes
        · rename_i error breaks
          exact .broken phase breaks
      · exact .idle rfl rfl rfl
  | leave =>
      rw [step, leave]
      split
      · rename_i phase
        split
        · exact .left (.inl rfl) phase
        · exact .idle rfl rfl rfl
      · exact .idle rfl rfl rfl
  | finish =>
      rw [step, finish]
      split
      · rename_i phase
        split
        · exact .left (.inr rfl) phase
        · exact .idle rfl rfl rfl
      · exact .idle rfl rfl rfl
  | closeQueue =>
      rw [step, closeQueue]
      split
      · rename_i phase
        exact .shut phase
      · exact .idle rfl rfl rfl
  | reject =>
      rw [step, reject]
      split
      · rename_i phase queued
        exact .rejected phase queued
      · rename_i phase empty
        exact .ended phase empty
      · exact .idle rfl rfl rfl
  | drop =>
      by_cases drops : writer.halted = true ∧ writer.phase.isLive = true
      · have reaches : writer.step .drop =
            { writer with queue := [], isOpen := false, phase := .dropped } := by
          obtain ⟨halted, live⟩ := drops
          cases phase : writer.phase <;>
            simp_all [step, OrderedWriter.drop, Phase.isLive]
        rw [reaches]
        exact .dropped drops.1 drops.2
      · have stays : writer.step .drop = writer := by
          cases phase : writer.phase <;>
            simp_all [step, OrderedWriter.drop, Phase.isLive]
        rw [stays]
        refine .idle rfl rfl ?_
        rw [lost, if_neg]
        rwa [Bool.and_eq_true]
  | deactivate =>
      exact .still _ writer.connected writer.signalled writer.halted rfl rfl rfl
        (.inl rfl)
  | signal =>
      exact .still writer.outlet.activity writer.connected true writer.halted
        rfl rfl rfl (.inl rfl)
  | disconnect =>
      exact .still writer.outlet.activity false writer.signalled writer.halted
        rfl rfl rfl (.inl rfl)
  | halt =>
      exact .still writer.outlet.activity writer.connected writer.signalled true
        rfl rfl rfl (.inr rfl)

end OrderedWriter

end RemoteMessaging
