import RemoteMessaging.Link.Outbound

/-!
# Writing in order

On an ordered link all messages pass through one queue, and a single writer takes
them out and writes one frame after the other.  The writer ends when a frame
cannot be written, when it sees a shutdown, or when nobody is left who could send;
then it closes the queue and tells of every message that is left in it.

The writer is a machine of atomic steps, and so are those who send: between the
look whether the link is active and the queue, anything may happen.  A step that
is not possible leaves everything as it is.
-/

namespace RemoteMessaging

/-- Where an ordered writer stands. -/
inductive OrderedWriter.Phase (μ : Type) where
  | ready
  | writing (writing : Writing μ)
  /-- About to close the queue. -/
  | leaving
  /-- The queue is closed: telling of what is left in it. -/
  | rejecting
  | ended
  | dropped
  deriving DecidableEq, Repr

/-- The writer of an ordered link with its queue. -/
structure OrderedWriter (μ : Type) where
  sender : Sender μ
  outlet : Outlet μ
  /-- Messages whose senders have found the link active and have not reached the
  queue yet. -/
  offered : List (Outbound μ)
  queue : List (Outbound μ)
  isOpen : Bool
  /-- Somebody could still send. -/
  connected : Bool
  signalled : Bool
  /-- The threads of the writer have been told to stop. -/
  halted : Bool
  phase : OrderedWriter.Phase μ

/-- A step of the writer, of a sender, or of whoever closes the link. -/
inductive OrderedWriter.Action (μ : Type) where
  | offer (message : μ)
  | enqueue (position : Nat)
  | take
  | write (answer : WriteAnswer)
  | leave
  /-- The writer sees that nobody is left who could send. -/
  | finish
  | closeQueue
  | reject
  | deactivate
  | signal
  | disconnect
  | halt
  | drop
  deriving DecidableEq, Repr

namespace OrderedWriter

variable {μ : Type}

def start (sender : Sender μ) (hooked : Bool) : OrderedWriter μ :=
  { sender := sender
    outlet := .start hooked
    offered := []
    queue := []
    isOpen := true
    connected := true
    signalled := false
    halted := false
    phase := .ready }

def report (writer : OrderedWriter μ) (receipt : Receipt μ) :
    OrderedWriter μ :=
  { writer with outlet := writer.outlet.report receipt }

/-- Encodes a message and looks whether the link is active. -/
def offer (writer : OrderedWriter μ) (message : μ) : OrderedWriter μ :=
  match writer.sender.offer writer.outlet.activity.active message with
  | .error error => writer.report (.failed message error)
  | .ok outbound => { writer with offered := writer.offered ++ [outbound] }

def enqueue (writer : OrderedWriter μ) (position : Nat) : OrderedWriter μ :=
  match writer.offered[position]? with
  | none => writer
  | some outbound =>
      let writer :=
        { writer with offered := writer.offered.eraseIdx position }
      if writer.isOpen then
        { writer with queue := writer.queue ++ [outbound] }
      else writer.report (.failed outbound.message .closed)

def take (writer : OrderedWriter μ) : OrderedWriter μ :=
  match writer.phase, writer.queue with
  | .ready, outbound :: queue =>
      { writer with queue := queue, phase := .writing outbound.begin }
  | _, _ => writer

def write (writer : OrderedWriter μ) (answer : WriteAnswer) :
    OrderedWriter μ :=
  match writer.phase with
  | .writing writing =>
      let message := writing.outbound.message
      let outlet := writer.outlet.put (answer.bytes writing.rest)
      match writing.write answer with
      | .more writing =>
          { writer with outlet := outlet, phase := .writing writing }
      | .complete =>
          { writer with
            outlet := outlet.report (.written message)
            phase := .ready }
      | .broken error =>
          { writer with
            outlet := outlet.fail message (writer.sender.writeError error)
            phase := .leaving }
  | _ => writer

/-- Leaves because of a shutdown, even if there are messages. -/
def leave (writer : OrderedWriter μ) : OrderedWriter μ :=
  match writer.phase with
  | .ready =>
      if writer.signalled then { writer with phase := .leaving } else writer
  | _ => writer

def finish (writer : OrderedWriter μ) : OrderedWriter μ :=
  match writer.phase with
  | .ready =>
      if writer.queue.isEmpty ∧ writer.offered.isEmpty ∧ !writer.connected then
        { writer with phase := .leaving }
      else writer
  | _ => writer

def closeQueue (writer : OrderedWriter μ) : OrderedWriter μ :=
  match writer.phase with
  | .leaving => { writer with isOpen := false, phase := .rejecting }
  | _ => writer

def reject (writer : OrderedWriter μ) : OrderedWriter μ :=
  match writer.phase, writer.queue with
  | .rejecting, outbound :: queue =>
      { writer with queue := queue }.report (.failed outbound.message .closed)
  | .rejecting, [] => { writer with phase := .ended }
  | _, _ => writer

/-- Drops a writer that has not ended once its threads stop; the queue is lost
with it. -/
def drop (writer : OrderedWriter μ) : OrderedWriter μ :=
  if writer.halted ∧ writer.phase matches .ready | .writing _ | .leaving
      | .rejecting then
    { writer with queue := [], isOpen := false, phase := .dropped }
  else writer

/-- One step.  Nobody offers a message once nobody is left who could send. -/
def step (writer : OrderedWriter μ) : Action μ → OrderedWriter μ
  | .offer message =>
      if writer.connected then writer.offer message else writer
  | .enqueue position => writer.enqueue position
  | .take => writer.take
  | .write answer => writer.write answer
  | .leave => writer.leave
  | .finish => writer.finish
  | .closeQueue => writer.closeQueue
  | .reject => writer.reject
  | .deactivate => { writer with outlet := writer.outlet.deactivate }
  | .signal => { writer with signalled := true }
  | .disconnect => { writer with connected := false }
  | .halt => { writer with halted := true }
  | .drop => writer.drop

def run (writer : OrderedWriter μ) (actions : List (Action μ)) :
    OrderedWriter μ :=
  actions.foldl step writer

end OrderedWriter

end RemoteMessaging
