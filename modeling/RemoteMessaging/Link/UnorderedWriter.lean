import RemoteMessaging.Link.Outbound

/-!
# Writing without order

On an unordered link every message has a task of its own.  The tasks contend for
the socket; the one that has it writes its whole frame, or fails, before another
gets it.  Only after it has given the socket back does a task tell what has become
of its message, and only after it has told of a failure does it mark the link as
inactive.

The tasks and those who send take atomic steps.  A step that is not possible
leaves everything as it is.
-/

namespace RemoteMessaging

variable {μ : Type}

/-- The task that has the socket. -/
inductive Holder (μ : Type) where
  | busy (writing : Writing μ)
  | written (outbound : Outbound μ)
  | failed (writing : Writing μ) (error : IoError)
  deriving DecidableEq, Repr

def Holder.outbound : Holder μ → Outbound μ
  | .busy writing | .failed writing _ => writing.outbound
  | .written outbound => outbound

/-- What the task is going to tell, once it has made its last write. -/
def Holder.receipt? (sender : Sender μ) : Holder μ → Option (Receipt μ)
  | .busy _ => none
  | .written outbound => some (.written outbound.message)
  | .failed writing error =>
      some (.failed writing.outbound.message (sender.writeError error))

def Writing.advance (writing : Writing μ) (answer : WriteAnswer) : Holder μ :=
  match writing.write answer with
  | .more writing => .busy writing
  | .complete => .written writing.outbound
  | .broken error => .failed writing error

/-- What is left to do for a task that has given the socket back. -/
inductive Errand (μ : Type) where
  | tell (receipt : Receipt μ)
  | mark
  deriving DecidableEq, Repr

def Errand.receipt? : Errand μ → Option (Receipt μ)
  | .tell receipt => some receipt
  | .mark => none

/-- What is left to do for a task that has told of its message. -/
def Receipt.errands : Receipt μ → List (Errand μ)
  | .written _ => []
  | .failed _ _ => [.mark]

/-- The tasks that write on an unordered link. -/
structure UnorderedWriter (μ : Type) where
  sender : Sender μ
  outlet : Outlet μ
  /-- Messages whose senders have found the link active and have not started a
  task yet. -/
  offered : List (Outbound μ)
  waiting : List (Outbound μ)
  current : Option (Holder μ)
  errands : List (Errand μ)
  halted : Bool

/-- A step of a task, of a sender, or of whoever closes the link. -/
inductive UnorderedWriter.Action (μ : Type) where
  | offer (message : μ)
  | start (position : Nat)
  | acquire (position : Nat)
  | write (answer : WriteAnswer)
  | release
  /-- The errand at a position is to tell, and is done. -/
  | tell (position : Nat)
  /-- The errand at a position is to mark the link, and is done. -/
  | mark (position : Nat)
  | deactivate
  | halt
  | drop (position : Nat)
  /-- The threads drop the task that has the socket. -/
  | dropCurrent
  deriving DecidableEq, Repr

namespace UnorderedWriter

def new (sender : Sender μ) (hooked : Bool) : UnorderedWriter μ :=
  { sender := sender
    outlet := .start hooked
    offered := []
    waiting := []
    current := none
    errands := []
    halted := false }

def offer (writer : UnorderedWriter μ) (message : μ) : UnorderedWriter μ :=
  match writer.sender.offer writer.outlet.activity.active message with
  | .error error =>
      { writer with outlet := writer.outlet.report (.failed message error) }
  | .ok outbound => { writer with offered := writer.offered ++ [outbound] }

/-- Starts a task for an offered message.  Threads that have been told to stop
drop the task at once. -/
def start (writer : UnorderedWriter μ) (position : Nat) : UnorderedWriter μ :=
  match writer.offered[position]? with
  | none => writer
  | some outbound =>
      { writer with
        offered := writer.offered.eraseIdx position
        waiting :=
          if writer.halted then writer.waiting
          else writer.waiting ++ [outbound] }

def acquire (writer : UnorderedWriter μ) (position : Nat) :
    UnorderedWriter μ :=
  match writer.current, writer.waiting[position]? with
  | none, some outbound =>
      { writer with
        waiting := writer.waiting.eraseIdx position
        current := some (.busy outbound.begin) }
  | _, _ => writer

def write (writer : UnorderedWriter μ) (answer : WriteAnswer) :
    UnorderedWriter μ :=
  match writer.current with
  | some (.busy writing) =>
      { writer with
        outlet := writer.outlet.put (answer.bytes writing.rest)
        current := some (writing.advance answer) }
  | _ => writer

def owing? (writer : UnorderedWriter μ) : Option (Receipt μ) :=
  writer.current.bind (·.receipt? writer.sender)

/-- The task that has made its last write gives the socket back. -/
def release (writer : UnorderedWriter μ) : UnorderedWriter μ :=
  match writer.owing? with
  | none => writer
  | some receipt =>
      { writer with
        current := none
        errands := writer.errands ++ [.tell receipt] }

def tell (writer : UnorderedWriter μ) (position : Nat) : UnorderedWriter μ :=
  match writer.errands[position]? with
  | some (.tell receipt) =>
      { writer with
        outlet := writer.outlet.report receipt
        errands := writer.errands.eraseIdx position ++ receipt.errands }
  | _ => writer

def mark (writer : UnorderedWriter μ) (position : Nat) : UnorderedWriter μ :=
  match writer.errands[position]? with
  | some .mark =>
      { writer with
        outlet := writer.outlet.deactivate
        errands := writer.errands.eraseIdx position }
  | _ => writer

/-- Drops a waiting task once the threads stop. -/
def drop (writer : UnorderedWriter μ) (position : Nat) : UnorderedWriter μ :=
  if writer.halted then
    { writer with waiting := writer.waiting.eraseIdx position }
  else writer

/-- Drops the task that is writing once the threads stop.  A task that has made its
last write does not wait for anything any more, and goes on to its end. -/
def dropCurrent (writer : UnorderedWriter μ) : UnorderedWriter μ :=
  match writer.halted, writer.current with
  | true, some (.busy _) => { writer with current := none }
  | _, _ => writer

def step (writer : UnorderedWriter μ) : Action μ → UnorderedWriter μ
  | .offer message => writer.offer message
  | .start position => writer.start position
  | .acquire position => writer.acquire position
  | .write answer => writer.write answer
  | .release => writer.release
  | .tell position => writer.tell position
  | .mark position => writer.mark position
  | .deactivate => { writer with outlet := writer.outlet.deactivate }
  | .halt => { writer with halted := true }
  | .drop position => writer.drop position
  | .dropCurrent => writer.dropCurrent

def run (writer : UnorderedWriter μ) (actions : List (Action μ)) :
    UnorderedWriter μ :=
  actions.foldl step writer

end UnorderedWriter

end RemoteMessaging
