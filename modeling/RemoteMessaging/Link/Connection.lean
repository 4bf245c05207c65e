import RemoteMessaging.Channel.ReadLoop
import RemoteMessaging.Link.OrderedWriter

/-!
# An ordered link and its peer

The bytes that an ordered writer gives to its socket travel to the peer in the
order in which they were written.  They arrive in chunks of any size at any time,
and the stream may end at any byte.  The peer reads what has arrived.

Beside the writer stands an account of the messages that its queue has accepted.
A step that is not possible leaves everything as it is.
-/

namespace RemoteMessaging

/-- An ordered writer, and its stream as the peer gets it. -/
structure Connection (μ : Type) where
  writer : OrderedWriter μ
  /-- All messages that ever reached the queue, in this order. -/
  accepted : List (Outbound μ)
  arrived : List Piece
  /-- How many bytes of the stream have arrived. -/
  passed : Nat
  /-- The peer has got the end of the stream. -/
  ended : Bool

/-- A step at the writer or on the way to the peer. -/
inductive Connection.Action (μ : Type) where
  | writer (action : OrderedWriter.Action μ)
  | arrive (count : Nat)
  | pause
  | cut
  deriving DecidableEq, Repr

variable {μ : Type}

/-- The messages that reach the queue of a writer in a step. -/
def OrderedWriter.admitted (writer : OrderedWriter μ) :
    Action μ → List (Outbound μ)
  | .enqueue position =>
      if writer.isOpen then writer.offered[position]?.toList else []
  | _ => []

namespace Connection

def start (sender : Sender μ) (hooked : Bool) : Connection μ :=
  ⟨.start sender hooked, [], [], 0, false⟩

def underWay (connection : Connection μ) : List UInt8 :=
  connection.writer.outlet.wire.drop connection.passed

/-- A chunk arrives, unless nothing is on its way or the stream has ended. -/
def arrive (connection : Connection μ) (count : Nat) : Connection μ :=
  let chunk := connection.underWay.take count
  if chunk = [] ∨ connection.ended then connection
  else
    { connection with
      arrived := connection.arrived ++ [.bytes chunk]
      passed := connection.passed + chunk.length }

def step (connection : Connection μ) : Action μ → Connection μ
  | .writer action =>
      { connection with
        writer := connection.writer.step action
        accepted := connection.accepted ++ connection.writer.admitted action }
  | .arrive count => connection.arrive count
  | .pause =>
      if connection.ended then connection
      else { connection with arrived := connection.arrived ++ [.pending] }
  | .cut => { connection with ended := true }

def run (connection : Connection μ) (actions : List (Action μ)) :
    Connection μ :=
  actions.foldl step connection

def source (connection : Connection μ) : Source :=
  ⟨connection.arrived, if connection.ended then .closed else .silent⟩

end Connection

end RemoteMessaging
