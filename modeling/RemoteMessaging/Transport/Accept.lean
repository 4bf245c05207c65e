import RemoteMessaging.Channel.Event
import RemoteMessaging.Error

/-!
# Accepting connections

The accept loop takes connections as they come until a shutdown is seen.  Each
connection has its socket configured, is handed over to the threads that serve
inbound channels, and is then read as a channel.  What goes wrong is reported and
touches no other connection.
-/

namespace RemoteMessaging

/-- How the calls for one accepted connection turn out. -/
structure Arrival where
  remoteAddress : SocketAddress
  keepAlive : Except IoError Unit
  noDelay : Except IoError Unit
  handOver : Except IoError Unit
  register : Except IoError Unit
  localAddress : Except IoError SocketAddress

/-- What an accept gives. -/
inductive Accepted where
  | failed (error : IoError)
  | connection (arrival : Arrival)

/-- What the accept loop does: it reports an error, or it starts to read a
channel. -/
inductive AcceptAction where
  | report (error : Error)
  | serve (channel : Channel)
  deriving DecidableEq, Repr

def Accepted.warning? : Accepted → Option String
  | .failed _ => some "accept failed"
  | .connection _ => none

namespace Arrival

/-- Configures the socket; the second option is not set if the first fails. -/
def configure (arrival : Arrival) : Except IoError Unit := do
  arrival.keepAlive
  arrival.noDelay

def takeOver (arrival : Arrival) : Except IoError SocketAddress := do
  arrival.handOver
  arrival.register
  arrival.localAddress

/-- What is done with a connection.  A socket that cannot be configured is served
all the same. -/
def actions (arrival : Arrival) (maxFrameLength : Nat) : List AcceptAction :=
  (match arrival.configure with
    | .ok _ => []
    | .error error => [.report (Operation.configure.failed error)]) ++
    (match arrival.takeOver with
      | .ok own =>
          [.serve ⟨.server, own, arrival.remoteAddress, maxFrameLength⟩]
      | .error error => [.report (Operation.accept.failed error)])

end Arrival

def Accepted.actions (maxFrameLength : Nat) : Accepted → List AcceptAction
  | .failed error => [.report (Operation.accept.failed error)]
  | .connection arrival => arrival.actions maxFrameLength

/-- The accept loop.  A shutdown is seen after `patience` accepts, if at all. -/
def acceptLoop (maxFrameLength : Nat) (patience : Option Nat)
    (accepts : List Accepted) : List AcceptAction :=
  (patience.elim accepts accepts.take).flatMap (·.actions maxFrameLength)

end RemoteMessaging
