import RemoteMessaging.Address
import RemoteMessaging.IoError

/-!
# Errors of remote messaging

One error type for all that can fail: binding, connecting, a closed transport,
a channel that carries nonsense, and bad configuration.  Each error has a stable
code and belongs to a class.
-/

namespace RemoteMessaging

/-- The classes of errors that callers treat alike. -/
inductive Error.Kind where
  | bind
  | connect
  | closed
  | protocol
  | configuration
  | io
  deriving DecidableEq, Repr

def Error.Kind.name : Error.Kind → String
  | .bind => "Bind"
  | .connect => "Connect"
  | .closed => "Closed"
  | .protocol => "Protocol"
  | .configuration => "Configuration"
  | .io => "Io"

/-- What can go wrong. -/
inductive Error where
  | bind (host : String) (port : Port) (cause : IoError)
  | noFreePort (host : String) (tried : Nat)
  | connect (address : Address) (attempts : UInt32)
  | closed
  | protocol (channel : String) (detail : String)
  | configuration (detail : String)
  | addressResolution (detail : String)
  | io (operation : String) (cause : IoError)
  deriving DecidableEq, Repr

namespace Error

def kind : Error → Kind
  | .bind .. => .bind
  | .noFreePort .. => .bind
  | .connect .. => .connect
  | .closed => .closed
  | .protocol .. => .protocol
  | .configuration _ => .configuration
  | .addressResolution _ => .configuration
  | .io .. => .io

def code : Error → String
  | .bind .. => "spark.remote.bind_failed"
  | .noFreePort .. => "spark.remote.no_free_port"
  | .connect .. => "spark.remote.connect_failed"
  | .closed => "spark.remote.closed"
  | .protocol .. => "spark.remote.protocol"
  | .configuration _ => "spark.remote.configuration"
  | .addressResolution _ => "spark.remote.address_resolution"
  | .io .. => "spark.remote.io"

def message : Error → String
  | .bind host port cause => s!"cannot bind {host}:{port}: {cause.message}"
  | .noFreePort host tried =>
      s!"port allocator could not find a free port on {host} after {tried} candidates"
  | .connect address attempts =>
      s!"connection to {address} refused after {attempts} attempts"
  | .closed => "transport closed"
  | .protocol channel detail => s!"protocol error on channel {channel}: {detail}"
  | .configuration detail => s!"invalid configuration: {detail}"
  | .addressResolution detail => s!"cannot resolve local address: {detail}"
  | .io operation cause => s!"{operation} failed: {cause.message}"

def cause? : Error → Option IoError
  | .bind _ _ cause => some cause
  | .io _ cause => some cause
  | _ => none

end Error

def Address.parse (text : String) : Except Error Address :=
  (Address.read text).mapError fun fault => .configuration (fault.message text)

/-- The operations of a channel or a listener that can fail. -/
inductive Operation where
  | bind
  | accept
  | read
  | write
  | configure
  | runtime
  deriving DecidableEq, Repr

namespace Operation

def name : Operation → String
  | .bind => "bind"
  | .accept => "accept"
  | .read => "read"
  | .write => "write"
  | .configure => "configure"
  | .runtime => "runtime"

def description : Operation → String
  | .bind => "tcp bind"
  | .accept => "tcp accept"
  | .read => "tcp read"
  | .write => "tcp write"
  | .configure => "tcp configure"
  | .runtime => "worker pool"

def all : List Operation :=
  [.bind, .accept, .read, .write, .configure, .runtime]

def ofName? (name : String) : Option Operation :=
  all.find? (·.name = name)

/-- A failed operation outside an established channel. -/
def failed (operation : Operation) (cause : IoError) : Error :=
  .io operation.name cause

/-- A failed operation on an established channel, which is told when the peer
has left. -/
def channelError (operation : Operation) (remote : SocketAddress)
    (cause : IoError) : Error :=
  .protocol (toString remote)
    (if cause.isPeerGone then
      s!"{operation.description}: peer closed the channel ({cause.message})"
    else s!"{operation.description}: {cause.message}")

end Operation

end RemoteMessaging
