import RemoteMessaging.Link.Outbound
import RemoteMessaging.Manager.Settings
import RemoteMessaging.Transport.Open

/-!
# Managers

A manager sends and receives messages: a transport with a codec and with handlers
for messages and errors.  What cannot be decoded or delivered becomes an error
that names the peer.
-/

namespace RemoteMessaging

/-- A message that has arrived. -/
structure RemoteMessage (μ : Type) where
  role : ChannelRole
  remoteAddress : SocketAddress
  message : μ
  deriving DecidableEq, Repr

/-- A manager; messages have type `μ`, and `η` names handlers. -/
structure Manager (μ η : Type) where
  name : String
  transport : Transport η
  codec : Codec μ
  errorHandler : η
  messageHandler : Option η

def ManagerSettings.manager {μ η : Type} (settings : ManagerSettings μ η)
    (transport : Transport η) : Manager μ η :=
  { name := settings.name
    transport := transport
    codec := settings.codec
    errorHandler := settings.errorHandler
    messageHandler := none }

/-- What becomes of an inbound payload. -/
inductive Dispatch (μ η : Type) where
  | message (handler : η) (message : RemoteMessage μ)
  | error (handler : η) (error : Error)
  /-- There is no handler for messages. -/
  | dropped
  deriving DecidableEq, Repr

namespace Manager

variable {σ μ η : Type}

/-- Makes a manager from settings.  `resolved` is what the resolver says about
the local address.  The error handler is installed once the transport is
bound. -/
def create (os : OperatingSystem σ) (settings : ManagerSettings μ η)
    (resolved : Except Error String) (resources : Resources σ) :
    Except Error (Manager μ η) × Resources σ :=
  match Transport.bind os settings.config resolved resources with
  | (.error error, resources) => (.error error, resources)
  | (.ok transport, resources) =>
      (.ok (settings.manager
        (transport.registerErrorHandler settings.errorHandler)), resources)

/-- Makes a manager from common settings with overrides. -/
def createWith (os : OperatingSystem σ) (base : ManagerSettings μ η)
    (overrides : Overrides μ η) (resolved : Except Error String)
    (resources : Resources σ) : Except Error (Manager μ η) × Resources σ :=
  match overrides.apply base with
  | .error error => (.error error, resources)
  | .ok settings => create os settings resolved resources

def registerHandler (manager : Manager μ η) (handler : η) : Manager μ η :=
  { manager with messageHandler := some handler }

def undecodable (remote : SocketAddress) (error : Error) : Error :=
  .protocol (toString remote) s!"decode failed: {error.message}"

def undelivered (remote : SocketAddress) (error : Error) : Error :=
  .protocol (toString remote)
    s!"delivery failed [{error.code}]: {error.message}"

def dispatch (manager : Manager μ η) (event : Event) : Dispatch μ η :=
  match manager.codec.decode event.payload with
  | .error error =>
      .error manager.errorHandler (undecodable event.remoteAddress error)
  | .ok message =>
      match manager.messageHandler with
      | some handler =>
          .message handler ⟨event.role, event.remoteAddress, message⟩
      | none => .dropped

def sender (manager : Manager μ η) (link : Link) : Sender μ :=
  { encode := manager.codec.encode
    maxFrameLength := manager.transport.config.socket.maxFrameLength.toNat
    remoteAddress := link.remoteAddress }

/-- What the error handler is told about a message over a link.  Nobody is told
of a message that was written. -/
def receiptError? (link : Link) : Receipt μ → Option Error
  | .written _ => none
  | .failed _ error => some (undelivered link.remoteAddress error)

def describe (manager : Manager μ η) : String :=
  Text.record "RemoteManager"
    [("name", Text.quoted manager.name),
      ("transport", manager.transport.describe)]

end Manager

end RemoteMessaging
