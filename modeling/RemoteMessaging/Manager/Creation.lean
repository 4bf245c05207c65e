import RemoteMessaging.Manager.Basic
import RemoteMessaging.Transport.Reception

/-!
# Making a manager while others connect

The thread that makes a manager binds its transport, then installs the error handler,
and then has the manager.  The accept loop of the transport runs as soon as the
transport is bound: it takes connections, and their channels are read, while the
thread goes on.

Nobody else can close the transport or replace the error handler before the manager is
there.  A step that is not possible leaves everything as it is.
-/

namespace RemoteMessaging

/-- Where the thread stands that makes a manager. -/
inductive Creation.Phase (μ η : Type) where
  | begun
  | bound (transport : Transport η)
  | installed (transport : Transport η)
  | ended (outcome : Except Error (Manager μ η))

/-- A manager that is being made, or was made. -/
structure Creation (σ μ η : Type) where
  settings : ManagerSettings μ η
  phase : Creation.Phase μ η
  resources : Resources σ
  /-- The accept loop with its connections, if the transport was bound. -/
  reception : Option (Reception η)

inductive Creation.Action (η : Type) where
  | create
  | receive (action : Reception.Action η)
  deriving DecidableEq, Repr

namespace Creation

variable {σ μ η : Type}

def start (settings : ManagerSettings μ η) (resources : Resources σ) :
    Creation σ μ η :=
  { settings := settings
    phase := .begun
    resources := resources
    reception := none }

def made (creation : Creation σ μ η) : Bool :=
  match creation.phase with
  | .ended (.ok _) => true
  | _ => false

def installed (creation : Creation σ μ η) : Bool :=
  match creation.phase with
  | .installed _ => true
  | .ended (.ok _) => true
  | _ => false

/-- The thread goes on.  `resolved` is what the resolver says about the local
address. -/
def create (os : OperatingSystem σ) (resolved : Except Error String)
    (creation : Creation σ μ η) : Creation σ μ η :=
  let settings := creation.settings
  match creation.phase with
  | .begun =>
      match Transport.bind os settings.config resolved creation.resources with
      | (.error error, resources) =>
          { creation with phase := .ended (.error error), resources := resources }
      | (.ok transport, resources) =>
          { creation with
            phase := .bound transport
            resources := resources
            reception := some (.start settings.config.socket.maxFrameLength.toNat
              transport.sink) }
  | .bound transport =>
      { creation with
        phase := .installed (transport.registerErrorHandler settings.errorHandler)
        reception := creation.reception.map (·.install settings.errorHandler) }
  | .installed transport =>
      { creation with phase := .ended (.ok (settings.manager transport)) }
  | .ended _ => creation

/-- Whether a step of the accept loop, of a connection or of somebody else can be
taken. -/
def allows (creation : Creation σ μ η) : Reception.Action η → Bool
  | .install _ | .signal | .halt => creation.made
  | _ => true

def receive (peers : Nat → Peer) (creation : Creation σ μ η)
    (action : Reception.Action η) : Creation σ μ η :=
  if creation.allows action then
    { creation with
      reception := creation.reception.map (Reception.step peers · action) }
  else creation

def reports (creation : Creation σ μ η) : List (Report η) :=
  creation.reception.elim [] (·.reports)

def step (os : OperatingSystem σ) (resolved : Except Error String)
    (peers : Nat → Peer) (creation : Creation σ μ η) : Action η → Creation σ μ η
  | .create => creation.create os resolved
  | .receive action => creation.receive peers action

def run (os : OperatingSystem σ) (resolved : Except Error String)
    (peers : Nat → Peer) (creation : Creation σ μ η) (actions : List (Action η)) :
    Creation σ μ η :=
  actions.foldl (step os resolved peers) creation

end Creation

end RemoteMessaging
