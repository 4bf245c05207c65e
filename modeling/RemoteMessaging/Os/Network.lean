import RemoteMessaging.Os.Resources

/-!
# A network in memory

An operating system whose sockets reach only one another.  Every IP address can
be bound, and every address with a port has at most one listener.  Connecting
reaches live listeners if the network routes at all.  Faults can be planned: for
the ports that are bound, for the targets of connections, and for the calls of
each sort in order.
-/

namespace RemoteMessaging

/-- Planned outcomes of calls in order; nothing is an outcome without a fault. -/
abbrev FaultPlan := List (Option Errno)

namespace FaultPlan

/-- The outcome of the next call.  A call beyond the plan has no fault. -/
def next (plan : FaultPlan) : Except IoError Unit × FaultPlan :=
  match plan with
  | some errno :: rest => (.error (IoError.ofErrno errno), rest)
  | none :: rest => (.ok (), rest)
  | [] => (.ok (), [])

end FaultPlan

/-- All planned faults. -/
structure NetworkFaults where
  bind : List (Port × Errno)
  listen : List (Port × Errno)
  connect : List (SocketAddress × FaultPlan)
  socket : FaultPlan
  option : FaultPlan
  name : FaultPlan
  deriving Repr

namespace NetworkFaults

def none : NetworkFaults := ⟨[], [], [], [], [], []⟩

end NetworkFaults

/-- A socket that has been bound. -/
structure BoundSocket where
  handle : Handle
  requested : Port
  address : SocketAddress
  listening : Bool
  deriving DecidableEq, Repr

/-- The state of the network. -/
structure Network where
  /-- Connections to live listeners are routed. -/
  routed : Bool
  bound : List BoundSocket
  connected : List (Handle × SocketAddress)
  nextBound : Port
  nextConnected : Port
  faults : NetworkFaults

namespace Network

def start (routed : Bool) (faults : NetworkFaults) : Network :=
  ⟨routed, [], [], 50000, 60000, faults⟩

def isTaken (network : Network) (address : SocketAddress) : Bool :=
  network.bound.any (·.address = address)

def hasListener (network : Network) (address : SocketAddress) : Bool :=
  network.bound.any fun socket => socket.listening && socket.address = address

def create (network : Network) : Except IoError Unit × Network :=
  let (outcome, rest) := network.faults.socket.next
  (outcome, { network with faults := { network.faults with socket := rest } })

def setOption (option : SocketOption) (network : Network) :
    Except IoError Unit × Network :=
  match option with
  | .nonBlocking => (.ok (), network)
  | _ =>
      let (outcome, rest) := network.faults.option.next
      (outcome,
        { network with faults := { network.faults with option := rest } })

/-- Binds a socket.  Port zero is replaced by the next free port of its own
range. -/
def bind (handle : Handle) (address : SocketAddress) (network : Network) :
    Except IoError Unit × Network :=
  match network.faults.bind.lookup address.port with
  | some errno => (.error (IoError.ofErrno errno), network)
  | none =>
      let chosen : SocketAddress :=
        if address.port = 0 then ⟨address.ip, network.nextBound⟩ else address
      if network.isTaken chosen then
        (.error (IoError.ofErrno .eaddrinuse), network)
      else
        (.ok (), { network with
          bound := ⟨handle, address.port, chosen, false⟩ :: network.bound
          nextBound :=
            if address.port = 0 then network.nextBound + 1
            else network.nextBound })

def listen (handle : Handle) (network : Network) :
    Except IoError Unit × Network :=
  match network.bound.find? (·.handle = handle) with
  | none => (.error (IoError.ofErrno .einval), network)
  | some socket =>
      match network.faults.listen.lookup socket.requested with
      | some errno => (.error (IoError.ofErrno errno), network)
      | none =>
          (.ok (), { network with
            bound := network.bound.map fun other =>
              if other.handle = handle then { other with listening := true }
              else other })

def planConnect (network : Network) (target : SocketAddress)
    (plan : FaultPlan) : Network :=
  { network with
    faults := { network.faults with
      connect := (target, plan) ::
        network.faults.connect.filter (·.1 ≠ target) } }

/-- Connects a socket to a target, which gives it an address of its own. -/
def connect (handle : Handle) (target : SocketAddress) (network : Network) :
    Except IoError Unit × Network :=
  let plan := (network.faults.connect.lookup target).getD []
  let (outcome, rest) := plan.next
  let network := network.planConnect target rest
  match outcome with
  | .error error => (.error error, network)
  | .ok _ =>
      if network.hasListener target = false then
        (.error (IoError.ofErrno .econnrefused), network)
      else if network.routed = false then
        (.error (IoError.ofErrno .enetunreach), network)
      else
        (.ok (), { network with
          connected :=
            (handle, ⟨target.ip, network.nextConnected⟩) :: network.connected
          nextConnected := network.nextConnected + 1 })

def addressOf? (network : Network) (handle : Handle) : Option SocketAddress :=
  ((network.bound.find? (·.handle = handle)).map (·.address)).or
    (network.connected.lookup handle)

def localAddress (handle : Handle) (network : Network) :
    Except IoError SocketAddress × Network :=
  let (outcome, rest) := network.faults.name.next
  let network :=
    { network with faults := { network.faults with name := rest } }
  match outcome, network.addressOf? handle with
  | .error error, _ => (.error error, network)
  | .ok _, some address => (.ok address, network)
  | .ok _, none => (.error (IoError.ofErrno .einval), network)

/-- Closes a socket, which frees its address. -/
def close (handle : Handle) (network : Network) : Network :=
  { network with
    bound := network.bound.filter (·.handle ≠ handle)
    connected := network.connected.filter (·.1 ≠ handle) }

/-- The network as an operating system.  Threads are always to be had. -/
def os : OperatingSystem Network where
  create _ := create
  setOption _ := setOption
  bind := bind
  listen handle _ := listen handle
  connect handle target _ := connect handle target
  register _ network := (.ok (), network)
  localAddress := localAddress
  close := close
  startPool _ _ network := (.ok (), network)

end Network

end RemoteMessaging
