import RemoteMessaging.Duration
import RemoteMessaging.Ip.Basic
import RemoteMessaging.IoError

/-!
# The operating system and what is held of it

The operating system answers calls as it pleases: a call has an outcome, and a
state that no caller looks into may change.  Beside it stands the account of the
sockets that are open and of the thread pools that run, which is kept on this
side and does not depend on the answers.
-/

namespace RemoteMessaging

abbrev Handle := Nat

/-- What a socket can be told. -/
inductive SocketOption where
  | reuseAddress (on : Bool)
  | keepAlive (on : Bool)
  | noDelay
  | nonBlocking
  deriving DecidableEq, Repr

/-- A call: its outcome, and the state of the system afterwards. -/
abbrev SystemCall (σ α : Type) := σ → Except IoError α × σ

/-- How an operating system with states of type `σ` answers calls. -/
structure OperatingSystem (σ : Type) where
  create : Handle → SystemCall σ Unit
  setOption : Handle → SocketOption → SystemCall σ Unit
  bind : Handle → SocketAddress → SystemCall σ Unit
  listen : Handle → UInt32 → SystemCall σ Unit
  connect : Handle → SocketAddress → Option Duration → SystemCall σ Unit
  /-- Hands a socket over to the threads that drive it. -/
  register : Handle → SystemCall σ Unit
  localAddress : Handle → SystemCall σ SocketAddress
  close : Handle → σ → σ
  startPool : String → UInt64 → SystemCall σ Unit

/-- A pool of threads. -/
structure Pool where
  id : Nat
  name : String
  threads : UInt64
  deriving DecidableEq, Repr

/-- The state of the operating system and what is held of it. -/
structure Resources (σ : Type) where
  system : σ
  made : Nat
  sockets : List Handle
  pools : List Pool

namespace Resources

variable {σ α : Type}

def start (system : σ) : Resources σ := ⟨system, 0, [], []⟩

def call (resources : Resources σ) (request : SystemCall σ α) :
    Except IoError α × Resources σ :=
  let (outcome, system) := request resources.system
  (outcome, { resources with system := system })

def create (os : OperatingSystem σ) (resources : Resources σ) :
    Except IoError Handle × Resources σ :=
  let handle := resources.made
  match resources.call (os.create handle) with
  | (.error error, resources) => (.error error, resources)
  | (.ok _, resources) =>
      (.ok handle, { resources with
        made := handle + 1
        sockets := handle :: resources.sockets })

def close (os : OperatingSystem σ) (handle : Handle)
    (resources : Resources σ) : Resources σ :=
  { resources with
    system := os.close handle resources.system
    sockets := resources.sockets.filter (· ≠ handle) }

def closeAll (os : OperatingSystem σ) (handles : List Handle)
    (resources : Resources σ) : Resources σ :=
  handles.foldl (fun resources handle => resources.close os handle) resources

/-- Makes calls for a socket one after the other.  The first that fails closes
the socket. -/
def prepare (os : OperatingSystem σ) (handle : Handle) :
    List (SystemCall σ Unit) → Resources σ → Except IoError Unit × Resources σ
  | [], resources => (.ok (), resources)
  | request :: rest, resources =>
      match resources.call request with
      | (.ok _, resources) => prepare os handle rest resources
      | (.error error, resources) => (.error error, resources.close os handle)

/-- Makes a socket, prepares it and asks for its address; a failure leaves no
socket behind. -/
def openSocket (os : OperatingSystem σ)
    (requests : Handle → List (SystemCall σ Unit)) (resources : Resources σ) :
    Except IoError (Handle × SocketAddress) × Resources σ :=
  match resources.create os with
  | (.error error, resources) => (.error error, resources)
  | (.ok handle, resources) =>
      match prepare os handle (requests handle) resources with
      | (.error error, resources) => (.error error, resources)
      | (.ok _, resources) =>
          match resources.call (os.localAddress handle) with
          | (.error error, resources) =>
              (.error error, resources.close os handle)
          | (.ok address, resources) => (.ok (handle, address), resources)

def stopPools (pools : List Pool) (resources : Resources σ) : Resources σ :=
  { resources with pools := resources.pools.filter (· ∉ pools) }

/-- Starts pools one after the other.  If one fails, those before it are
stopped. -/
def startPools (os : OperatingSystem σ) (started : List Pool) :
    List (String × UInt64) → Resources σ →
      Except IoError (List Pool) × Resources σ
  | [], resources => (.ok started, resources)
  | (name, threads) :: rest, resources =>
      match resources.call (os.startPool name threads) with
      | (.error error, resources) => (.error error, resources.stopPools started)
      | (.ok _, resources) =>
          let pool : Pool := ⟨resources.made, name, threads⟩
          startPools os (started ++ [pool]) rest { resources with
            made := resources.made + 1
            pools := resources.pools ++ [pool] }

def aliveThreads (pools : List Pool) (resources : Resources σ) : Nat :=
  (pools.filter (· ∈ resources.pools)).foldl
    (fun total pool => total + pool.threads.toNat) 0

end Resources

end RemoteMessaging
