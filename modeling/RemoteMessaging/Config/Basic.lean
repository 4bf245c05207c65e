import RemoteMessaging.Duration
import RemoteMessaging.Ip.Reader
import RemoteMessaging.Port.Allocator
import RemoteMessaging.Text.Quoted

/-!
# Configuration of a transport

A configuration is a snapshot of plain values.  It is built by changing single
settings of another one, and checked once at the end.
-/

namespace RemoteMessaging

/-- How often and at what distance a refused connection is tried again. -/
structure RetryPolicy where
  retries : UInt32
  backoff : Duration
  deriving DecidableEq, Repr

namespace RetryPolicy

def default : RetryPolicy := ⟨3, .ofMillis 10000⟩

instance : Inhabited RetryPolicy := ⟨default⟩

/-- The number of attempts: one more than the retries, as far as the range of
the counter allows. -/
def attempts (policy : RetryPolicy) : UInt32 :=
  PortAllocator.saturatingAdd policy.retries 1

def describe (policy : RetryPolicy) : String :=
  Text.record "RetryPolicy"
    [("retries", toString policy.retries), ("backoff", policy.backoff.toText)]

end RetryPolicy

/-- Options of the sockets of a transport. -/
structure SocketOptions where
  reuseAddress : Bool
  keepAlive : Bool
  backlog : UInt32
  connectTimeout : Option Duration
  maxFrameLength : UInt64
  deriving DecidableEq, Repr

namespace SocketOptions

def default : SocketOptions := ⟨true, true, 128, none, 64 * 1024 * 1024⟩

instance : Inhabited SocketOptions := ⟨default⟩

def describe (options : SocketOptions) : String :=
  Text.record "SocketOptions"
    [("reuse_address", toString options.reuseAddress),
      ("keep_alive", toString options.keepAlive),
      ("backlog", toString options.backlog),
      ("connect_timeout",
        Text.optional (options.connectTimeout.map Duration.toText)),
      ("max_frame_length", toString options.maxFrameLength)]

end SocketOptions

/-- The numbers of threads that accept connections, serve inbound channels, and
serve outbound channels. -/
structure PoolSizes where
  serverBoss : UInt64
  serverWorker : UInt64
  clientWorker : UInt64
  deriving DecidableEq, Repr

namespace PoolSizes

def default : PoolSizes := ⟨3, 20, 10⟩

instance : Inhabited PoolSizes := ⟨default⟩

def describe (sizes : PoolSizes) : String :=
  Text.record "PoolSizes"
    [("server_boss", toString sizes.serverBoss),
      ("server_worker", toString sizes.serverWorker),
      ("client_worker", toString sizes.clientWorker)]

end PoolSizes

/-- All settings of a transport. -/
structure TransportConfig where
  /-- The host to listen on and to advertise; without one it is resolved. -/
  hostAddress : Option String
  /-- The port to listen on; zero leaves the choice to the allocator. -/
  listenPort : Port
  retry : RetryPolicy
  orderingGuarantee : Bool
  portAllocator : PortAllocator
  socket : SocketOptions
  pools : PoolSizes
  shutdownGrace : Duration
  deriving DecidableEq, Repr

namespace TransportConfig

def default : TransportConfig :=
  ⟨none, 0, .default, true, .default, .default, .default, .ofMillis 5000⟩

instance : Inhabited TransportConfig := ⟨default⟩

def describe (config : TransportConfig) : String :=
  Text.record "TransportConfig"
    [("host_address", Text.optional (config.hostAddress.map Text.quoted)),
      ("listen_port", toString config.listenPort),
      ("retry", config.retry.describe),
      ("ordering_guarantee", toString config.orderingGuarantee),
      ("port_allocator", config.portAllocator.describe),
      ("socket", config.socket.describe),
      ("pools", config.pools.describe),
      ("shutdown_grace", config.shutdownGrace.toText)]

/-- Why a configuration cannot be used. -/
inductive Fault where
  | host (name : String)
  | backlog
  | frameLength
  | pools (sizes : PoolSizes)
  deriving DecidableEq, Repr

def Fault.message : Fault → String
  | .host name => s!"host address `{name}` is not an IP: {Ip.syntaxMessage}"
  | .backlog => "socket backlog must be positive"
  | .frameLength => "max frame length must be positive"
  | .pools sizes => s!"thread pool sizes must be positive, got {sizes.describe}"

/-- The first fault of a configuration. -/
def fault? (config : TransportConfig) : Option Fault :=
  match config.hostAddress.filter fun host => (Ip.read host.toList).isNone with
  | some host => some (.host host)
  | none =>
      if config.socket.backlog = 0 then some .backlog
      else if config.socket.maxFrameLength = 0 then some .frameLength
      else if config.pools.serverBoss = 0 ∨ config.pools.serverWorker = 0 ∨
          config.pools.clientWorker = 0 then
        some (.pools config.pools)
      else none

def validate (config : TransportConfig) : Except Error Unit :=
  match config.fault? with
  | none => .ok ()
  | some fault => .error (.configuration fault.message)

/-- A new value for one setting. -/
inductive Change where
  | hostAddress (host : String)
  | listenPort (port : Port)
  | retry (retries : UInt32) (backoff : Duration)
  | orderingGuarantee (ordered : Bool)
  | portAllocator (allocator : PortAllocator)
  | socketOptions (options : SocketOptions)
  | connectTimeout (timeout : Option Duration)
  | pools (sizes : PoolSizes)
  | shutdownGrace (grace : Duration)
  deriving DecidableEq, Repr

def change (config : TransportConfig) : Change → TransportConfig
  | .hostAddress host => { config with hostAddress := some host }
  | .listenPort port => { config with listenPort := port }
  | .retry retries backoff => { config with retry := ⟨retries, backoff⟩ }
  | .orderingGuarantee ordered => { config with orderingGuarantee := ordered }
  | .portAllocator allocator => { config with portAllocator := allocator }
  | .socketOptions options => { config with socket := options }
  | .connectTimeout timeout =>
      { config with socket := { config.socket with connectTimeout := timeout } }
  | .pools sizes => { config with pools := sizes }
  | .shutdownGrace grace => { config with shutdownGrace := grace }

/-- Changes settings one after the other and checks the result. -/
def build (config : TransportConfig) (changes : List Change) :
    Except Error TransportConfig :=
  let changed := changes.foldl change config
  changed.validate.map fun _ => changed

end TransportConfig

end RemoteMessaging
