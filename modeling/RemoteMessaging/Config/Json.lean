import RemoteMessaging.Config.Basic
import RemoteMessaging.Json.Decode
import RemoteMessaging.Json.Reader
import RemoteMessaging.Json.Writer

/-!
# Configurations as JSON

Durations are written in whole milliseconds.  A configuration, its socket
options and its pool sizes may leave out any field, which then keeps its
default; a retry policy and an allocator have to be complete.
-/

namespace RemoteMessaging

def Duration.toJson (duration : Duration) : Json :=
  .ofNat duration.toMillis

def Duration.ofJson? (value : Json) : Option Duration :=
  (value.toNat? maxMillis).map ofMillis

namespace RetryPolicy

def toJson (policy : RetryPolicy) : Json :=
  .ofMembers [("retries", .ofNat policy.retries.toNat),
    ("backoff_ms", policy.backoff.toJson)]

def ofJson? (value : Json) : Option RetryPolicy := do
  let fields ← value.fields? ["retries", "backoff_ms"]
  return {
    retries := ← Json.field? fields "retries" Json.toUInt32?
    backoff := ← Json.field? fields "backoff_ms" Duration.ofJson? }

end RetryPolicy

namespace SocketOptions

def fieldNames : List String :=
  ["reuse_address", "keep_alive", "backlog", "connect_timeout_ms",
    "max_frame_length"]

def toJson (options : SocketOptions) : Json :=
  .ofMembers [("reuse_address", .bool options.reuseAddress),
    ("keep_alive", .bool options.keepAlive),
    ("backlog", .ofNat options.backlog.toNat),
    ("connect_timeout_ms",
      .ofOption (options.connectTimeout.map Duration.toJson)),
    ("max_frame_length", .ofNat options.maxFrameLength.toNat)]

def ofJson? (value : Json) : Option SocketOptions := do
  let fields ← value.fields? fieldNames
  return {
    reuseAddress :=
      ← Json.fieldOr? fields "reuse_address" Json.toBool? default.reuseAddress
    keepAlive :=
      ← Json.fieldOr? fields "keep_alive" Json.toBool? default.keepAlive
    backlog := ← Json.fieldOr? fields "backlog" Json.toUInt32? default.backlog
    connectTimeout :=
      ← Json.fieldOr? fields "connect_timeout_ms"
        (Json.toOption? Duration.ofJson?) default.connectTimeout
    maxFrameLength :=
      ← Json.fieldOr? fields "max_frame_length" Json.toUInt64?
        default.maxFrameLength }

end SocketOptions

namespace PoolSizes

def fieldNames : List String :=
  ["server_boss", "server_worker", "client_worker"]

def toJson (sizes : PoolSizes) : Json :=
  .ofMembers [("server_boss", .ofNat sizes.serverBoss.toNat),
    ("server_worker", .ofNat sizes.serverWorker.toNat),
    ("client_worker", .ofNat sizes.clientWorker.toNat)]

def ofJson? (value : Json) : Option PoolSizes := do
  let fields ← value.fields? fieldNames
  return {
    serverBoss :=
      ← Json.fieldOr? fields "server_boss" Json.toUInt64? default.serverBoss
    serverWorker :=
      ← Json.fieldOr? fields "server_worker" Json.toUInt64? default.serverWorker
    clientWorker :=
      ← Json.fieldOr? fields "client_worker" Json.toUInt64?
        default.clientWorker }

end PoolSizes

namespace TransportConfig

def fieldNames : List String :=
  ["host_address", "listen_port", "retry", "ordering_guarantee",
    "port_allocator", "socket", "pools", "shutdown_grace_ms"]

def toJson (config : TransportConfig) : Json :=
  .ofMembers [("host_address", .ofOption (config.hostAddress.map .ofText)),
    ("listen_port", .ofNat config.listenPort.toNat),
    ("retry", config.retry.toJson),
    ("ordering_guarantee", .bool config.orderingGuarantee),
    ("port_allocator", config.portAllocator.toJson),
    ("socket", config.socket.toJson),
    ("pools", config.pools.toJson),
    ("shutdown_grace_ms", config.shutdownGrace.toJson)]

def ofJson? (value : Json) : Option TransportConfig := do
  let fields ← value.fields? fieldNames
  return {
    hostAddress :=
      ← Json.fieldOr? fields "host_address" (Json.toOption? Json.toText?)
        default.hostAddress
    listenPort :=
      ← Json.fieldOr? fields "listen_port" Json.toUInt16? default.listenPort
    retry := ← Json.fieldOr? fields "retry" RetryPolicy.ofJson? default.retry
    orderingGuarantee :=
      ← Json.fieldOr? fields "ordering_guarantee" Json.toBool?
        default.orderingGuarantee
    portAllocator :=
      ← Json.fieldOr? fields "port_allocator" (PortAllocator.ofJson? 1)
        default.portAllocator
    socket :=
      ← Json.fieldOr? fields "socket" SocketOptions.ofJson? default.socket
    pools := ← Json.fieldOr? fields "pools" PoolSizes.ofJson? default.pools
    shutdownGrace :=
      ← Json.fieldOr? fields "shutdown_grace_ms" Duration.ofJson?
        default.shutdownGrace }

def parse? (text : String) : Option TransportConfig :=
  (Json.read text.toList).bind ofJson?

end TransportConfig

def PortAllocator.parse? (text : String) : Option PortAllocator :=
  (Json.read text.toList).bind (ofJson? 0)

end RemoteMessaging
