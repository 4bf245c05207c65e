import RemoteMessaging.Config.Json

/-!
# Settings by name

A setting can be changed by its name, with the new value in JSON.  Where the JSON
form of a configuration would round a duration to milliseconds, a duration is
given here by its seconds and nanoseconds.
-/

namespace RemoteMessaging

def Duration.ofParts? (value : Json) : Option Duration := do
  let fields ← value.fields? ["secs", "nanos"]
  let seconds ← Json.field? fields "secs" Json.toUInt64?
  let nanoseconds ← Json.field? fields "nanos" Json.toUInt32?
  return .ofSeconds seconds.toNat nanoseconds.toNat

/-- A new value for the setting of a name. -/
def TransportConfig.Change.named? (name : String) (value : Json) :
    Option Change :=
  match name with
  | "host_address" => value.toText?.map .hostAddress
  | "listen_port" => value.toUInt16?.map .listenPort
  | "retry" => do
      let fields ← value.fields? ["retries", "backoff"]
      return .retry (← Json.field? fields "retries" Json.toUInt32?)
        (← Json.field? fields "backoff" Duration.ofParts?)
  | "ordering_guarantee" => value.toBool?.map .orderingGuarantee
  | "port_allocator" => (PortAllocator.ofJson? 0 value).map .portAllocator
  | "socket_options" => (SocketOptions.ofJson? value).map .socketOptions
  | "connect_timeout" =>
      (value.toOption? Duration.ofParts?).map .connectTimeout
  | "pools" => (PoolSizes.ofJson? value).map .pools
  | "shutdown_grace" => (Duration.ofParts? value).map .shutdownGrace
  | _ => none

end RemoteMessaging
