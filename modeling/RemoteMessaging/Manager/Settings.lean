import RemoteMessaging.Codec
import RemoteMessaging.Config.Setting
import RemoteMessaging.Resolver.Basic

/-!
# Settings of managers and their overrides

Managers are made from common settings, each with overrides of its own.
Applying overrides never changes the settings that they are applied to.
-/

namespace RemoteMessaging

/-- All that a manager is made from.  Messages have type `μ`, and `η` names error
handlers. -/
structure ManagerSettings (μ η : Type) where
  name : String
  config : TransportConfig
  codec : Codec μ
  errorHandler : η
  resolver : Resolver

namespace ManagerSettings

variable {μ η : Type}

def describe (settings : ManagerSettings μ η) : String :=
  Text.record "RemoteManagerSettings"
    [("name", Text.quoted settings.name),
      ("config", settings.config.describe),
      ("resolver", settings.resolver.describe)]

/-- How the source of managers with these settings shows itself. -/
def describeFactory (settings : ManagerSettings μ η) : String :=
  Text.record "RemoteManagerFactory" [("base", settings.describe)]

end ManagerSettings

/-- Settings of one manager that differ from the common ones. -/
structure Overrides (μ η : Type) where
  name : Option String
  hostAddress : Option String
  /-- The port zero does not override. -/
  listenPort : Option Port
  codec : Option (Codec μ)
  errorHandler : Option η
  orderingGuarantee : Option Bool
  retries : Option UInt32
  retryBackoff : Option Duration

namespace Overrides

variable {μ η : Type}

def none : Overrides μ η :=
  ⟨.none, .none, .none, .none, .none, .none, .none, .none⟩

def port? (overrides : Overrides μ η) : Option Port :=
  overrides.listenPort.filter (0 < ·)

/-- The changes to a configuration that the overrides ask for.  The number of
retries and their distance change together; of the two, what is not overridden
stays as in `policy`. -/
def changes (overrides : Overrides μ η) (policy : RetryPolicy) :
    List TransportConfig.Change :=
  (overrides.hostAddress.map .hostAddress).toList ++
    (overrides.port?.map .listenPort).toList ++
    (overrides.orderingGuarantee.map .orderingGuarantee).toList ++
    if overrides.retries.isSome ∨ overrides.retryBackoff.isSome then
      [.retry (overrides.retries.getD policy.retries)
        (overrides.retryBackoff.getD policy.backoff)]
    else []

/-- The settings with the overrides put in, if their configuration is valid. -/
def apply (overrides : Overrides μ η) (base : ManagerSettings μ η) :
    Except Error (ManagerSettings μ η) := do
  let config ← base.config.build (overrides.changes base.config.retry)
  return {
    name := overrides.name.getD base.name
    config := config
    codec := overrides.codec.getD base.codec
    errorHandler := overrides.errorHandler.getD base.errorHandler
    resolver := base.resolver }

/-- The overrides with a new value for the setting of a name. -/
def set? (overrides : Overrides μ η) (name : String) (value : Json) :
    Option (Overrides μ η) :=
  match name with
  | "name" => do return { overrides with name := ← value.toText? }
  | "host_address" => do
      return { overrides with hostAddress := ← value.toText? }
  | "listen_port" => do
      return { overrides with listenPort := ← value.toUInt16? }
  | "ordering_guarantee" => do
      return { overrides with orderingGuarantee := ← value.toBool? }
  | "retries" => do return { overrides with retries := ← value.toUInt32? }
  | "retry_backoff" => do
      return { overrides with retryBackoff := ← Duration.ofParts? value }
  | _ => .none

/-- The record form; of codec and handler only their presence is shown. -/
def describe (overrides : Overrides μ η) : String :=
  Text.record "RemoteOverrides"
    [("name", Text.optional (overrides.name.map Text.quoted)),
      ("host_address", Text.optional (overrides.hostAddress.map Text.quoted)),
      ("listen_port", Text.optional (overrides.listenPort.map toString)),
      ("codec", toString overrides.codec.isSome),
      ("error_handler", toString overrides.errorHandler.isSome),
      ("ordering_guarantee",
        Text.optional (overrides.orderingGuarantee.map toString)),
      ("retries", Text.optional (overrides.retries.map toString)),
      ("retry_backoff",
        Text.optional (overrides.retryBackoff.map Duration.toText))]

end Overrides

end RemoteMessaging
