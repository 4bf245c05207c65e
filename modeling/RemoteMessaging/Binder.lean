import RemoteMessaging.Os.Socket

/-!
# Binding the listening socket

A listener takes the port that is asked for or, if that is zero, the first
candidate of an allocator that is not in use.  Trying a port is binding it, so
nobody can take it in between.
-/

namespace RemoteMessaging

/-- Binds listening sockets on a host. -/
structure Binder where
  host : Ip
  allocator : PortAllocator
  options : SocketOptions
  deriving DecidableEq, Repr

/-- A listening socket and its address. -/
structure Bound where
  handle : Handle
  address : SocketAddress
  deriving DecidableEq, Repr

namespace Binder

variable {σ : Type}

def describe (binder : Binder) : String :=
  Text.record "ListeningSocketBinder"
    [("host", toString binder.host),
      ("allocator", Text.quoted binder.allocator.toText)]

def bindPort (binder : Binder) (os : OperatingSystem σ) (port : Port)
    (resources : Resources σ) : Except IoError Bound × Resources σ :=
  match resources.listen os binder.options ⟨binder.host, port⟩ with
  | (.error error, resources) => (.error error, resources)
  | (.ok (handle, address), resources) => (.ok ⟨handle, address⟩, resources)

def failure (binder : Binder) (port : Port) (error : IoError) : Error :=
  .bind (toString binder.host) port error

/-- Tries candidates in order until one is not in use; `tried` were tried
before. -/
def scan (binder : Binder) (os : OperatingSystem σ) (tried : Nat) :
    List Port → Resources σ → Except Error Bound × Resources σ
  | [], resources =>
      (.error (.noFreePort (toString binder.host) tried), resources)
  | port :: rest, resources =>
      match binder.bindPort os port resources with
      | (.ok bound, resources) => (.ok bound, resources)
      | (.error error, resources) =>
          if error.isAddressInUse then
            binder.scan os (tried + 1) rest resources
          else (.error (binder.failure port error), resources)

/-- Binds the requested port, or a candidate if the request is zero. -/
def bind (binder : Binder) (os : OperatingSystem σ) (requested : Port)
    (resources : Resources σ) : Except Error Bound × Resources σ :=
  if requested ≠ 0 then
    match binder.bindPort os requested resources with
    | (.ok bound, resources) => (.ok bound, resources)
    | (.error error, resources) =>
        (.error (binder.failure requested error), resources)
  else binder.scan os 0 binder.allocator.candidates.toList resources

end Binder

end RemoteMessaging
