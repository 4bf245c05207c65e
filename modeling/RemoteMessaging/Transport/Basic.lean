import RemoteMessaging.Binder
import RemoteMessaging.Channel.ErrorSink
import RemoteMessaging.Link.Cache
import RemoteMessaging.Os.Pools

/-!
# Transports

A transport owns a listening socket, the cache of its links, and the threads that
serve them.  It is bound once and closed once; after that no link can be opened
and nothing is left of what it held.
-/

namespace RemoteMessaging

/-- A connection that was opened here, as its users see it. -/
structure Link where
  handle : Handle
  localAddress : SocketAddress
  remoteAddress : SocketAddress
  ordered : Bool
  deriving DecidableEq, Repr

def Link.describe (link : Link) (active : Bool) : String :=
  Text.record "Link"
    [("local", toString link.localAddress),
      ("remote", toString link.remoteAddress),
      ("ordered", toString link.ordered), ("active", toString active)]

/-- A transport; `η` names error handlers. -/
structure Transport (η : Type) where
  config : TransportConfig
  listener : Bound
  advertised : Address
  workers : WorkerPools
  cache : LinkCache Link
  /-- Sockets of links whose channel has become inactive. -/
  inactive : List Handle
  /-- Sockets of all links that were opened. -/
  channels : List Handle
  sink : ErrorSink η
  closed : Bool

namespace Transport

variable {σ η : Type}

def hostFor (config : TransportConfig) (resolved : Except Error String) :
    Except Error String :=
  match config.hostAddress with
  | some host => .ok host
  | none => resolved

def ipOf (host : String) : Except Error Ip :=
  match Ip.read host.toList with
  | some ip => .ok ip
  | none =>
      .error (.configuration
        s!"advertised host `{host}` is not an IP address: {Ip.syntaxMessage}")

/-- The host to listen on and its IP address, from a valid configuration. -/
def chooseHost (config : TransportConfig) (resolved : Except Error String) :
    Except Error (String × Ip) := do
  config.validate
  let host ← hostFor config resolved
  return (host, ← ipOf host)

/-- The transport of a listener and its threads. -/
def assemble (config : TransportConfig) (host : String) (listener : Bound)
    (workers : WorkerPools) : Transport η :=
  { config := config
    listener := listener
    advertised := Address.ofHost host listener.address.port
    workers := workers
    cache := .empty
    inactive := []
    channels := []
    sink := .empty
    closed := false }

/-- Binds a transport.  `resolved` is what the resolver says about the local
address.  On failure nothing is kept of what was acquired before. -/
def bind (os : OperatingSystem σ) (config : TransportConfig)
    (resolved : Except Error String) (resources : Resources σ) :
    Except Error (Transport η) × Resources σ :=
  match chooseHost config resolved with
  | .error error => (.error error, resources)
  | .ok (host, ip) =>
      let binder : Binder := ⟨ip, config.portAllocator, config.socket⟩
      match binder.bind os config.listenPort resources with
      | (.error error, resources) => (.error error, resources)
      | (.ok bound, resources) =>
          let name := s!"remote-{bound.address.port}"
          match WorkerPools.start os name config.pools resources with
          | (.error error, resources) =>
              (.error (Operation.runtime.failed error),
                resources.close os bound.handle)
          | (.ok workers, resources) =>
              match resources.call (os.register bound.handle) with
              | (.error error, resources) =>
                  (.error (Operation.bind.failed error),
                    workers.stop (resources.close os bound.handle))
              | (.ok _, resources) =>
                  (.ok (assemble config host bound workers), resources)

/-- The address under which others reach the transport, in text form. -/
def identifier (transport : Transport η) : String :=
  toString transport.advertised

/-- The link to an address, if it is cached; this never connects. -/
def get? (transport : Transport η) (address : Address) :
    Option (Issued Link) :=
  transport.cache.get? address

def isActive (transport : Transport η) (link : Link) : Bool :=
  link.handle ∉ transport.inactive

def aliveThreads (transport : Transport η) (resources : Resources σ) : Nat :=
  transport.workers.aliveThreads resources

def describe (transport : Transport η) : String :=
  Text.record "Transport"
    [("identifier", Text.quoted transport.identifier),
      ("local", toString transport.listener.address),
      ("links", toString transport.cache.size),
      ("closed", toString transport.closed)]

def registerErrorHandler (transport : Transport η) (handler : η) :
    Transport η :=
  { transport with sink := transport.sink.install handler }

def markInactive (transport : Transport η) (handle : Handle) : Transport η :=
  if handle ∈ transport.inactive then transport
  else { transport with inactive := handle :: transport.inactive }

/-- Removes the link to an address from the cache if its channel is inactive. -/
def evictInactive (transport : Transport η) (address : Address) :
    Transport η :=
  { transport with
    cache :=
      (transport.cache.evictIf address fun link =>
        !transport.isActive link.link).2 }

/-- Closes a transport.  The cached links become inactive, the cache is emptied,
and the threads and sockets are given back.  Closing again does nothing. -/
def close (os : OperatingSystem σ) (transport : Transport η)
    (resources : Resources σ) : Transport η × Resources σ :=
  if transport.closed then (transport, resources)
  else
    let handles := transport.cache.links.map (·.link.handle)
    let marked := handles.foldl markInactive transport
    ({ marked with cache := marked.cache.clear, closed := true },
      transport.workers.stop
        (resources.closeAll os
          (transport.listener.handle :: transport.channels)))

end Transport

end RemoteMessaging
