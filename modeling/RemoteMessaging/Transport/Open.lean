import RemoteMessaging.Link.Run
import RemoteMessaging.Lookup
import RemoteMessaging.Transport.Basic

/-!
# Opening links

Opening a link runs a caller on the cache of the transport.  Its attempts to
connect look up the address and open a socket; a link whose channel has become
inactive counts as dead.  Others may work on the transport while the caller
pauses, and may even close it: then the caller only learns that it is closed.
-/

namespace RemoteMessaging

/-- A transport and what is held of the operating system, while a link is being
opened. -/
structure Opening (σ η : Type) where
  transport : Transport η
  resources : Resources σ
  pauses : List Duration
  warnings : List String

namespace Transport

variable {σ η : Type}

def closedError : IoError := ⟨.notConnected, "transport closed"⟩

def linkOver (transport : Transport η) (handle : Handle)
    (localAddress remoteAddress : SocketAddress) : Link :=
  ⟨handle, localAddress, remoteAddress, transport.config.orderingGuarantee⟩

def connect (os : OperatingSystem σ) (names : NameService)
    (transport : Transport η) (address : Address) (resources : Resources σ) :
    Attempt Link × Resources σ :=
  if transport.closed then (.failed closedError, resources)
  else
    match address.resolve names with
    | .error error => (.failed error, resources)
    | .ok target =>
        match resources.connect os transport.config.socket target with
        | (.error error, resources) => (.failed error, resources)
        | (.ok (handle, own), resources) =>
            (.connected (transport.linkOver handle own target), resources)

def keepChannel (transport : Transport η) : Attempt Link → Transport η
  | .connected link =>
      { transport with channels := link.handle :: transport.channels }
  | _ => transport

/-- What a caller finds outside.  `meanwhile` says what others do to the
transport during each pause, by the number of the pause. -/
def outside (os : OperatingSystem σ) (names : NameService)
    (meanwhile :
      Nat → Transport η → Resources σ → Transport η × Resources σ) :
    Outside (Opening σ η) Link where
  connect address cache opening :=
    let (attempt, resources) :=
      opening.transport.connect os names address opening.resources
    (attempt, cache, { opening with
      transport := opening.transport.keepChannel attempt
      resources := resources })
  pause delay cache opening :=
    let (transport, resources) :=
      meanwhile opening.pauses.length { opening.transport with cache := cache }
        opening.resources
    (transport.cache, { opening with
      transport := transport
      resources := resources
      pauses := opening.pauses ++ [delay] })
  isLive link opening := (opening.transport.isActive link.link, opening)
  warn warning opening :=
    { opening with warnings := opening.warnings ++ [warning] }

/-- The attempts to connect of somebody who opens a link, which looks at nothing
else than opening does. -/
def attempts (os : OperatingSystem σ) (names : NameService)
    (meanwhile :
      Nat → Transport η → Resources σ → Transport η × Resources σ)
    (transport : Transport η) (address : Address) (resources : Resources σ) :
    List (Attempt Link) :=
  if transport.closed then []
  else
    (Caller.startLive 0 address transport.config.retry).attempts
      (outside os names meanwhile) transport.cache ⟨transport, resources, [], []⟩

/-- The result of a caller for whoever opens a link.  Once the transport is
closed, every error is told as that. -/
def outcome (closed : Bool) : Option (CallResult Link) →
    Option (Except Error (Issued Link))
  | some (.link link) => some (.ok link)
  | some (.error error) => some (.error (if closed then .closed else error))
  | _ => none

instance decidableEqOutcome : DecidableEq (Except Error (Issued Link))
  | .ok left, .ok right => decidable_of_iff (left = right) (by simp)
  | .error left, .error right => decidable_of_iff (left = right) (by simp)
  | .ok _, .error _ => isFalse (by simp)
  | .error _, .ok _ => isFalse (by simp)

/-- Opens a link: the outcome, if the caller does not sleep for ever, and how the
opening went. -/
def openLink (os : OperatingSystem σ) (names : NameService)
    (meanwhile :
      Nat → Transport η → Resources σ → Transport η × Resources σ)
    (transport : Transport η) (address : Address) (resources : Resources σ) :
    Option (Except Error (Issued Link)) × Opening σ η :=
  let opening : Opening σ η := ⟨transport, resources, [], []⟩
  if transport.closed then (some (.error .closed), opening)
  else
    let caller := Caller.startLive 0 address transport.config.retry
    let (caller, cache, opening) :=
      caller.run (outside os names meanwhile) transport.cache opening
    (outcome opening.transport.closed caller.result?,
      { opening with transport := { opening.transport with cache := cache } })

end Transport

end RemoteMessaging
