import RemoteMessaging.Link.Caller

/-!
# Several callers on one cache

Any number of callers look for links in one cache, each with its own policy,
while others look into the cache and evict entries.  Their atomic steps come in
any order; what happens outside, such as connecting, takes as long as it likes.

Beside the cache stands an account of the permits to connect: who has one for
which reference, from the moment in which it is won to the moment in which it is
completed or dropped.

A step that is not possible leaves everything as it is.
-/

namespace RemoteMessaging

/-- What happens in a cache. -/
inductive Calls.Happening (Λ : Type) where
  | stored (address : Address) (link : Issued Λ)
  | evicted (address : Address)
  | looked (address : Address) (found : Option (Issued Λ))
  | cleared
  deriving DecidableEq, Repr

/-- Callers with the cache that they share. -/
structure Calls (Λ : Type) where
  cache : LinkCache Λ
  /-- All callers that there ever were, each at the position of its name. -/
  callers : List (Caller Λ)
  /-- Who may connect for which reference. -/
  permits : List (ReferenceId × CallerId)
  history : List (Calls.Happening Λ)

/-- A step of a caller, or of somebody else who uses the cache. -/
inductive Calls.Action (Λ : Type) where
  | call (address : Address) (policy : RetryPolicy) (live : Bool)
  | turn (caller : CallerId)
  | connected (caller : CallerId) (attempt : Attempt Λ)
  | resumed (caller : CallerId)
  | judged (caller : CallerId) (live : Bool)
  | get (address : Address)
  | evict (address : Address) (link : Issued Λ)
  | evictIf (address : Address) (condition : Issued Λ → Bool)
  | clear

namespace Caller

variable {Λ : Type}

/-- The link that a caller has established, and has not given up since. -/
def link? (caller : Caller Λ) : Option (Issued Λ) :=
  match caller.phase with
  | .judging link | .discard link | .finished (.link link) => some link
  | _ => none

/-- What happens in the next step of a caller on a cache. -/
def happenings (caller : Caller Λ) (cache : LinkCache Λ) :
    List (Calls.Happening Λ) :=
  match caller.phase with
  | .store id link =>
      if (cache.reference id).stored.isNone then
        [.stored caller.address (cache.store id link).1]
      else []
  | .discard link =>
      if (cache.evict caller.address link).1 then [.evicted caller.address]
      else []
  | _ => []

/-- The permits after the next step of a caller on a cache. -/
def account (caller : Caller Λ) (cache : LinkCache Λ)
    (permits : List (ReferenceId × CallerId)) :
    List (ReferenceId × CallerId) :=
  match caller.phase with
  | .claim id =>
      if (cache.claim id).1 then (id, caller.id) :: permits else permits
  | .publish id _ | .refused id | .failed id _ | .panicking id =>
      permits.filter (· ≠ (id, caller.id))
  | _ => permits

end Caller

namespace Calls

variable {Λ : Type}

def start : Calls Λ := ⟨.empty, [], [], []⟩

def call (calls : Calls Λ) (address : Address) (policy : RetryPolicy)
    (live : Bool) : Calls Λ :=
  let id := calls.callers.length
  { calls with
    callers := calls.callers ++
      [if live then .startLive id address policy
        else .start id address policy] }

def turn (calls : Calls Λ) (id : CallerId) : Calls Λ :=
  match calls.callers[id]? with
  | none => calls
  | some caller =>
      match caller.turn calls.cache with
      | .step next cache _ =>
          { cache := cache
            callers := calls.callers.set id next
            permits := caller.account calls.cache calls.permits
            history := calls.history ++ caller.happenings calls.cache }
      | _ => calls

def answer (calls : Calls Λ) (id : CallerId)
    (change : Caller Λ → Caller Λ) : Calls Λ :=
  match calls.callers[id]? with
  | none => calls
  | some caller => { calls with callers := calls.callers.set id (change caller) }

def evictIf (calls : Calls Λ) (address : Address)
    (condition : Issued Λ → Bool) : Calls Λ :=
  let (evicted, cache) := calls.cache.evictIf address condition
  { calls with
    cache := cache
    history := calls.history ++ if evicted then [.evicted address] else [] }

def step (calls : Calls Λ) : Action Λ → Calls Λ
  | .call address policy live => calls.call address policy live
  | .turn id => calls.turn id
  | .connected id attempt => calls.answer id (·.connected attempt)
  | .resumed id => calls.answer id (·.resumed)
  | .judged id live => calls.answer id (·.judged live)
  | .get address =>
      { calls with
        history :=
          calls.history ++ [.looked address (calls.cache.get? address)] }
  | .evict address link =>
      calls.evictIf address fun cached => cached.serial == link.serial
  | .evictIf address condition => calls.evictIf address condition
  | .clear =>
      { calls with
        cache := calls.cache.clear
        history := calls.history ++ [.cleared] }

def run (calls : Calls Λ) (actions : List (Action Λ)) : Calls Λ :=
  actions.foldl step calls

/-- The callers for which a connector is at work on an address. -/
def connecting (calls : Calls Λ) (address : Address) : List (Caller Λ) :=
  calls.callers.filter fun caller =>
    caller.address = address ∧ caller.phase matches .connecting _

end Calls

end RemoteMessaging
