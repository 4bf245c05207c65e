import RemoteMessaging.Address
import RemoteMessaging.Link.Reference

/-!
# The cache of links

The cache maps each address to a reference.  A caller may hold on to a reference
after its entry has been removed, so references live on beside the entries, and
an entry names its reference.
-/

namespace RemoteMessaging

abbrev ReferenceId := Nat

/-- All references that were ever made, the entries of the moment, and the number
of links that have been issued. -/
structure LinkCache (Λ : Type) where
  references : List (Reference Λ)
  entries : List (Address × ReferenceId)
  issued : Nat
  deriving DecidableEq, Repr

namespace LinkCache

variable {Λ : Type}

def empty : LinkCache Λ := ⟨[], [], 0⟩

def reference (cache : LinkCache Λ) (id : ReferenceId) : Reference Λ :=
  cache.references[id]?.getD .new

def replace (cache : LinkCache Λ) (id : ReferenceId)
    (reference : Reference Λ) : LinkCache Λ :=
  { cache with references := cache.references.set id reference }

def issue (cache : LinkCache Λ) (link : Λ) : Issued Λ × LinkCache Λ :=
  (⟨cache.issued, link⟩, { cache with issued := cache.issued + 1 })

def find? (cache : LinkCache Λ) (address : Address) : Option ReferenceId :=
  cache.entries.lookup address

/-- The reference of an address, which is made if there is no entry. -/
def enter (cache : LinkCache Λ) (address : Address) :
    ReferenceId × LinkCache Λ :=
  match cache.find? address with
  | some id => (id, cache)
  | none =>
      let id := cache.references.length
      (id, { cache with
        references := cache.references ++ [.new]
        entries := (address, id) :: cache.entries })

def get? (cache : LinkCache Λ) (address : Address) : Option (Issued Λ) := do
  (cache.reference (← cache.find? address)).stored

/-- Removes the entry of an address if its link is there and satisfies a
condition. -/
def evictIf (cache : LinkCache Λ) (address : Address)
    (condition : Issued Λ → Bool) : Bool × LinkCache Λ :=
  if (cache.get? address).any condition then
    (true, { cache with
      entries := cache.entries.filter (·.1 ≠ address) })
  else (false, cache)

/-- Removes the entry of an address if it holds this very link. -/
def evict (cache : LinkCache Λ) (address : Address) (link : Issued Λ) :
    Bool × LinkCache Λ :=
  cache.evictIf address fun cached => cached.serial == link.serial

def links (cache : LinkCache Λ) : List (Issued Λ) :=
  cache.entries.filterMap fun entry => (cache.reference entry.2).stored

def clear (cache : LinkCache Λ) : LinkCache Λ :=
  { cache with entries := [] }

def size (cache : LinkCache Λ) : Nat :=
  cache.entries.length

def describe (cache : LinkCache Λ) : String :=
  Text.record "LinkCache" [("entries", toString cache.size)]

def claim (cache : LinkCache Λ) (id : ReferenceId) : Bool × LinkCache Λ :=
  let (won, reference) := (cache.reference id).claim
  (won, cache.replace id reference)

def store (cache : LinkCache Λ) (id : ReferenceId) (link : Λ) :
    Issued Λ × LinkCache Λ :=
  let (link, cache) := cache.issue link
  let (stored, reference) := (cache.reference id).store link
  (stored, cache.replace id reference)

def settle (cache : LinkCache Λ) (id : ReferenceId) (next : LinkState) :
    LinkCache Λ :=
  cache.replace id ((cache.reference id).settle next)

def await (cache : LinkCache Λ) (id : ReferenceId) (caller : CallerId) :
    Bool × LinkCache Λ :=
  let (asleep, reference) := (cache.reference id).await caller
  (asleep, cache.replace id reference)

/-- The whole end of a successful attempt: stores the link and settles. -/
def complete (cache : LinkCache Λ) (id : ReferenceId) (link : Λ) :
    Issued Λ × LinkCache Λ :=
  let (stored, cache) := cache.store id link
  (stored, cache.settle id .established)

end LinkCache

end RemoteMessaging
