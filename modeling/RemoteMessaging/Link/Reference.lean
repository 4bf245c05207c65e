import RemoteMessaging.Text.Record

/-!
# References to links

A reference is the place of the one link to an address.  At most one caller at a
time may try to connect; all others sleep until the attempt is settled.  A link
that has been stored stays, and an established reference never changes again.

The operations here are the atomic steps: each takes the lock of the reference,
or reads or writes the link, once.
-/

namespace RemoteMessaging

/-- The progress of a reference towards its link. -/
inductive LinkState where
  | idle
  | connecting
  | established
  deriving DecidableEq, Repr

def LinkState.name : LinkState → String
  | .idle => "Idle"
  | .connecting => "Connecting"
  | .established => "Established"

/-- A link with a serial number.  Two links are the same exactly if their serial
numbers are, whatever else they hold. -/
structure Issued (Λ : Type) where
  serial : Nat
  link : Λ
  deriving DecidableEq, Repr

abbrev CallerId := Nat

/-- The place of a link. -/
structure Reference (Λ : Type) where
  state : LinkState
  stored : Option (Issued Λ)
  sleepers : List CallerId
  deriving DecidableEq, Repr

namespace Reference

variable {Λ : Type}

def new : Reference Λ := ⟨.idle, none, []⟩

/-- Tries to become the only one to connect. -/
def claim (reference : Reference Λ) : Bool × Reference Λ :=
  if reference.state = .idle then
    (true, { reference with state := .connecting })
  else (false, reference)

/-- Stores a link unless there is one, and gives the stored one. -/
def store (reference : Reference Λ) (link : Issued Λ) :
    Issued Λ × Reference Λ :=
  match reference.stored with
  | some stored => (stored, reference)
  | none => (link, { reference with stored := some link })

/-- Changes the state and wakes all sleepers. -/
def settle (reference : Reference Λ) (next : LinkState) : Reference Λ :=
  { reference with state := next, sleepers := [] }

/-- Goes to sleep if an attempt to connect is under way. -/
def await (reference : Reference Λ) (caller : CallerId) :
    Bool × Reference Λ :=
  if reference.state = .connecting then
    (true, { reference with sleepers := caller :: reference.sleepers })
  else (false, reference)

def describe (reference : Reference Λ) : String :=
  Text.record "LinkReference"
    [("state", reference.state.name),
      ("established", toString reference.stored.isSome)]

end Reference

end RemoteMessaging
