import RemoteMessaging.Port.Allocator

/-!
# Sequences of candidates side by side

Any number of sequences, of the same or of different allocators, are consumed in any
order.  Each of them knows what it has given so far, and keeps its own place.

A step that is not possible leaves everything as it is.
-/

namespace RemoteMessaging

/-- A sequence of candidates that somebody consumes. -/
structure PortSequence where
  left : PortCandidates
  /-- What each step has given so far. -/
  given : List (Option Port)
  deriving DecidableEq, Repr

namespace PortSequence

/-- What somebody does with sequences, each of which is at the position of its
name. -/
inductive Action where
  | start (allocator : PortAllocator)
  | advance (id : Nat)
  deriving DecidableEq, Repr

def start (allocator : PortAllocator) : PortSequence :=
  ⟨allocator.candidates, []⟩

def advance (sequence : PortSequence) : PortSequence :=
  let (port, left) := sequence.left.next
  ⟨left, sequence.given ++ [port]⟩

def step (sequences : List PortSequence) : Action → List PortSequence
  | .start allocator => sequences ++ [start allocator]
  | .advance id => sequences.modify id advance

def run (sequences : List PortSequence) (actions : List Action) :
    List PortSequence :=
  actions.foldl step sequences

end PortSequence

end RemoteMessaging
