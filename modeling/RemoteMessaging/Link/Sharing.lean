import RemoteMessaging.Link.Reference

/-!
# Threads at a reference

Any number of threads use one reference.  A thread that wins the claim holds a
permit to connect, which it completes with a link or drops, be it after a failed
attempt or while it panics.  Any thread may wait until an attempt is settled, and
may do so several times.

Each step takes the lock of the reference, or reads or writes the link, once.  A
step that is not possible leaves everything as it is.
-/

namespace RemoteMessaging

/-- Where a thread stands, mostly just before a step on the reference. -/
inductive Sharing.Phase (Λ : Type) where
  /-- In none of the operations that take several steps. -/
  | free
  /-- Completing its permit: a link was offered, one is stored, and the state is
  about to change. -/
  | completing (offered stored : Issued Λ)
  /-- Waiting: about to look whether an attempt is under way. -/
  | awaiting
  /-- Waiting: asleep, or woken and about to look again. -/
  | asleep
  /-- Waiting: no attempt is under way, about to look for the link. -/
  | rereading
  deriving DecidableEq, Repr

/-- What happens at a reference. -/
inductive Sharing.Happening (Λ : Type) where
  | stored (link : Issued Λ)
  | completed (offered returned : Issued Λ)
  | waited (thread : CallerId) (found : Option (Issued Λ))
  deriving DecidableEq, Repr

/-- A reference with the threads that use it. -/
structure Sharing (Λ : Type) where
  reference : Reference Λ
  /-- Who holds a permit that is not settled. -/
  permits : List CallerId
  phase : CallerId → Sharing.Phase Λ
  history : List (Sharing.Happening Λ)

/-- A step of a thread. -/
inductive Sharing.Action (Λ : Type) where
  | claim (thread : CallerId)
  | store (thread : CallerId) (link : Issued Λ)
  | publish (thread : CallerId)
  | drop (thread : CallerId)
  | wait (thread : CallerId)
  | check (thread : CallerId)
  | wake (thread : CallerId)
  | reread (thread : CallerId)
  | look (thread : CallerId)
  deriving DecidableEq, Repr

namespace Sharing

variable {Λ : Type}

def start : Sharing Λ := ⟨.new, [], fun _ => .free, []⟩

def enter (sharing : Sharing Λ) (thread : CallerId) (phase : Phase Λ) :
    Sharing Λ :=
  { sharing with
    phase := fun other => if other = thread then phase else sharing.phase other }

def note (sharing : Sharing Λ) (happenings : List (Happening Λ)) : Sharing Λ :=
  { sharing with history := sharing.history ++ happenings }

def claim (sharing : Sharing Λ) (thread : CallerId) : Sharing Λ :=
  match sharing.phase thread with
  | .free =>
      let (won, reference) := sharing.reference.claim
      { sharing with
        reference := reference
        permits := if won then thread :: sharing.permits else sharing.permits }
  | _ => sharing

/-- A thread with a permit stores a link, unless there is one already. -/
def store (sharing : Sharing Λ) (thread : CallerId) (link : Issued Λ) :
    Sharing Λ :=
  match sharing.phase thread with
  | .free =>
      if thread ∈ sharing.permits then
        let (stored, reference) := sharing.reference.store link
        ({ sharing with reference := reference }.enter thread
          (.completing link stored)).note
            (if sharing.reference.stored.isNone then [.stored link] else [])
      else sharing
  | _ => sharing

/-- Settles the permit of a thread, which wakes all sleepers. -/
def settle (sharing : Sharing Λ) (thread : CallerId) (next : LinkState) :
    Sharing Λ :=
  { sharing with
    reference := sharing.reference.settle next
    permits := sharing.permits.erase thread }

/-- A thread that has stored its link settles its permit. -/
def publish (sharing : Sharing Λ) (thread : CallerId) : Sharing Λ :=
  match sharing.phase thread with
  | .completing offered stored =>
      ((sharing.settle thread .established).enter thread .free).note
        [.completed offered stored]
  | _ => sharing

def drop (sharing : Sharing Λ) (thread : CallerId) : Sharing Λ :=
  match sharing.phase thread with
  | .free =>
      if thread ∈ sharing.permits then sharing.settle thread .idle else sharing
  | _ => sharing

def wait (sharing : Sharing Λ) (thread : CallerId) : Sharing Λ :=
  match sharing.phase thread with
  | .free => sharing.enter thread .awaiting
  | _ => sharing

def check (sharing : Sharing Λ) (thread : CallerId) : Sharing Λ :=
  match sharing.phase thread with
  | .awaiting =>
      let (asleep, reference) := sharing.reference.await thread
      { sharing with reference := reference }.enter thread
        (if asleep then .asleep else .rereading)
  | _ => sharing

def wake (sharing : Sharing Λ) (thread : CallerId) : Sharing Λ :=
  match sharing.phase thread with
  | .asleep =>
      if thread ∈ sharing.reference.sleepers then sharing
      else sharing.enter thread .awaiting
  | _ => sharing

def reread (sharing : Sharing Λ) (thread : CallerId) : Sharing Λ :=
  match sharing.phase thread with
  | .rereading =>
      (sharing.enter thread .free).note
        [.waited thread sharing.reference.stored]
  | _ => sharing

def step (sharing : Sharing Λ) : Action Λ → Sharing Λ
  | .claim thread => sharing.claim thread
  | .store thread link => sharing.store thread link
  | .publish thread => sharing.publish thread
  | .drop thread => sharing.drop thread
  | .wait thread => sharing.wait thread
  | .check thread => sharing.check thread
  | .wake thread => sharing.wake thread
  | .reread thread => sharing.reread thread
  | .look _ => sharing

def run (sharing : Sharing Λ) (actions : List (Action Λ)) : Sharing Λ :=
  actions.foldl step sharing

end Sharing

end RemoteMessaging
