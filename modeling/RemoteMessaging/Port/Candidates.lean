import RemoteMessaging.Ip.Basic

/-!
# Candidate ports

A sequence of ports to try, consumed one by one.  A span counts in 32 bits, so
it can end just above the last port; the length of what is left is known at any
time.
-/

namespace RemoteMessaging

/-- The ports still to come. -/
inductive PortCandidates where
  /-- The numbers from `next` up to but excluding `stop`. -/
  | span (next stop : UInt32)
  | ports (rest : List Port)
  deriving DecidableEq, Repr

namespace PortCandidates

def remaining : PortCandidates → Nat
  | .span next stop => stop.toNat - next.toNat
  | .ports rest => rest.length

/-- Takes the next port.  A number of a span that is no port gives none. -/
def next : PortCandidates → Option Port × PortCandidates
  | .span number stop =>
      if number < stop then
        (if number.toNat < UInt16.size then some number.toUInt16 else none,
          .span (number + 1) stop)
      else (none, .span number stop)
  | .ports [] => (none, .ports [])
  | .ports (port :: rest) => (some port, .ports rest)

theorem remaining_of_next {candidates rest : PortCandidates} {port : Port}
    (step : candidates.next = (some port, rest)) :
    candidates.remaining = rest.remaining + 1 := by
  cases candidates with
  | span number stop =>
      simp only [next] at step
      split at step
      · rename_i less
        obtain ⟨-, rfl⟩ := Prod.mk.inj step
        have less := UInt32.lt_iff_toNat_lt.mp less
        have bound := UInt32.toNat_lt stop
        have successor : (number + 1).toNat = number.toNat + 1 := by
          rw [UInt32.toNat_add]
          exact Nat.mod_eq_of_lt (by simp; omega)
        simp only [remaining, successor]
        omega
      · simp at step
  | ports list =>
      cases list with
      | nil => simp [next] at step
      | cons first tail =>
          obtain ⟨-, rfl⟩ := Prod.mk.inj step
          simp [remaining]

def toList (candidates : PortCandidates) : List Port :=
  match step : candidates.next with
  | (none, _) => []
  | (some port, rest) =>
      have := remaining_of_next step
      port :: rest.toList
  termination_by candidates.remaining

@[simp] theorem toList_ports (rest : List Port) :
    (ports rest).toList = rest := by
  induction rest with
  | nil => simp [toList, next]
  | cons port rest induction =>
      rw [toList]
      simpa [next] using induction

def skip : Nat → PortCandidates → Nat × PortCandidates
  | 0, candidates => (0, candidates)
  | count + 1, candidates =>
      let (port, rest) := candidates.next
      let (given, rest) := skip count rest
      ((if port.isSome then 1 else 0) + given, rest)

/-- The announced bounds on the number of ports to come. -/
def sizeHint (candidates : PortCandidates) : Nat × Option Nat :=
  (candidates.remaining, some candidates.remaining)

end PortCandidates

end RemoteMessaging
