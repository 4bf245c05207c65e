import RemoteMessaging.Port.Sequences
import RemoteMessaging.Proofs.Candidates

/-!
# Candidates one by one

A step of a sequence gives the first of the ports that are left, and after the last
port it gives nothing and changes nothing.  So the number of ports to come is known
at any time, and what a sequence gives depends on nothing but its own steps.
-/

namespace RemoteMessaging

namespace PortCandidates

def Bounded : PortCandidates → Prop
  | .span _ stop => stop.toNat ≤ UInt16.size
  | .ports _ => True

theorem next_cases {candidates : PortCandidates} (bounded : candidates.Bounded) :
    candidates.toList = [] ∧ candidates.next = (none, candidates) ∨
      ∃ port rest, candidates.next = (some port, rest) ∧
        candidates.toList = port :: rest.toList ∧ rest.Bounded := by
  cases candidates with
  | span number stop =>
      by_cases less : number < stop
      · have fits : number.toNat < UInt16.size :=
          Nat.lt_of_lt_of_le (UInt32.lt_iff_toNat_lt.mp less) bounded
        have more : (span number stop).next =
            (some number.toUInt16, span (number + 1) stop) := by
          rw [next, if_pos less, if_pos fits]
        exact .inr ⟨_, _, more, toList_of_next more, bounded⟩
      · have ended : (span number stop).next = (none, span number stop) := by
          rw [next, if_neg less]
        exact .inl ⟨toList_of_ended ended, ended⟩
  | ports rest =>
      cases rest with
      | nil => exact .inl ⟨toList_of_ended rfl, rfl⟩
      | cons port rest => exact .inr ⟨port, ports rest, rfl, toList_of_next rfl, trivial⟩

theorem length_toList {candidates : PortCandidates} (bounded : candidates.Bounded) :
    candidates.toList.length = candidates.remaining := by
  cases candidates with
  | span number stop =>
      rw [toList_span bounded, List.length_map, List.length_range', remaining]
  | ports rest => rw [toList_ports, remaining]

end PortCandidates

namespace PortAllocator

/-- The ports of an allocator in the order in which they are tried. -/
def Lists : PortAllocator → List Port → Prop
  | .range first count, ports =>
      ports.map UInt16.toNat =
        List.range' first.toNat
          (min (first.toNat + count.toNat) UInt16.size - first.toNat)
  | .list given, ports => ports = given
  | .set given, ports =>
      ports.Pairwise (· < ·) ∧ ∀ port, port ∈ ports ↔ port ∈ given.members

theorem bounded_candidates (allocator : PortAllocator) :
    allocator.candidates.Bounded := by
  cases allocator with
  | range first count =>
      have last : (65536 : UInt32).toNat = UInt16.size := rfl
      rw [candidates, PortCandidates.Bounded, toNat_min, last]
      exact Nat.min_le_right _ _
  | list ports => trivial
  | set ports => trivial

theorem lists_candidates (allocator : PortAllocator) :
    allocator.Lists allocator.candidates.toList := by
  cases allocator with
  | range first count =>
      rw [Lists, toList_candidates_range, List.map_map]
      refine (List.map_congr_left fun number member => ?_).trans (List.map_id _)
      rw [List.mem_range'_1] at member
      exact UInt16.toNat_ofNat_of_lt' (by omega)
  | list ports => rw [Lists, candidates, PortCandidates.toList_ports]
  | set ports =>
      rw [Lists, candidates, PortCandidates.toList_ports]
      exact ⟨ports.ascending, fun _ => Iff.rfl⟩

end PortAllocator

namespace PortSequence

/-- A sequence has taken so many steps through some ports. -/
structure Follows (sequence : PortSequence) (ports : List Port) (steps : Nat) :
    Prop where
  bounded : sequence.left.Bounded
  left : sequence.left.toList = ports.drop steps
  given : sequence.given = (List.range steps).map (ports[·]?)

section Follows

variable {sequence : PortSequence} {ports : List Port} {steps : Nat}

theorem follows_start (allocator : PortAllocator) :
    (start allocator).Follows allocator.candidates.toList 0 :=
  ⟨allocator.bounded_candidates, rfl, rfl⟩

theorem Follows.next (follows : sequence.Follows ports steps) :
    sequence.left.next.1 = ports[steps]? ∧
      sequence.left.next.2.Bounded ∧
      sequence.left.next.2.toList = ports.drop (steps + 1) := by
  have first : ports[steps]? = sequence.left.toList.head? := by
    rw [follows.left, List.head?_drop]
  have others : ports.drop (steps + 1) = sequence.left.toList.tail := by
    rw [follows.left, List.tail_drop]
  rw [first, others]
  rcases PortCandidates.next_cases follows.bounded with
    ⟨empty, ended⟩ | ⟨port, rest, more, cons, bounded⟩
  · rw [ended, empty]
    exact ⟨rfl, follows.bounded, rfl⟩
  · rw [more, cons]
    exact ⟨rfl, bounded, rfl⟩

theorem Follows.advance (follows : sequence.Follows ports steps) :
    sequence.advance.Follows ports (steps + 1) := by
  obtain ⟨port, bounded, left⟩ := follows.next
  refine ⟨bounded, left, ?_⟩
  rw [List.range_succ, List.map_append, ← follows.given, List.map_singleton, ← port]
  rfl

theorem Follows.sizeHint (follows : sequence.Follows ports steps) :
    sequence.left.sizeHint = (ports.length - steps, some (ports.length - steps)) := by
  have remaining : sequence.left.remaining = ports.length - steps := by
    rw [← PortCandidates.length_toList follows.bounded, follows.left, List.length_drop]
  rw [PortCandidates.sizeHint, remaining]

/-- A sequence takes its own steps only, whatever happens to the others. -/
theorem Follows.run {sequences : List PortSequence} {id : Nat}
    (follows : sequence.Follows ports steps) (found : sequences[id]? = some sequence)
    (actions : List Action) :
    ∃ last, (PortSequence.run sequences actions)[id]? = some last ∧
      last.Follows ports (steps + actions.count (.advance id)) := by
  induction actions generalizing sequences sequence steps with
  | nil => exact ⟨sequence, found, follows⟩
  | cons action actions induction =>
      cases action with
      | start allocator =>
          have found' : (step sequences (.start allocator))[id]? = some sequence := by
            rw [step, List.getElem?_append_left (List.getElem?_eq_some_iff.mp found).1,
              found]
          rw [List.count_cons_of_ne (by simp)]
          exact induction follows found'
      | advance other =>
          by_cases same : other = id
          · subst same
            have found' : (step sequences (.advance other))[other]? =
                some sequence.advance := by
              rw [step, List.getElem?_modify_eq, found]
              rfl
            rw [List.count_cons_self, Nat.add_comm _ 1, ← Nat.add_assoc]
            exact induction follows.advance found'
          · have found' : (step sequences (.advance other))[id]? = some sequence := by
              rw [step, List.getElem?_modify_ne _ _ same, found]
            rw [List.count_cons_of_ne (by simpa using same)]
            exact induction follows found'

end Follows

/-- However sequences of candidates are consumed side by side, each gives the ports of
its allocator one by one in their order, and nothing any more when they are used up.
At any time its announced length is exact: it is the number of the ports less that of
the sequence's own steps. -/
theorem gives_ports_in_order (earlier later : List Action)
    (allocator : PortAllocator) :
    let id := (run [] earlier).length
    let steps := later.count (.advance id)
    ∃ ports, allocator.Lists ports ∧ ∃ sequence,
      (run [] (earlier ++ .start allocator :: later))[id]? = some sequence ∧
      sequence.given = (List.range steps).map (ports[·]?) ∧
      sequence.left.next.1 = ports[steps]? ∧
      sequence.left.toList = ports.drop steps ∧
      sequence.left.sizeHint =
        (ports.length - steps, some (ports.length - steps)) := by
  intro id steps
  have begun : (run [] (earlier ++ [.start allocator]))[id]? =
      some (start allocator) := by
    simp [run, step, id]
  obtain ⟨sequence, found, follows⟩ := (follows_start allocator).run begun later
  rw [Nat.zero_add] at follows
  refine ⟨allocator.candidates.toList, allocator.lists_candidates, sequence, ?_,
    follows.given, follows.next.1, follows.left, follows.sizeHint⟩
  rw [← found]
  simp [run]

end PortSequence

end RemoteMessaging
