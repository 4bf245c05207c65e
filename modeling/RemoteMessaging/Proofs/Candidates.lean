import RemoteMessaging.Port.Allocator

/-!
# The candidates of an allocator

A span yields the numbers from its start up to its end in order.  So a port is among
the candidates of an allocator exactly if the allocator offers it, and at the upper
end of the range of ports nothing wraps around to zero.
-/

namespace RemoteMessaging

namespace PortCandidates

theorem toList_of_ended {candidates rest : PortCandidates}
    (ended : candidates.next = (none, rest)) : candidates.toList = [] := by
  rw [toList]
  split
  · rfl
  · rename_i more
    simp [ended] at more

theorem toList_of_next {candidates rest : PortCandidates} {port : Port}
    (more : candidates.next = (some port, rest)) :
    candidates.toList = port :: rest.toList := by
  rw [toList]
  split
  · rename_i ended
    simp [more] at ended
  · rename_i other _ eq
    rw [more] at eq
    obtain ⟨same, rfl⟩ := Prod.mk.inj eq
    rw [Option.some.inj same]

theorem toList_span {number stop : UInt32} (bounded : stop.toNat ≤ UInt16.size) :
    (span number stop).toList =
      (List.range' number.toNat (stop.toNat - number.toNat)).map UInt16.ofNat := by
  generalize left : stop.toNat - number.toNat = count
  induction count generalizing number with
  | zero =>
      have ended : ¬ number < stop := by
        rw [UInt32.lt_iff_toNat_lt]
        omega
      exact toList_of_ended (by rw [next, if_neg ended])
  | succ count induction =>
      have below : number < stop := by
        rw [UInt32.lt_iff_toNat_lt]
        omega
      have fits : number.toNat < UInt16.size := by omega
      have successor : (number + 1).toNat = number.toNat + 1 := by
        have small : number.toNat + 1 < 2 ^ 32 := by
          have size : UInt16.size = 2 ^ 16 := rfl
          omega
        rw [UInt32.toNat_add]
        exact Nat.mod_eq_of_lt small
      have more : (span number stop).next =
          (some number.toUInt16, span (number + 1) stop) := by
        rw [next, if_pos below, if_pos fits]
      rw [toList_of_next more, induction (by omega), successor, List.range'_succ,
        List.map_cons]
      rfl

end PortCandidates

namespace PortAllocator

/-- The ports that an allocator stands for. -/
def Offers : PortAllocator → Port → Prop
  | .range first count, port =>
      first.toNat ≤ port.toNat ∧ port.toNat < first.toNat + count.toNat
  | .list ports, port => port ∈ ports
  | .set ports, port => port ∈ ports.members

theorem toNat_saturatingAdd (left right : UInt32) :
    (saturatingAdd left right).toNat =
      min (left.toNat + right.toNat) (UInt32.size - 1) := by
  unfold saturatingAdd
  split
  · rename_i fits
    rw [UInt32.toNat_add, Nat.mod_eq_of_lt fits]
    omega
  · rename_i large
    have most : (0xffffffff : UInt32).toNat = UInt32.size - 1 := rfl
    omega

theorem toNat_min (left right : UInt32) :
    (min left right).toNat = min left.toNat right.toNat := by
  change (if left ≤ right then left else right).toNat = _
  split
  · rename_i le
    exact (Nat.min_eq_left (UInt32.le_iff_toNat_le.mp le)).symm
  · rename_i gt
    rw [UInt32.le_iff_toNat_le] at gt
    omega

theorem toList_candidates_range (first : Port) (count : UInt32) :
    (range first count).candidates.toList =
      (List.range' first.toNat
        (min (first.toNat + count.toNat) UInt16.size - first.toNat)).map
          UInt16.ofNat := by
  have stop : (min (saturatingAdd first.toUInt32 count) 65536).toNat =
      min (first.toNat + count.toNat) UInt16.size := by
    have last : (65536 : UInt32).toNat = UInt16.size := rfl
    have size : UInt16.size ≤ UInt32.size - 1 := by decide
    rw [toNat_min, toNat_saturatingAdd, UInt16.toNat_toUInt32, last]
    omega
  rw [candidates, PortCandidates.toList_span (by omega), stop]
  rfl

/-- The candidates of an allocator are the ports that it stands for. -/
theorem mem_candidates_iff {allocator : PortAllocator} {port : Port} :
    port ∈ allocator.candidates.toList ↔ allocator.Offers port := by
  cases allocator with
  | range first count =>
      have small := port.toNat_lt
      rw [toList_candidates_range, List.mem_map, Offers]
      constructor
      · rintro ⟨number, member, rfl⟩
        rw [List.mem_range'_1] at member
        rw [UInt16.toNat_ofNat_of_lt' (by omega)]
        omega
      · rintro ⟨low, high⟩
        refine ⟨port.toNat, List.mem_range'_1.mpr ⟨low, ?_⟩, UInt16.ofNat_toNat⟩
        have size : UInt16.size = 2 ^ 16 := rfl
        omega
  | list ports => rw [candidates, PortCandidates.toList_ports, Offers]
  | set ports => rw [candidates, PortCandidates.toList_ports, Offers]

end PortAllocator

end RemoteMessaging
