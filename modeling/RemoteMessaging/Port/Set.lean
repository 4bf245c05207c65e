import RemoteMessaging.Ip.Basic

/-!
# Sets of ports

A set is kept as its members in ascending order, so equal sets are equal values
and going through a set meets each port once.
-/

namespace RemoteMessaging

/-- A finite set of ports. -/
structure PortSet where
  members : List Port
  ascending : members.Pairwise (· < ·)
  deriving DecidableEq, Repr

namespace PortSet

/-- Puts a port into its place in an ascending list. -/
def place (port : Port) : List Port → List Port
  | [] => [port]
  | first :: rest =>
      if port < first then port :: first :: rest
      else if port = first then first :: rest
      else first :: place port rest

theorem mem_place {port other : Port} {ports : List Port} :
    other ∈ place port ports ↔ other = port ∨ other ∈ ports := by
  induction ports with
  | nil => simp [place]
  | cons first rest induction =>
      simp only [place]
      split
      · simp
      · split
        · rename_i equal
          simp [equal]
        · simp only [List.mem_cons, induction]
          constructor
          · rintro (h | h | h) <;> simp [h]
          · rintro (h | h | h) <;> simp [h]

theorem ascending_place {port : Port} {ports : List Port}
    (ascending : ports.Pairwise (· < ·)) :
    (place port ports).Pairwise (· < ·) := by
  induction ports with
  | nil => simp [place]
  | cons first rest induction =>
      obtain ⟨below, ascendingRest⟩ := List.pairwise_cons.mp ascending
      simp only [place]
      split
      · rename_i less
        refine List.pairwise_cons.mpr ⟨?_, ascending⟩
        intro other member
        rcases List.mem_cons.mp member with equal | member
        · exact equal ▸ less
        · exact UInt16.lt_trans less (below other member)
      · split
        · exact ascending
        · rename_i notLess notEqual
          refine List.pairwise_cons.mpr ⟨?_, induction ascendingRest⟩
          intro other member
          rcases mem_place.mp member with equal | member
          · subst equal
            have above : first.toNat ≤ other.toNat := by
              have := UInt16.not_lt.mp notLess
              exact UInt16.le_iff_toNat_le.mp this
            have apart : first.toNat ≠ other.toNat := by
              intro same
              exact notEqual (UInt16.toNat_inj.mp same).symm
            exact UInt16.lt_iff_toNat_lt.mpr (by omega)
          · exact below other member

def empty : PortSet := ⟨[], List.Pairwise.nil⟩

def insert (port : Port) (set : PortSet) : PortSet :=
  ⟨place port set.members, ascending_place set.ascending⟩

def ofList (ports : List Port) : PortSet :=
  ports.foldr insert empty

end PortSet

end RemoteMessaging
