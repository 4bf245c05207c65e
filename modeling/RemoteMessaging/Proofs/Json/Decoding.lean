import Mathlib.Data.List.Basic
import RemoteMessaging.Proofs.Json.Reading
import RemoteMessaging.Proofs.Json.Records

/-!
# Decoding what was encoded

Numbers and records are decoded from the values that they are encoded to, and so are
tagged values of moderate depth.  All these values have a text.
-/

namespace RemoteMessaging.Json

theorem isDigits_decimal (n : Nat) : IsDigits (Text.decimal n) := by
  refine ⟨Text.decimal_ne_nil n, fun c member => ?_⟩
  rw [isDigit, Text.isSome_digitValue?]
  exact Text.isDigit_of_mem_decimal member

theorem wellFormed_ofNat (n : Nat) : (ofNat n).WellFormed := by
  refine .number _ ⟨isDigits_decimal n, ?_, ?_, ?_⟩
  · intro zero
    obtain rfl := Text.eq_zero_of_head?_decimal zero
    decide
  · intro digits absent
    exact nomatch absent
  · intro exponent absent
    exact nomatch absent

theorem wellFormed_ofOption {value : Option Json}
    (present : ∀ content ∈ value, content.WellFormed) :
    (ofOption value).WellFormed := by
  cases value with
  | none => exact .null
  | some content => exact present content rfl

theorem wellFormed_ofMembers {members : List (String × Json)}
    (each : ∀ member ∈ members, member.2.WellFormed) :
    (ofMembers members).WellFormed := by
  refine .object _ fun member known => ?_
  obtain ⟨source, within, rfl⟩ := List.mem_map.mp known
  exact each source within

theorem digitsValue_eq {digits : List Char}
    (all : ∀ c ∈ digits, c.isDigit = true) :
    digitsValue digits = Nat.ofDigitChars 10 digits 0 := by
  refine List.foldl_ext _ _ 0 fun value c member => ?_
  rw [Text.digitValue?_of_isDigit (all c member), Option.getD_some]

theorem digitsValue_decimal (n : Nat) : digitsValue (Text.decimal n) = n := by
  rw [digitsValue_eq fun c => Text.isDigit_of_mem_decimal]
  exact Nat.ofDigitChars_toDigits (by decide) (by decide)

theorem toNat?_ofNat {limit n : Nat} (within : n ≤ limit) :
    (ofNat n).toNat? limit = some n := by
  simp [ofNat, toNat?, Number.toNat?, digitsValue_decimal, within]

theorem toUInt16?_ofNat (n : UInt16) : (ofNat n.toNat).toUInt16? = some n := by
  rw [toUInt16?, toNat?_ofNat (Nat.le_sub_one_of_lt n.toNat_lt_size),
    Option.map_some, UInt16.ofNat_toNat]

theorem toUInt32?_ofNat (n : UInt32) : (ofNat n.toNat).toUInt32? = some n := by
  rw [toUInt32?, toNat?_ofNat (Nat.le_sub_one_of_lt n.toNat_lt_size),
    Option.map_some, UInt32.ofNat_toNat]

theorem toUInt64?_ofNat (n : UInt64) : (ofNat n.toNat).toUInt64? = some n := by
  rw [toUInt64?, toNat?_ofNat (Nat.le_sub_one_of_lt n.toNat_lt_size),
    Option.map_some, UInt64.ofNat_toNat]

theorem toOption?_ofText (text : Option String) :
    (ofOption (text.map .ofText)).toOption? toText? = some text := by
  cases text <;> rfl

theorem fields?_ofMembers {names : List String} {members : List (String × Json)}
    (keys : members.map Prod.fst = names) (distinct : names.Nodup) :
    (ofMembers members).fields? names = some members := by
  have all : known names members = members :=
    List.filter_eq_self.mpr fun member found =>
      decide_eq_true (keys ▸ List.mem_map_of_mem found)
  refine (decodes_record names _ _).mpr (record_ofMembers_iff.mpr ⟨?_, all.symm⟩)
  rwa [← nodup_known_iff, all, keys]

theorem le_ofDigitChars (digits : List Char) (value : Nat) :
    value ≤ Nat.ofDigitChars 10 digits value := by
  induction digits generalizing value with
  | nil => exact Nat.le_refl value
  | cons c digits induction =>
      rw [Nat.ofDigitChars_cons]
      exact Nat.le_trans (by omega) (induction _)

theorem significand_eq {digits : List Char} {value : Nat}
    (all : ∀ c ∈ digits, c.isDigit = true)
    (small : Nat.ofDigitChars 10 digits value < UInt64.size) :
    significand value digits = (Nat.ofDigitChars 10 digits value, 0) := by
  induction digits generalizing value with
  | nil => rfl
  | cons c digits induction =>
      rw [Nat.ofDigitChars_cons] at small ⊢
      have next := Nat.lt_of_le_of_lt (le_ofDigitChars digits _) small
      rw [significand, Text.digitValue?_of_isDigit (all c List.mem_cons_self)]
      simp only [Option.getD_some, if_pos next]
      exact induction (fun other member =>
        all other (List.mem_cons_of_mem _ member)) small

theorem significand_decimal {n : Nat} (small : n < UInt64.size) :
    significand 0 (Text.decimal n) = (n, 0) := by
  have value : Nat.ofDigitChars 10 (Text.decimal n) 0 = n :=
    Nat.ofDigitChars_toDigits (by decide) (by decide)
  rw [significand_eq fun c => Text.isDigit_of_mem_decimal, value]
  rwa [value]

theorem nearestDouble_of_lt {n : Nat} (small : n < Nat.pow 2 53) :
    nearestDouble n = n := by
  have unit : n.log2 + 1 - 53 = 0 := by
    by_cases zero : n = 0
    · subst zero
      decide
    · have := (Nat.log2_lt zero).mpr small
      omega
  simp [nearestDouble, unit, Nat.mod_one]

theorem isMeaningful_ofNat {n : Nat} (small : n < UInt32.size) :
    (ofNat n).isMeaningful = true := by
  have range : n < UInt64.size := Nat.lt_trans small (by decide)
  have exact : nearestDouble n = n :=
    nearestDouble_of_lt (Nat.lt_trans small (by decide))
  have one : nearestDouble 1 = 1 := nearestDouble_of_lt (by decide)
  have finite : UInt32.size ≤ infinityThreshold := by decide +kernel
  have within : n < infinityThreshold := Nat.lt_of_lt_of_le small finite
  simp only [ofNat, isMeaningful, Number.isFinite, significand_decimal range]
  simp [significand, exact, one, within]

theorem depthItems_le_iff {items : List Json} {bound : Nat} :
    depthItems items ≤ bound ↔ ∀ item ∈ items, item.depth ≤ bound := by
  induction items with
  | nil => simp [depthItems]
  | cons item items induction =>
      rw [depthItems, Nat.max_le, induction, List.forall_mem_cons]

theorem depthMembers_le_iff {members : List (Option String × Json)} {bound : Nat} :
    depthMembers members ≤ bound ↔ ∀ member ∈ members, member.2.depth ≤ bound := by
  induction members with
  | nil => simp [depthMembers]
  | cons member members induction =>
      rw [depthMembers, Nat.max_le, induction, List.forall_mem_cons]

/-- A value that may stand in a tagged record: a meaningful scalar, or an array of
such. -/
structure Plain (value : Json) : Prop where
  wellFormed : value.WellFormed
  meaningful : value.isMeaningful = true
  depth : value.depth ≤ 1

theorem plain_ofText (text : String) : Plain (ofText text) :=
  ⟨.string _, rfl, Nat.zero_le 1⟩

theorem plain_ofOption (text : Option String) :
    Plain (ofOption (text.map .ofText)) := by
  cases text with
  | none => exact ⟨.null, rfl, Nat.zero_le 1⟩
  | some text => exact plain_ofText text

theorem plain_ofNat {n : Nat} (small : n < UInt32.size) : Plain (ofNat n) :=
  ⟨wellFormed_ofNat n, isMeaningful_ofNat small, Nat.zero_le 1⟩

theorem plain_array {items : List Json} (each : ∀ item ∈ items, Plain item)
    (flat : ∀ item ∈ items, item.depth ≤ 0) : Plain (array items) := by
  refine ⟨.array _ fun item known => (each item known).wellFormed, ?_, ?_⟩
  · rw [isMeaningful, areMeaningful_eq_all, List.all_eq_true]
    exact fun item known => (each item known).meaningful
  · rw [depth]
    exact Nat.add_le_add_left (depthItems_le_iff.mpr flat) 1

theorem isMeaningful_ofMembers {members : List (String × Json)}
    (plain : ∀ member ∈ members, Plain member.2) :
    (ofMembers members).isMeaningful = true := by
  rw [ofMembers, isMeaningful, areMeaningfulMembers_eq_all, List.all_eq_true,
    List.forall_mem_map]
  intro member known
  rw [(plain member known).meaningful]
  rfl

theorem depth_ofMembers {members : List (String × Json)}
    (plain : ∀ member ∈ members, Plain member.2) :
    (ofMembers members).depth ≤ 2 := by
  have each : depthMembers
      (members.map fun member => (some member.1, member.2)) ≤ 1 := by
    rw [depthMembers_le_iff, List.forall_mem_map]
    exact fun member known => (plain member known).depth
  rw [ofMembers, depth]
  omega

theorem tagged?_ofMembers (names : List String) {tag name : String}
    {members : List (String × Json)} {outer : Nat}
    (keys : members.map Prod.fst = names) (new : tag ∉ names)
    (plain : ∀ member ∈ members, Plain member.2) (within : outer + 2 ≤ maxDepth) :
    (ofMembers ((tag, ofText name) :: members)).tagged? tag outer =
      some (name, ofMembers members) := by
  have each : ∀ member ∈ (tag, ofText name) :: members, Plain member.2 :=
    List.forall_mem_cons.mpr ⟨plain_ofText name, plain⟩
  have shallow := depth_ofMembers each
  have other : ∀ member ∈ members, member.1 ≠ tag := by
    rintro member known rfl
    exact new (keys ▸ List.mem_map_of_mem known)
  have tags : members.filter (·.1 = tag) = [] := by simpa using other
  have others : members.filter (·.1 ≠ tag) = members := by simpa using other
  have tagged : Tagged tag (ofMembers ((tag, ofText name) :: members)) name
      (ofMembers (((tag, ofText name) :: members).filter (·.1 ≠ tag))) :=
    .object (by simp [tags])
  rw [List.filter_cons_of_neg (by simp), others] at tagged
  exact tagged?_eq_some_iff.mpr ⟨⟨isMeaningful_ofMembers each, by omega⟩, tagged⟩

end RemoteMessaging.Json
