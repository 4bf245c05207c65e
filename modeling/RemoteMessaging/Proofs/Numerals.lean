import RemoteMessaging.Text.Numeral

/-!
# Decimal numerals

The digits of a number denote the number, and begin with zero only if it is zero.
What is read as a number is a numeral of it, which is digits behind an optional plus
sign, and each numeral is read whose number is within the range asked for.  Of any
other text it is known where reading stops, and why.
-/

namespace RemoteMessaging.Text

theorem digitValue?_of_isDigit {c : Char} (digit : c.isDigit = true) :
    digitValue? c = some (c.toNat - '0'.toNat) := by
  have within : '0' ≤ c ∧ c ≤ '9' := by
    simpa [Char.isDigit, Char.le_def] using digit
  rw [digitValue?, if_pos within]

theorem isSome_digitValue? (c : Char) : (digitValue? c).isSome = c.isDigit := by
  cases digit : c.isDigit with
  | true => rw [digitValue?_of_isDigit digit, Option.isSome_some]
  | false =>
      have outside : ¬ ('0' ≤ c ∧ c ≤ '9') := by
        rintro ⟨low, high⟩
        have within : c.isDigit = true := by
          simp only [Char.isDigit, ge_iff_le, Bool.and_eq_true, decide_eq_true_eq]
          exact ⟨low, high⟩
        rw [digit] at within
        exact Bool.noConfusion within
      rw [digitValue?, if_neg outside, Option.isSome_none]

theorem isDigit_of_mem_decimal {n : Nat} {c : Char} (member : c ∈ decimal n) :
    c.isDigit = true :=
  Nat.isDigit_of_mem_toDigits (by decide) (by decide) member

theorem decimal_ne_nil (n : Nat) : decimal n ≠ [] :=
  Nat.toDigits_ne_nil

theorem eq_zero_of_head?_decimal {n : Nat} (zero : (decimal n).head? = some '0') :
    n = 0 := by
  induction n using Nat.strongRecOn with
  | ind n induction =>
      rw [decimal, Nat.toDigits_eq_if (by decide)] at zero
      split at zero
      · rename_i small
        have first : ∀ n < 10, n.digitChar = '0' → n = 0 := by decide
        exact first n small (Option.some.inj zero)
      · rename_i large
        have same : (Nat.toDigits 10 (n / 10)).head? = some '0' := by
          rw [← zero, List.head?_append]
          cases digits : Nat.toDigits 10 (n / 10) with
          | nil => exact (decimal_ne_nil _ digits).elim
          | cons c rest => rfl
        have := induction (n / 10) (by omega) same
        omega

theorem le_ofDigitChars (digits : List Char) (value : Nat) :
    value ≤ Nat.ofDigitChars 10 digits value := by
  induction digits generalizing value with
  | nil => simp
  | cons c digits induction =>
      rw [Nat.ofDigitChars_cons]
      have := induction (10 * value + (c.toNat - '0'.toNat))
      omega

theorem readDigits_append {limit value : Nat} {digits : List Char}
    (all : ∀ c ∈ digits, c.isDigit = true)
    (within : Nat.ofDigitChars 10 digits value ≤ limit) (rest : List Char) :
    readDigits limit value (digits ++ rest) =
      readDigits limit (Nat.ofDigitChars 10 digits value) rest := by
  induction digits generalizing value with
  | nil => rfl
  | cons c digits induction =>
      obtain ⟨digit, others⟩ := List.forall_mem_cons.mp all
      rw [Nat.ofDigitChars_cons] at within ⊢
      have fits := Nat.le_trans (le_ofDigitChars digits _) within
      simp only [List.cons_append, readDigits, digitValue?_of_isDigit digit, if_pos fits]
      exact induction others within

theorem readDigits_of_within {limit value : Nat} {digits : List Char}
    (all : ∀ c ∈ digits, c.isDigit = true)
    (within : Nat.ofDigitChars 10 digits value ≤ limit) :
    readDigits limit value digits = .ok (Nat.ofDigitChars 10 digits value) := by
  have passed := readDigits_append all within []
  rwa [List.append_nil] at passed

theorem readNumeral_of_within {limit : Nat} {digits : List Char}
    (nonempty : digits ≠ []) (all : ∀ c ∈ digits, c.isDigit = true)
    (within : Nat.ofDigitChars 10 digits 0 ≤ limit) :
    readNumeral limit digits = .ok (Nat.ofDigitChars 10 digits 0) := by
  rw [← readDigits_of_within all within]
  cases digits with
  | nil => exact (nonempty rfl).elim
  | cons c rest =>
      have unsigned : c ≠ '+' := by
        rintro rfl
        exact absurd (all '+' List.mem_cons_self) (by decide)
      simp [readNumeral, unsigned]

/-- A text that is digits, at least one, behind an optional plus sign, and the number
that it denotes. -/
inductive Numeral : List Char → Nat → Prop where
  | unsigned {digits : List Char} (nonempty : digits ≠ [])
      (all : ∀ c ∈ digits, c.isDigit = true) :
      Numeral digits (Nat.ofDigitChars 10 digits 0)
  | signed {digits : List Char} (nonempty : digits ≠ [])
      (all : ∀ c ∈ digits, c.isDigit = true) :
      Numeral ('+' :: digits) (Nat.ofDigitChars 10 digits 0)

theorem Numeral.not_mem {text : List Char} {value : Nat} {c : Char}
    (numeral : Numeral text value) (digit : c.isDigit = false) (sign : c ≠ '+') :
    c ∉ text := by
  intro member
  cases numeral with
  | unsigned _ all => simp [all c member] at digit
  | signed _ all =>
      rcases List.mem_cons.mp member with same | member
      · exact sign same
      · simp [all c member] at digit

theorem numeral_of_readDigits {limit value number : Nat} {digits : List Char}
    (small : value ≤ limit) (read : readDigits limit value digits = .ok number) :
    (∀ c ∈ digits, c.isDigit = true) ∧
      Nat.ofDigitChars 10 digits value = number ∧ number ≤ limit := by
  induction digits generalizing value with
  | nil =>
      obtain rfl := Except.ok.inj read
      exact ⟨by simp, rfl, small⟩
  | cons c digits induction =>
      have known := isSome_digitValue? c
      rw [readDigits] at read
      split at read
      · simp at read
      · rename_i digit eq
        have first : c.isDigit = true := by rw [← known, eq, Option.isSome_some]
        rw [digitValue?_of_isDigit first, Option.some.injEq] at eq
        subst eq
        split at read
        · rename_i fits
          obtain ⟨others, denotes, within⟩ := induction fits read
          refine ⟨List.forall_mem_cons.mpr ⟨first, others⟩, ?_, within⟩
          rw [Nat.ofDigitChars_cons, denotes]
        · simp at read

theorem readNumeral_eq_ok_iff {limit number : Nat} {text : List Char} :
    readNumeral limit text = .ok number ↔ Numeral text number ∧ number ≤ limit := by
  constructor
  · intro read
    unfold readNumeral at read
    split at read
    · simp at read
    · simp at read
    · rename_i digits bare
      obtain ⟨all, rfl, within⟩ := numeral_of_readDigits limit.zero_le read
      exact ⟨.signed (fun empty => bare (by rw [empty])) all, within⟩
    · rename_i nonempty _ _
      obtain ⟨all, rfl, within⟩ := numeral_of_readDigits limit.zero_le read
      exact ⟨.unsigned nonempty all, within⟩
  · rintro ⟨numeral, within⟩
    cases numeral with
    | unsigned nonempty all => exact readNumeral_of_within nonempty all within
    | signed nonempty all =>
        obtain ⟨c, rest, rfl⟩ := List.exists_cons_of_ne_nil nonempty
        exact readDigits_of_within all within

theorem readUInt16_eq_ok_iff {number : UInt16} {text : List Char} :
    readUInt16 text = .ok number ↔ Numeral text number.toNat := by
  have small : number.toNat ≤ 65535 := Nat.le_of_lt_succ number.toNat_lt
  constructor
  · intro read
    cases known : readNumeral 65535 text with
    | error fault => simp [readUInt16, known, Except.map] at read
    | ok value =>
        obtain ⟨numeral, within⟩ := readNumeral_eq_ok_iff.mp known
        rw [readUInt16, known] at read
        obtain rfl := Except.ok.inj read
        rwa [UInt16.toNat_ofNat_of_lt' (Nat.lt_succ_of_le within)]
  · intro numeral
    rw [readUInt16, readNumeral_eq_ok_iff.mpr ⟨numeral, small⟩]
    exact congrArg Except.ok UInt16.ofNat_toNat

/-- The reading of digits stops at a character that is no digit, or at the one with
which their number leaves the limit. -/
inductive Stops (limit value : Nat) : List Char → NumeralFault → Prop where
  | foreign {digits rest : List Char} {c : Char}
      (all : ∀ c ∈ digits, c.isDigit = true)
      (within : Nat.ofDigitChars 10 digits value ≤ limit)
      (other : c.isDigit = false) : Stops limit value (digits ++ c :: rest) .foreign
  | large {digits rest : List Char} {c : Char}
      (all : ∀ c ∈ digits, c.isDigit = true)
      (within : Nat.ofDigitChars 10 digits value ≤ limit) (digit : c.isDigit = true)
      (beyond : limit < Nat.ofDigitChars 10 (digits ++ [c]) value) :
      Stops limit value (digits ++ c :: rest) .large

/-- Why a text is no numeral of a number within a limit. -/
inductive Faulty (limit : Nat) : List Char → NumeralFault → Prop where
  | empty : Faulty limit [] .empty
  | lone : Faulty limit ['+'] .foreign
  | unsigned {text : List Char} {fault : NumeralFault} (bare : text.head? ≠ some '+')
      (stops : Stops limit 0 text fault) : Faulty limit text fault
  | signed {text : List Char} {fault : NumeralFault}
      (stops : Stops limit 0 text fault) : Faulty limit ('+' :: text) fault

theorem Stops.ne_nil {limit value : Nat} {text : List Char} {fault : NumeralFault}
    (stops : Stops limit value text fault) : text ≠ [] := by
  cases stops <;> simp

theorem Stops.cons {limit value : Nat} {c : Char} {text : List Char}
    {fault : NumeralFault} (digit : c.isDigit = true)
    (stops : Stops limit (10 * value + (c.toNat - '0'.toNat)) text fault) :
    Stops limit value (c :: text) fault := by
  cases stops with
  | foreign all within other =>
      exact .foreign (List.forall_mem_cons.mpr ⟨digit, all⟩)
        (by rwa [Nat.ofDigitChars_cons]) other
  | large all within last beyond =>
      exact .large (List.forall_mem_cons.mpr ⟨digit, all⟩)
        (by rwa [Nat.ofDigitChars_cons]) last
        (by rwa [List.cons_append, Nat.ofDigitChars_cons])

theorem stops_of_readDigits {limit value : Nat} {text : List Char}
    {fault : NumeralFault} (small : value ≤ limit)
    (read : readDigits limit value text = .error fault) :
    Stops limit value text fault := by
  induction text generalizing value with
  | nil => simp [readDigits] at read
  | cons c text induction =>
      have known := isSome_digitValue? c
      have none_before : ∀ c ∈ ([] : List Char), c.isDigit = true := by simp
      rw [readDigits] at read
      split at read
      · rename_i foreign
        obtain rfl := Except.error.inj read
        rw [foreign, Option.isSome_none] at known
        exact .foreign none_before small known.symm
      · rename_i digit eq
        have first : c.isDigit = true := by rw [← known, eq, Option.isSome_some]
        rw [digitValue?_of_isDigit first, Option.some.injEq] at eq
        subst eq
        split at read
        · rename_i fits
          exact (induction fits read).cons first
        · rename_i beyond
          obtain rfl := Except.error.inj read
          refine .large none_before small first ?_
          rw [List.nil_append, Nat.ofDigitChars_cons]
          exact Nat.lt_of_not_le beyond

theorem Stops.readDigits {limit value : Nat} {text : List Char} {fault : NumeralFault}
    (stops : Stops limit value text fault) :
    readDigits limit value text = .error fault := by
  cases stops with
  | @foreign digits rest c all within other =>
      have unknown : digitValue? c = none := by
        rw [← Option.isNone_iff_eq_none, ← Option.not_isSome, isSome_digitValue?, other]
        rfl
      rw [readDigits_append all within, Text.readDigits, unknown]
  | @large digits rest c all within digit beyond =>
      rw [Nat.ofDigitChars_append, Nat.ofDigitChars_cons] at beyond
      rw [readDigits_append all within, Text.readDigits, digitValue?_of_isDigit digit]
      exact if_neg (Nat.not_le_of_lt beyond)

theorem readNumeral_eq_error_iff {limit : Nat} {text : List Char}
    {fault : NumeralFault} :
    readNumeral limit text = .error fault ↔ Faulty limit text fault := by
  constructor
  · intro read
    unfold readNumeral at read
    split at read
    · obtain rfl := Except.error.inj read
      exact .empty
    · obtain rfl := Except.error.inj read
      exact .lone
    · exact .signed (stops_of_readDigits limit.zero_le read)
    · rename_i bare
      refine .unsigned ?_ (stops_of_readDigits limit.zero_le read)
      intro sign
      obtain ⟨rest, rfl⟩ := List.head?_eq_some_iff.mp sign
      exact bare rest rfl
  · intro faulty
    cases faulty with
    | empty => rfl
    | lone => rfl
    | unsigned bare stops =>
        obtain ⟨c, rest, rfl⟩ := List.exists_cons_of_ne_nil stops.ne_nil
        have unsigned : c ≠ '+' := fun sign => bare (congrArg some sign)
        rw [← stops.readDigits]
        simp [readNumeral, unsigned]
    | signed stops =>
        obtain ⟨c, rest, rfl⟩ := List.exists_cons_of_ne_nil stops.ne_nil
        exact stops.readDigits

theorem readUInt16_eq_error_iff {text : List Char} {fault : NumeralFault} :
    readUInt16 text = .error fault ↔ Faulty 65535 text fault := by
  rw [← readNumeral_eq_error_iff, readUInt16]
  cases readNumeral 65535 text <;> simp [Except.map]

theorem numeral_decimal (n : Nat) : Numeral (decimal n) n := by
  have numeral : Numeral (decimal n) (Nat.ofDigitChars 10 (decimal n) 0) :=
    .unsigned (decimal_ne_nil n) fun _ => isDigit_of_mem_decimal
  rwa [decimal, Nat.ofDigitChars_toDigits (by decide) (by decide)] at numeral

theorem readUInt16_decimal (number : UInt16) :
    readUInt16 (decimal number.toNat) = .ok number :=
  readUInt16_eq_ok_iff.mpr (numeral_decimal number.toNat)

end RemoteMessaging.Text
