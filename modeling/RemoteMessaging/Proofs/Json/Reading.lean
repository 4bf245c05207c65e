import Mathlib.Data.List.TakeDrop
import RemoteMessaging.Json.Reader
import RemoteMessaging.Json.Writer
import RemoteMessaging.Proofs.Numerals

/-!
# Reading what was written

A value whose number literals are well formed is read from its compact text.  The
text of a value starts with no blank and no closing bracket, and what follows it
cannot continue a number; the length of the text bounds the calls.
-/

namespace RemoteMessaging.Json

variable {fuel : Nat} {rest : List Char}

/-! ## Strings -/

/-- How a character is written: by a letter, by its number, or as it is. -/
inductive Written (c : Char) : List Char → Prop where
  | letter (letter : Char) (other : letter ≠ 'u')
      (means : unescape? letter = some c) : Written c ['\\', letter]
  | unit (control : c.toNat < 32) :
      Written c ['\\', 'u', '0', '0', Nat.digitChar (c.toNat / 16),
        Nat.digitChar (c.toNat % 16)]
  | plain (quote : c ≠ '"') (slash : c ≠ '\\') (visible : ¬ c < ' ') :
      Written c [c]

theorem written_writeChar (c : Char) : Written c (writeChar c) := by
  unfold writeChar
  split
  · subst c
    exact .letter '"' (by decide) rfl
  split
  · subst c
    exact .letter '\\' (by decide) rfl
  split
  · subst c
    exact .letter 'b' (by decide) rfl
  split
  · subst c
    exact .letter 'f' (by decide) rfl
  split
  · subst c
    exact .letter 'n' (by decide) rfl
  split
  · subst c
    exact .letter 'r' (by decide) rfl
  split
  · subst c
    exact .letter 't' (by decide) rfl
  split
  · rename_i control
    exact .unit control
  · rename_i quote slash _ _ _ _ _ visible
    exact .plain quote slash visible

theorem readUnit_of_control :
    ∀ n < 32, readUnit '0' '0' (Nat.digitChar (n / 16)) (Nat.digitChar (n % 16)) =
      some n := by
  decide

theorem decodePieces_unit {value : Nat} (small : value < 0xd800)
    (pieces : List Piece) :
    decodePieces (.unit value :: pieces) =
      (decodePieces pieces).map (Char.ofNat value :: ·) := by
  have notHigh : isHighSurrogate value = false := by
    simp [isHighSurrogate]
    omega
  have notLow : isLowSurrogate value = false := by
    simp [isLowSurrogate]
    omega
  cases pieces with
  | nil => simp [decodePieces, notHigh, notLow]
  | cons piece pieces =>
      cases piece <;> simp [decodePieces, notHigh, notLow]

/-- A character is read as one piece, and stands for itself. -/
theorem readPieces_writeChar (c : Char) (rest : List Char) :
    ∃ piece,
      (∀ text pieces, readPieces text = some (pieces, rest) →
        readPieces (writeChar c ++ text) = some (piece :: pieces, rest)) ∧
      ∀ pieces, decodePieces (piece :: pieces) =
        (decodePieces pieces).map (c :: ·) := by
  have written := written_writeChar c
  generalize writeChar c = letters at written ⊢
  cases written with
  | letter letter other means =>
      refine ⟨.char c, ?_, fun _ => by rw [decodePieces]⟩
      intro text pieces read
      simp [readPieces, other, means, read]
  | unit control =>
      refine ⟨.unit c.toNat, ?_, ?_⟩
      · intro text pieces read
        simp [readPieces, readUnit_of_control _ control, read]
      · intro pieces
        rw [decodePieces_unit (by omega), Char.ofNat_toNat]
  | plain quote slash visible =>
      refine ⟨.char c, ?_, fun _ => by rw [decodePieces]⟩
      intro text pieces read
      simp [readPieces, slash, visible, read]

theorem readPieces_flatMap (text rest : List Char) :
    ∃ pieces, readPieces (text.flatMap writeChar ++ '"' :: rest) =
        some (pieces, rest) ∧
      decodePieces pieces = some text := by
  induction text with
  | nil => exact ⟨[], by simp [readPieces], rfl⟩
  | cons c text induction =>
      obtain ⟨pieces, read, means⟩ := induction
      obtain ⟨piece, reads, stands⟩ := readPieces_writeChar c rest
      refine ⟨piece :: pieces, ?_, ?_⟩
      · rw [List.flatMap_cons, List.append_assoc]
        exact reads _ _ read
      · rw [stands, means, Option.map_some]

theorem writeString_eq (content : Option String) :
    ∃ body, writeString content = '"' :: body ∧
      ∀ rest, readString (body ++ rest) = some (content, rest) := by
  cases content with
  | none =>
      refine ⟨_, rfl, fun rest => ?_⟩
      have unit : readUnit 'd' '8' '0' '0' = some 0xd800 := by decide
      simp [readString, readPieces, unit, decodePieces, isHighSurrogate]
  | some text =>
      refine ⟨text.toList.flatMap writeChar ++ ['"'], rfl, fun rest => ?_⟩
      obtain ⟨pieces, read, means⟩ := readPieces_flatMap text.toList rest
      rw [List.append_assoc, List.singleton_append, readString, read]
      simp [means]

/-! ## Numbers -/

def IsDigits (digits : List Char) : Prop :=
  digits ≠ [] ∧ ∀ c ∈ digits, isDigit c = true

/-- A number literal that has a text.  Its whole part starts with zero only if it is
zero. -/
structure Number.WellFormed (literal : Number) : Prop where
  whole : IsDigits literal.whole
  leading : literal.whole.head? = some '0' → literal.whole.length ≤ 1
  fraction : ∀ digits, literal.fraction = some digits → IsDigits digits
  exponent : ∀ exponent, literal.exponent = some exponent →
    IsDigits exponent.digits

/-- What follows cannot continue a number. -/
def Ends (rest : List Char) : Prop :=
  ∀ c ∈ rest.head?, isDigit c = false ∧ c ≠ '.' ∧ c ≠ 'e' ∧ c ≠ 'E'

theorem not_mem_of_isDigit {c : Char} {others : List Char}
    (digit : isDigit c = true) (none : others.any isDigit = false) :
    c ∉ others := by
  intro member
  exact List.any_eq_false.mp none c member digit

theorem ends_cons {c : Char}
    (stops : isDigit c = false ∧ c ≠ '.' ∧ c ≠ 'e' ∧ c ≠ 'E')
    (text : List Char) : Ends (c :: text) := by
  rintro _ ⟨⟩
  exact stops

theorem IsDigits.exists_cons {digits : List Char} (all : IsDigits digits) :
    ∃ c others, digits = c :: others ∧ isDigit c = true := by
  cases digits with
  | nil => exact (all.1 rfl).elim
  | cons c others => exact ⟨c, others, rfl, all.2 c List.mem_cons_self⟩

theorem readDigits_append {digits : List Char} (all : IsDigits digits)
    (stops : ∀ c ∈ rest.head?, isDigit c = false) :
    readDigits (digits ++ rest) = some (digits, rest) := by
  have taken : (digits ++ rest).takeWhile isDigit = digits := by
    rw [List.takeWhile_append_of_pos all.2]
    cases rest with
    | nil => simp
    | cons c rest => simp [stops c rfl]
  have left : (digits ++ rest).dropWhile isDigit = rest := by
    rw [List.dropWhile_append_of_pos all.2]
    cases rest with
    | nil => simp
    | cons c rest => simp [stops c rfl]
  obtain ⟨c, others, rfl, -⟩ := all.exists_cons
  rw [readDigits, List.span_eq_takeWhile_dropWhile, taken, left]

theorem readExponent_of_ends (ends : Ends rest) :
    readExponent rest = some (none, rest) := by
  unfold readExponent
  split
  · exact ((ends 'e' rfl).2.2.1 rfl).elim
  · exact ((ends 'E' rfl).2.2.2 rfl).elim
  · rfl

theorem readSigned_of_digits {digits : List Char} (all : IsDigits digits)
    (stops : ∀ c ∈ rest.head?, isDigit c = false) :
    readSigned (digits ++ rest) = some (⟨false, digits⟩, rest) := by
  have read := readDigits_append all stops
  obtain ⟨c, others, rfl, digit⟩ := all.exists_cons
  unfold readSigned
  split
  · rename_i same
    obtain ⟨rfl, -⟩ := List.cons.inj same
    exact absurd digit (by decide)
  · rename_i same
    obtain ⟨rfl, -⟩ := List.cons.inj same
    exact absurd digit (by decide)
  · rw [read, Option.map_some]

theorem readExponent_writeExponent {exponent : Option Exponent}
    (all : ∀ power, exponent = some power → IsDigits power.digits)
    (ends : Ends rest) :
    readExponent (writeExponent exponent ++ rest) = some (exponent, rest) := by
  have stops : ∀ c ∈ rest.head?, isDigit c = false :=
    fun c first => (ends c first).1
  cases exponent with
  | none => exact readExponent_of_ends ends
  | some power =>
      obtain ⟨negative, digits⟩ := power
      have digits := all _ rfl
      cases negative with
      | true =>
          simp [writeExponent, readExponent, readSigned,
            readDigits_append digits stops]
      | false =>
          simp [writeExponent, readExponent, readSigned_of_digits digits stops]

theorem head?_writeExponent (exponent : Option Exponent) (ends : Ends rest) :
    ∀ c ∈ (writeExponent exponent ++ rest).head?,
      isDigit c = false ∧ c ≠ '.' := by
  intro c first
  cases exponent with
  | none => exact ⟨(ends c first).1, (ends c first).2.1⟩
  | some power =>
      have letter : c = 'e' := by
        obtain ⟨negative, digits⟩ := power
        cases negative <;> exact (Option.some.inj first).symm
      rw [letter]
      decide

theorem readFraction_writeFraction {fraction : Option (List Char)}
    (all : ∀ digits, fraction = some digits → IsDigits digits)
    (stops : ∀ c ∈ rest.head?, isDigit c = false ∧ c ≠ '.') :
    readFraction (writeFraction fraction ++ rest) = some (fraction, rest) := by
  cases fraction with
  | none =>
      rw [writeFraction, List.nil_append]
      unfold readFraction
      split
      · exact ((stops '.' rfl).2 rfl).elim
      · rfl
  | some digits =>
      have read := readDigits_append (all digits rfl) fun c first =>
        (stops c first).1
      simp [writeFraction, readFraction, read]

theorem head?_writeFraction (fraction : Option (List Char))
    (stops : ∀ c ∈ rest.head?, isDigit c = false ∧ c ≠ '.') :
    ∀ c ∈ (writeFraction fraction ++ rest).head?, isDigit c = false := by
  intro c first
  cases fraction with
  | none => exact (stops c first).1
  | some digits =>
      rw [← Option.some.inj first]
      decide

theorem readMagnitude_write {literal : Number} (wellFormed : literal.WellFormed)
    (ends : Ends rest) :
    readMagnitude literal.negative (literal.whole ++
        (writeFraction literal.fraction ++
          (writeExponent literal.exponent ++ rest))) =
      some (literal, rest) := by
  have stops := head?_writeExponent literal.exponent ends
  have whole := readDigits_append wellFormed.whole
    (head?_writeFraction literal.fraction stops)
  have fraction := readFraction_writeFraction wellFormed.fraction stops
  have exponent := readExponent_writeExponent wellFormed.exponent ends
  have proper :
      ¬ (literal.whole.head? = some '0' ∧ 1 < literal.whole.length) := by
    rintro ⟨zero, long⟩
    have := wellFormed.leading zero
    omega
  simp [readMagnitude, whole, proper, fraction, exponent]

theorem Number.write_eq_cons {literal : Number} (wellFormed : literal.WellFormed) :
    ∃ c text, literal.write = c :: text ∧ (c = '-' ∨ isDigit c = true) := by
  obtain ⟨c, digits, whole, digit⟩ := wellFormed.whole.exists_cons
  rw [Number.write, whole]
  cases literal.negative with
  | true => exact ⟨_, _, rfl, .inl rfl⟩
  | false => exact ⟨_, _, rfl, .inr digit⟩

theorem readNumber_write {literal : Number} (wellFormed : literal.WellFormed)
    (ends : Ends rest) :
    readNumber (literal.write ++ rest) = some (literal, rest) := by
  have read := readMagnitude_write wellFormed ends
  cases negative : literal.negative with
  | true =>
      rw [negative] at read
      simp [Number.write, negative, readNumber, read]
  | false =>
      obtain ⟨c, digits, whole, digit⟩ := wellFormed.whole.exists_cons
      rw [negative, whole] at read
      have notSign : c ≠ '-' := by
        rintro rfl
        exact absurd digit (by decide)
      simp only [List.cons_append] at read
      simp [Number.write, negative, whole, readNumber, notSign, read]

/-! ## Values -/

/-- All number literals have a text. -/
inductive WellFormed : Json → Prop where
  | null : WellFormed .null
  | bool (value : Bool) : WellFormed (.bool value)
  | number (literal : Number) (number : literal.WellFormed) :
      WellFormed (.number literal)
  | string (content : Option String) : WellFormed (.string content)
  | array (items : List Json) (each : ∀ item ∈ items, WellFormed item) :
      WellFormed (.array items)
  | object (members : List (Option String × Json))
      (each : ∀ member ∈ members, WellFormed member.2) :
      WellFormed (.object members)

def blanks : List Char :=
  [' ', '\t', '\n', '\r']

theorem write_eq_cons {value : Json} (wellFormed : value.WellFormed) :
    ∃ c text, value.write = c :: text ∧ c ∉ ']' :: blanks := by
  cases wellFormed with
  | null => exact ⟨'n', _, by rw [write], by decide⟩
  | bool value => cases value <;> exact ⟨_, _, by rw [write], by decide⟩
  | number literal number =>
      obtain ⟨c, text, written, first⟩ := Number.write_eq_cons number
      refine ⟨c, text, by rw [write, written], ?_⟩
      rcases first with rfl | digit
      · decide
      · exact not_mem_of_isDigit digit rfl
  | string content =>
      obtain ⟨body, written, -⟩ := writeString_eq content
      exact ⟨'"', body, by rw [write, written], by decide⟩
  | array items each =>
      cases items with
      | nil => exact ⟨'[', _, by rw [write], by decide⟩
      | cons item items => exact ⟨'[', _, by rw [write]; rfl, by decide⟩
  | object members each =>
      cases members with
      | nil => exact ⟨'{', _, by rw [write], by decide⟩
      | cons member members => exact ⟨'{', _, by rw [write]; rfl, by decide⟩

theorem skipBlanks_cons {c : Char} (other : c ∉ blanks) (text : List Char) :
    skipBlanks (c :: text) = c :: text := by
  simp only [blanks, List.mem_cons, List.not_mem_nil, or_false, not_or] at other
  rw [skipBlanks, List.dropWhile_cons_of_neg]
  simp [other]

theorem skipBlanks_write {value : Json} (wellFormed : value.WellFormed)
    (text : List Char) :
    skipBlanks (value.write ++ text) = value.write ++ text := by
  obtain ⟨c, letters, written, other⟩ := write_eq_cons wellFormed
  rw [written]
  exact skipBlanks_cons (fun blank => other (List.mem_cons_of_mem _ blank)) _

theorem skipBlanks_writeString (content : Option String) (text : List Char) :
    skipBlanks (writeString content ++ text) = writeString content ++ text := by
  obtain ⟨body, written, -⟩ := writeString_eq content
  rw [written]
  exact skipBlanks_cons (by decide) _

theorem readValue_of_number {c : Char} {text : List Char} {literal : Number}
    (first : c = '-' ∨ isDigit c = true)
    (read : readNumber (c :: text) = some (literal, rest)) :
    readValue (fuel + 1) (c :: text) = some (.number literal, rest) := by
  have other : c ∉ ['n', 't', 'f', '"', '[', '{'] := by
    rcases first with rfl | digit
    · decide
    · exact not_mem_of_isDigit digit rfl
  simp only [List.mem_cons, List.not_mem_nil, or_false, not_or] at other
  simp [readValue, other, read]

theorem readValue_of_items {text others : List Char} {items : List Json}
    {item : Json} (wellFormed : item.WellFormed)
    (same : text = item.write ++ others)
    (read : readItems fuel text = some (items, rest)) :
    readValue (fuel + 1) ('[' :: text) = some (.array items, rest) := by
  have start : skipBlanks text = text := by
    rw [same]
    exact skipBlanks_write wellFormed others
  obtain ⟨c, letters, written, other⟩ := write_eq_cons wellFormed
  have notClosed : c ≠ ']' := by
    rintro rfl
    exact other List.mem_cons_self
  simp only [same, written, List.cons_append] at start read
  simp [readValue, same, written, start, notClosed, read]

theorem readValue_of_members {text : List Char}
    {members : List (Option String × Json)}
    (read : readMembers fuel ('"' :: text) = some (members, rest)) :
    readValue (fuel + 1) ('{' :: '"' :: text) = some (.object members, rest) := by
  have start : skipBlanks ('"' :: text) = '"' :: text :=
    skipBlanks_cons (by decide) text
  simp [readValue, start, read]

/-- So many calls suffice for texts up to this length. -/
structure Reads (fuel : Nat) : Prop where
  value : ∀ (value : Json) (rest : List Char), value.WellFormed →
    value.write.length ≤ fuel → Ends rest →
      readValue fuel (value.write ++ rest) = some (value, rest)
  items : ∀ (item : Json) (items : List Json) (rest : List Char),
    (∀ other ∈ item :: items, other.WellFormed) →
      (item.write ++ writeItems items).length ≤ fuel →
        readItems fuel (item.write ++ writeItems items ++ rest) =
          some (item :: items, rest)
  members : ∀ (key : Option String) (value : Json)
    (members : List (Option String × Json)) (rest : List Char),
    (∀ member ∈ (key, value) :: members, member.2.WellFormed) →
      (writeString key ++ [':'] ++ value.write ++ writeMembers members).length ≤
          fuel →
        readMembers fuel (writeString key ++ [':'] ++ value.write ++
            writeMembers members ++ rest) =
          some ((key, value) :: members, rest)

theorem reads_zero : Reads 0 := by
  refine ⟨?_, ?_, ?_⟩
  · intro value rest wellFormed enough
    obtain ⟨c, text, written, -⟩ := write_eq_cons wellFormed
    simp [written] at enough
  · intro item items rest each enough
    obtain ⟨c, text, written, -⟩ := write_eq_cons (each item List.mem_cons_self)
    simp [written] at enough
  · intro key value members rest each enough
    simp at enough

theorem Reads.readValue (reads : Reads fuel) {value : Json}
    (wellFormed : value.WellFormed) (enough : value.write.length ≤ fuel + 1)
    (ends : Ends rest) :
    readValue (fuel + 1) (value.write ++ rest) = some (value, rest) := by
  cases wellFormed with
  | null => simp [write, Json.readValue]
  | bool value => cases value <;> simp [write, Json.readValue]
  | number literal number =>
      obtain ⟨c, text, written, first⟩ := Number.write_eq_cons number
      have read := readNumber_write number ends
      rw [written] at read
      rw [write, written]
      exact readValue_of_number first read
  | string content =>
      obtain ⟨body, written, read⟩ := writeString_eq content
      simp [write, written, Json.readValue, read]
  | array items each =>
      cases items with
      | nil => simp [write, Json.readValue, skipBlanks]
      | cons item items =>
          have read := reads.items item items rest each (by
            simp only [write, List.length_append, List.length_cons] at enough ⊢
            omega)
          rw [write]
          exact readValue_of_items (each item List.mem_cons_self)
            (List.append_assoc _ _ _) read
  | object members each =>
      rcases members with _ | ⟨⟨key, value⟩, members⟩
      · simp [write, Json.readValue, skipBlanks]
      · obtain ⟨body, written, -⟩ := writeString_eq key
        have read := reads.members key value members rest each (by
          simp only [write, List.length_append, List.length_cons] at enough ⊢
          omega)
        rw [written] at read
        rw [write, written]
        exact readValue_of_members read

theorem Reads.readItems (reads : Reads fuel) {item : Json} {items : List Json}
    (each : ∀ other ∈ item :: items, other.WellFormed)
    (enough : (item.write ++ writeItems items).length ≤ fuel + 1) :
    readItems (fuel + 1) (item.write ++ writeItems items ++ rest) =
      some (item :: items, rest) := by
  have here : item.WellFormed := each item List.mem_cons_self
  have later : ∀ other ∈ items, other.WellFormed :=
    fun other member => each other (List.mem_cons_of_mem _ member)
  cases items with
  | nil =>
      have read := reads.value item (']' :: rest) here (by
        simp only [writeItems, List.length_append, List.length_cons] at enough
        omega) (ends_cons (by decide) rest)
      have close := skipBlanks_cons (c := ']') (by decide) rest
      simp [Json.readItems, writeItems, read, close]
  | cons next items =>
      have read := reads.value item
        (',' :: (next.write ++ writeItems items ++ rest)) here (by
          simp only [writeItems, List.length_append, List.length_cons] at enough
          omega) (ends_cons (by decide) _)
      have comma := skipBlanks_cons (c := ',') (by decide)
        (next.write ++ writeItems items ++ rest)
      have begins := skipBlanks_write (later next List.mem_cons_self)
        (writeItems items ++ rest)
      have more := reads.items next items rest later (by
        simp only [writeItems, List.length_append, List.length_cons] at enough ⊢
        omega)
      rw [List.append_assoc] at read comma more
      simp [Json.readItems, writeItems, read, comma, begins, more]

theorem Reads.readMembers (reads : Reads fuel) {key : Option String}
    {value : Json} {members : List (Option String × Json)}
    (each : ∀ member ∈ (key, value) :: members, member.2.WellFormed)
    (enough :
      (writeString key ++ [':'] ++ value.write ++ writeMembers members).length ≤
        fuel + 1) :
    readMembers (fuel + 1) (writeString key ++ [':'] ++ value.write ++
        writeMembers members ++ rest) =
      some ((key, value) :: members, rest) := by
  have here : value.WellFormed := each (key, value) List.mem_cons_self
  have later : ∀ member ∈ members, member.2.WellFormed :=
    fun member known => each member (List.mem_cons_of_mem _ known)
  obtain ⟨body, name, readName⟩ := writeString_eq key
  have colon : ∀ text, skipBlanks (':' :: text) = ':' :: text :=
    skipBlanks_cons (by decide)
  have begins := skipBlanks_write here
  cases members with
  | nil =>
      have read := reads.value value ('}' :: rest) here (by
        simp only [writeMembers, List.length_append, List.length_cons] at enough
        omega) (ends_cons (by decide) rest)
      have close := skipBlanks_cons (c := '}') (by decide) rest
      simp [Json.readMembers, name, readName, colon, begins, read, writeMembers,
        close]
  | cons next members =>
      obtain ⟨other, content⟩ := next
      have read := reads.value value
        (writeMembers ((other, content) :: members) ++ rest) here (by
          simp only [writeMembers, List.length_append, List.length_cons] at enough
          omega) (ends_cons (by decide) _)
      have more := reads.members other content members rest later (by
        simp only [writeMembers, List.length_append, List.length_cons] at enough ⊢
        omega)
      have comma : ∀ text, skipBlanks (',' :: text) = ',' :: text :=
        skipBlanks_cons (by decide)
      have opens := skipBlanks_writeString other
      simp only [writeMembers, List.append_assoc, List.cons_append,
        List.nil_append] at read more
      simp [Json.readMembers, name, readName, colon, begins, writeMembers, read,
        comma, opens, more]

theorem reads : Reads fuel := by
  -- As in the reader itself, a call leaves one call less to those inside it.
  induction fuel with
  | zero => exact reads_zero
  | succ fuel induction =>
      exact ⟨fun _ _ wellFormed enough ends =>
          induction.readValue wellFormed enough ends,
        fun _ _ _ each enough => induction.readItems each enough,
        fun _ _ _ _ each enough => induction.readMembers each enough⟩

/-- A value is read from its text. -/
theorem read_write {value : Json} (wellFormed : value.WellFormed) :
    Json.read value.write = some value := by
  have ends : Ends [] := by
    rintro _ ⟨⟩
  have begin := skipBlanks_write wellFormed []
  have whole := reads.value value [] wellFormed (Nat.le_succ _) ends
  rw [List.append_nil] at begin whole
  have none : skipBlanks [] = [] := rfl
  simp [Json.read, begin, whole, none]

theorem read_toText {value : Json} (wellFormed : value.WellFormed) :
    Json.read value.toText.toList = some value := by
  rw [toText, String.toList_ofList, read_write wellFormed]

end RemoteMessaging.Json
