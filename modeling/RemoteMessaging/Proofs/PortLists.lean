import Mathlib.Data.List.Forall2
import RemoteMessaging.Proofs.Candidates
import RemoteMessaging.Proofs.Cutting
import RemoteMessaging.Proofs.Numerals

/-!
# Lists of ports in text form

A text is read as a list of ports exactly if each of its parts between the commas is
a numeral of a port with blanks around it.  Otherwise the error names the first other
part and what is wrong with it.  So ports are read back from their numerals, whatever
blanks stand around these.
-/

namespace RemoteMessaging

namespace PortAllocator

/-- A part of a text is a numeral of a port, with blanks around it. -/
def Denotes (part : List Char) (port : Port) : Prop :=
  ∃ numeral, Text.Trimmed part numeral ∧ Text.Numeral numeral port.toNat

section Reading

variable {part trimmed : List Char} {parts : List (List Char)}
variable {port : Port} {ports : List Port} {fault : Text.NumeralFault}

theorem denotes_iff :
    Denotes part port ↔ Text.readUInt16 (Text.trim part) = .ok port := by
  rw [Text.readUInt16_eq_ok_iff]
  constructor
  · rintro ⟨numeral, cut, denotes⟩
    rwa [cut.trim]
  · intro denotes
    exact ⟨Text.trim part, Text.trimmed_trim part, denotes⟩

theorem not_denotes_of_faulty (cut : Text.Trimmed part trimmed)
    (faulty : Text.Faulty 65535 trimmed fault) (port : Port) :
    ¬ Denotes part port := by
  intro denotes
  have read := denotes_iff.mp denotes
  rw [cut.trim, Text.readUInt16_eq_error_iff.mpr faulty] at read
  cases read

theorem readEntries_cons_of_denotes (denotes : Denotes part port)
    (parts : List (List Char)) :
    readEntries ((part :: parts).map Text.trim) =
      (readEntries (parts.map Text.trim)).map (port :: ·) := by
  rw [List.map_cons, readEntries, denotes_iff.mp denotes]

theorem readEntries_cons_of_faulty (cut : Text.Trimmed part trimmed)
    (faulty : Text.Faulty 65535 trimmed fault) (parts : List (List Char)) :
    readEntries ((part :: parts).map Text.trim) = .error (trimmed, fault) := by
  rw [List.map_cons, cut.trim, readEntries, Text.readUInt16_eq_error_iff.mpr faulty]

theorem exists_denotes_or_faulty (part : List Char) :
    (∃ port, Denotes part port) ∨ ∃ trimmed fault, Text.Trimmed part trimmed ∧
      Text.Faulty 65535 trimmed fault := by
  cases read : Text.readUInt16 (Text.trim part) with
  | ok port => exact .inl ⟨port, denotes_iff.mpr read⟩
  | error fault =>
      exact .inr ⟨Text.trim part, fault, Text.trimmed_trim part,
        Text.readUInt16_eq_error_iff.mp read⟩

theorem readEntries_of_denotes (all : List.Forall₂ Denotes parts ports) :
    readEntries (parts.map Text.trim) = .ok ports := by
  induction all with
  | nil => rfl
  | cons denotes others induction =>
      rw [readEntries_cons_of_denotes denotes, induction]
      rfl

/-- What the first part that denotes no port makes of the whole. -/
theorem readEntries_of_faulty {before after : List (List Char)}
    (earlier : ∀ part ∈ before, ∃ port, Denotes part port)
    (cut : Text.Trimmed part trimmed) (faulty : Text.Faulty 65535 trimmed fault) :
    readEntries ((before ++ part :: after).map Text.trim) =
      .error (trimmed, fault) := by
  induction before with
  | nil => exact readEntries_cons_of_faulty cut faulty after
  | cons first before induction =>
      obtain ⟨⟨port, denotes⟩, others⟩ := List.forall_mem_cons.mp earlier
      rw [List.cons_append, readEntries_cons_of_denotes denotes, induction others]
      rfl

theorem all_denote_or_first_faulty (parts : List (List Char)) :
    (∃ ports, List.Forall₂ Denotes parts ports) ∨
      ∃ before part after trimmed fault, parts = before ++ part :: after ∧
        (∀ part ∈ before, ∃ port, Denotes part port) ∧
        Text.Trimmed part trimmed ∧ Text.Faulty 65535 trimmed fault := by
  induction parts with
  | nil => exact .inl ⟨[], .nil⟩
  | cons first parts induction =>
      rcases exists_denotes_or_faulty first with
        ⟨port, denotes⟩ | ⟨trimmed, fault, cut, faulty⟩
      · rcases induction with
          ⟨ports, all⟩ | ⟨before, part, after, trimmed, fault, rfl, earlier, bad⟩
        · exact .inl ⟨port :: ports, .cons denotes all⟩
        · exact .inr ⟨first :: before, part, after, trimmed, fault, rfl,
            List.forall_mem_cons.mpr ⟨⟨port, denotes⟩, earlier⟩, bad⟩
      · exact .inr ⟨[], first, parts, trimmed, fault, rfl, by simp, cut, faulty⟩

def invalidPort (text : String) (trimmed : List Char) (fault : Text.NumeralFault) :
    Error :=
  .configuration s!"invalid port `{String.ofList trimmed}` in `{text}`: {fault.message}"

theorem parseList_of_denotes {text : String}
    (separated : Text.Separated ',' parts text.toList)
    (all : List.Forall₂ Denotes parts ports) : parseList text = .ok (.list ports) := by
  rw [parseList, entries, Text.split_eq_iff.mpr separated, readEntries_of_denotes all]

theorem parseList_of_faulty {text : String} {before after : List (List Char)}
    (separated : Text.Separated ',' (before ++ part :: after) text.toList)
    (earlier : ∀ part ∈ before, ∃ port, Denotes part port)
    (cut : Text.Trimmed part trimmed) (faulty : Text.Faulty 65535 trimmed fault) :
    parseList text = .error (invalidPort text trimmed fault) := by
  rw [parseList, entries, Text.split_eq_iff.mpr separated,
    readEntries_of_faulty earlier cut faulty]
  rfl

theorem parseList_eq_ok_iff {text : String} {allocator : PortAllocator} :
    parseList text = .ok allocator ↔ ∃ parts ports,
      Text.Separated ',' parts text.toList ∧ List.Forall₂ Denotes parts ports ∧
        allocator = .list ports := by
  constructor
  · intro parsed
    have separated := Text.separated_split ',' text.toList
    rcases all_denote_or_first_faulty (Text.split ',' text.toList) with
      ⟨ports, all⟩ | ⟨before, part, after, trimmed, fault, same, earlier, cut, faulty⟩
    · rw [parseList_of_denotes separated all] at parsed
      exact ⟨_, ports, separated, all, (Except.ok.inj parsed).symm⟩
    · rw [same] at separated
      rw [parseList_of_faulty separated earlier cut faulty] at parsed
      cases parsed
  · rintro ⟨parts, ports, separated, all, rfl⟩
    exact parseList_of_denotes separated all

example : parseList " +080,9000\u3000" = .ok (.list [80, 9000]) := by decide +kernel

theorem parseList_eq_error_iff {text : String} {error : Error} :
    parseList text = .error error ↔ ∃ before part after trimmed fault,
      Text.Separated ',' (before ++ part :: after) text.toList ∧
        (∀ part ∈ before, ∃ port, Denotes part port) ∧
        Text.Trimmed part trimmed ∧ Text.Faulty 65535 trimmed fault ∧
        error = invalidPort text trimmed fault := by
  constructor
  · intro parsed
    have separated := Text.separated_split ',' text.toList
    rcases all_denote_or_first_faulty (Text.split ',' text.toList) with
      ⟨ports, all⟩ | ⟨before, part, after, trimmed, fault, same, earlier, cut, faulty⟩
    · rw [parseList_of_denotes separated all] at parsed
      cases parsed
    · rw [same] at separated
      rw [parseList_of_faulty separated earlier cut faulty] at parsed
      exact ⟨before, part, after, trimmed, fault, separated, earlier, cut, faulty,
        (Except.error.inj parsed).symm⟩
  · rintro ⟨before, part, after, trimmed, fault, separated, earlier, cut, faulty, rfl⟩
    exact parseList_of_faulty separated earlier cut faulty

/-- The first fault counts, though there is another. -/
example : parseList "80, 65536 ,x" =
    .error (invalidPort "80, 65536 ,x" "65536".toList .large) := by
  decide +kernel

end Reading

/-- A port written as a numeral, with blanks around it. -/
structure PaddedPort where
  front : List Char
  port : Port
  back : List Char
  blankFront : ∀ c ∈ front, Text.isBlank c = true
  blankBack : ∀ c ∈ back, Text.isBlank c = true

namespace PaddedPort

def text (padded : PaddedPort) : List Char :=
  padded.front ++ Text.decimal padded.port.toNat ++ padded.back

theorem denotes (padded : PaddedPort) : Denotes padded.text padded.port := by
  have digit : ∀ c ∈ Text.decimal padded.port.toNat, Text.isBlank c = false :=
    fun _ member =>
      Text.isBlank_eq_false_of_isDigit (Text.isDigit_of_mem_decimal member)
  refine ⟨Text.decimal padded.port.toNat, ?_, Text.numeral_decimal _⟩
  exact .intro padded.blankFront padded.blankBack
    (fun c first => digit c (List.mem_of_head? first))
    (fun c last => digit c (List.mem_of_getLast? last))

theorem not_mem_text (padded : PaddedPort) : ',' ∉ padded.text := by
  have blank : Text.isBlank ',' ≠ true := by decide
  have digit : ','.isDigit ≠ true := by decide
  simp only [text, List.mem_append, not_or]
  refine ⟨⟨fun member => blank (padded.blankFront _ member), fun member => ?_⟩,
    fun member => blank (padded.blankBack _ member)⟩
  exact digit (Text.isDigit_of_mem_decimal member)

end PaddedPort

/-- A text is read as a list of ports exactly if all its parts between the commas are
numerals of ports, with blanks around them.  Otherwise the error tells of the first
other part, without the blanks around it, and why it is no such numeral.

In particular, ports are read back from their numerals, joined with commas and with
any blanks around them, and they are the candidates in this order. -/
theorem reads_numerals_between_commas :
    (∀ text allocator, parseList text = .ok allocator ↔
      ∃ parts ports, Text.Separated ',' parts text.toList ∧
        List.Forall₂ Denotes parts ports ∧ allocator = .list ports) ∧
    (∀ text error, parseList text = .error error ↔
      ∃ before part after trimmed fault,
        Text.Separated ',' (before ++ part :: after) text.toList ∧
        (∀ part ∈ before, ∃ port, Denotes part port) ∧
        (∀ port, ¬ Denotes part port) ∧
        Text.Trimmed part trimmed ∧ Text.Faulty 65535 trimmed fault ∧
        error = .configuration
          s!"invalid port `{String.ofList trimmed}` in `{text}`: {fault.message}") ∧
    ∀ (first : PaddedPort) (others : List PaddedPort),
      let padded := first :: others
      let ports := padded.map PaddedPort.port
      parseList (String.ofList (Text.join [','] (padded.map PaddedPort.text))) =
          .ok (.list ports) ∧
        (list ports).candidates.toList = ports := by
  refine ⟨fun _ _ => parseList_eq_ok_iff, fun text error => ?_,
    fun first others => ?_⟩
  · rw [parseList_eq_error_iff]
    constructor
    · rintro ⟨before, part, after, trimmed, fault, separated, earlier, cut, faulty, same⟩
      exact ⟨before, part, after, trimmed, fault, separated, earlier,
        not_denotes_of_faulty cut faulty, cut, faulty, same⟩
    · rintro ⟨before, part, after, trimmed, fault, separated, earlier, -, rest⟩
      exact ⟨before, part, after, trimmed, fault, separated, earlier, rest⟩
  · intro padded ports
    have separated : Text.Separated ',' (padded.map PaddedPort.text)
        (String.ofList (Text.join [','] (padded.map PaddedPort.text))).toList := by
      rw [String.toList_ofList]
      refine ⟨by simp [padded], ?_, rfl⟩
      simp only [List.forall_mem_map]
      exact fun port _ => port.not_mem_text
    have all : List.Forall₂ Denotes (padded.map PaddedPort.text) ports := by
      rw [List.forall₂_map_left_iff, List.forall₂_map_right_iff, List.forall₂_same]
      exact fun port _ => port.denotes
    exact ⟨parseList_of_denotes separated all, PortCandidates.toList_ports ports⟩

end PortAllocator

end RemoteMessaging
