import Mathlib.Data.List.Forall2
import RemoteMessaging.Lookup
import RemoteMessaging.Proofs.Cutting
import RemoteMessaging.Proofs.Numerals

/-!
# Hosts that are IP addresses

However an IP address is spelled, it has only dots, colons and hexadecimal digits.  So
a host that is an IP address has no bracket and is kept as it is given; and it is
resolved to the IP address that it spells.
-/

namespace RemoteMessaging

namespace Text

theorem mapM_eq_some_iff {α β : Type} {read : α → Option β} {items : List α}
    {values : List β} :
    items.mapM read = some values ↔
      List.Forall₂ (fun item value => read item = some value) items values := by
  induction items generalizing values with
  | nil =>
      rw [List.mapM_nil, List.forall₂_nil_left_iff]
      exact ⟨fun same => (Option.some.inj same).symm, fun same => same ▸ rfl⟩
  | cons item items induction =>
      rw [List.mapM_cons, List.forall₂_cons_left_iff]
      constructor
      · intro known
        obtain ⟨value, first, known⟩ := Option.bind_eq_some_iff.mp known
        obtain ⟨others, rest, known⟩ := Option.bind_eq_some_iff.mp known
        exact ⟨value, others, first, induction.mp rest,
          (Option.some.inj known).symm⟩
      · rintro ⟨value, others, first, rest, rfl⟩
        rw [first, induction.mpr rest]
        rfl

variable {text : List Char}

theorem hexDigitValue?_of_digitValue? {c : Char} (digit : (digitValue? c).isSome) :
    (hexDigitValue? c).isSome := by
  rw [digitValue?] at digit
  split at digit
  · rename_i within
    rw [hexDigitValue?, if_pos within]
    rfl
  · simp at digit

theorem head?_of_mapM {α β : Type} {read : α → Option β} {items : List α}
    {values : List β} (known : items.mapM read = some values) :
    values.head? = items.head?.bind read := by
  cases mapM_eq_some_iff.mp known with
  | nil => rfl
  | cons first rest => exact first.symm

theorem forall_of_mapM {α β : Type} {read : α → Option β} {items : List α}
    {values : List β} {P : α → Prop} (known : items.mapM read = some values)
    (each : ∀ item value, read item = some value → P item) :
    ∀ item ∈ items, P item :=
  ((List.forall₂_and_left _ _).mp ((mapM_eq_some_iff.mp known).imp fun item value eq =>
    ⟨each item value eq, eq⟩)).1

theorem isSome_of_mapM {value? : Char → Option Nat} {digits : List Nat}
    (read : text.mapM value? = some digits) : ∀ c ∈ text, (value? c).isSome :=
  forall_of_mapM read fun _ _ known => Option.isSome_of_eq_some known

end Text

/-- A character that can stand in the text of an IP address. -/
def Ip.Spells (c : Char) : Prop :=
  c = '.' ∨ c = ':' ∨ (Text.hexDigitValue? c).isSome

instance (c : Char) : Decidable (Ip.Spells c) :=
  inferInstanceAs (Decidable (_ ∨ _ ∨ _))

namespace Ipv4

theorem isSome_of_readPart {text : List Char} {value : UInt8}
    (read : readPart text = some value) : ∀ c ∈ text, (Text.digitValue? c).isSome := by
  obtain ⟨digits, all, -⟩ := Option.bind_eq_some_iff.mp read
  exact Text.isSome_of_mapM all

theorem dotted_of_read {text : List Char} {ip : Ipv4}
    (read : Ipv4.read text = some ip) :
    ∀ c ∈ text, c = '.' ∨ (Text.digitValue? c).isSome := by
  rw [Ipv4.read] at read
  split at read
  · rename_i a b c d parts
    obtain ⟨_, first, read⟩ := Option.bind_eq_some_iff.mp read
    obtain ⟨_, second, read⟩ := Option.bind_eq_some_iff.mp read
    obtain ⟨_, third, read⟩ := Option.bind_eq_some_iff.mp read
    obtain ⟨_, fourth, -⟩ := Option.bind_eq_some_iff.mp read
    have each : ∀ part ∈ Text.split '.' text, ∀ c ∈ part,
        c = '.' ∨ (Text.digitValue? c).isSome := by
      rw [parts]
      simp only [List.forall_mem_cons, List.not_mem_nil, false_implies, implies_true]
      exact ⟨fun c member => .inr (isSome_of_readPart first c member),
        fun c member => .inr (isSome_of_readPart second c member),
        fun c member => .inr (isSome_of_readPart third c member),
        fun c member => .inr (isSome_of_readPart fourth c member), trivial⟩
    exact Text.forall_mem_of_split (.inl rfl) each
  · simp at read

theorem spells_of_read {text : List Char} {ip : Ipv4}
    (read : Ipv4.read text = some ip) : ∀ c ∈ text, Ip.Spells c := by
  intro c member
  rcases dotted_of_read read c member with dot | digit
  · exact .inl dot
  · exact .inr (.inr (Text.hexDigitValue?_of_digitValue? digit))

theorem read_eq_none {text : List Char} (colon : ':' ∈ text) :
    Ipv4.read text = none := by
  refine Option.eq_none_iff_forall_ne_some.mpr fun ip read => ?_
  exact absurd (dotted_of_read read ':' colon) (by decide)

end Ipv4

namespace Ipv6

theorem spells_of_readGroup {text : List Char} {group : UInt16}
    (read : readGroup text = some group) : ∀ c ∈ text, Ip.Spells c := by
  obtain ⟨digits, all, -⟩ := Option.bind_eq_some_iff.mp read
  exact fun c member => .inr (.inr (Text.isSome_of_mapM all c member))

theorem spells_of_readLast {text : List Char} {groups : List UInt16}
    (read : readLast text = some groups) : ∀ c ∈ text, Ip.Spells c := by
  rw [readLast] at read
  split at read
  · rename_i dotted
    exact Ipv4.spells_of_read dotted
  · obtain ⟨group, single, -⟩ := Option.map_eq_some_iff.mp read
    exact spells_of_readGroup single

theorem spells_of_readParts {parts : List (List Char)} {groups : List UInt16}
    (read : readParts parts = some groups) :
    ∀ part ∈ parts, ∀ c ∈ part, Ip.Spells c := by
  induction parts generalizing groups with
  | nil => simp
  | cons part parts induction =>
      cases parts with
      | nil => simpa using spells_of_readLast read
      | cons next parts =>
          rw [readParts] at read
          · obtain ⟨_, first, read⟩ := Option.bind_eq_some_iff.mp read
            obtain ⟨_, others, -⟩ := Option.bind_eq_some_iff.mp read
            exact List.forall_mem_cons.mpr
              ⟨spells_of_readGroup first, induction others⟩
          · simp

theorem spells_of_split {text : List Char}
    (parts : ∀ part ∈ Text.split ':' text, ∀ c ∈ part, Ip.Spells c) :
    ∀ c ∈ text, Ip.Spells c :=
  Text.forall_mem_of_split (.inr (.inl rfl)) parts

theorem spells_of_readBefore {text : List Char} {groups : List UInt16}
    (read : readBefore text = some groups) : ∀ c ∈ text, Ip.Spells c := by
  rw [readBefore] at read
  split at read
  · rename_i empty
    simp [List.isEmpty_iff.mp empty]
  · exact spells_of_split
      (Text.forall_of_mapM read fun _ _ => spells_of_readGroup)

theorem spells_of_readAfter {text : List Char} {groups : List UInt16}
    (read : readAfter text = some groups) : ∀ c ∈ text, Ip.Spells c := by
  rw [readAfter] at read
  split at read
  · rename_i empty
    simp [List.isEmpty_iff.mp empty]
  · exact spells_of_split (spells_of_readParts read)

theorem spells_of_read {text : List Char} {ip : Ipv6}
    (read : Ipv6.read text = some ip) : ∀ c ∈ text, Ip.Spells c := by
  rw [Ipv6.read] at read
  split at read
  · obtain ⟨groups, parts, -⟩ := Option.bind_eq_some_iff.mp read
    exact spells_of_split (spells_of_readParts parts)
  · rename_i before after cut
    obtain ⟨front, first, read⟩ := Option.bind_eq_some_iff.mp read
    obtain ⟨back, second, -⟩ := Option.bind_eq_some_iff.mp read
    rw [Text.eq_of_splitDouble? cut, List.forall_mem_append]
    refine ⟨spells_of_readBefore first, ?_⟩
    simp only [List.forall_mem_cons]
    exact ⟨.inr (.inl rfl), .inr (.inl rfl), spells_of_readAfter second⟩

end Ipv6

namespace Ip

variable {text : List Char} {ip : Ip}

/-- Whatever the spelling of an IP address, it has only dots, colons and hexadecimal
digits of either case. -/
theorem spells_of_read (read : Ip.read text = some ip) : ∀ c ∈ text, Spells c := by
  rw [Ip.read] at read
  split at read
  · rename_i dotted
    exact Ipv4.spells_of_read dotted
  · obtain ⟨address, grouped, -⟩ := Option.map_eq_some_iff.mp read
    exact Ipv6.spells_of_read grouped

theorem ne_nil_of_read (read : Ip.read text = some ip) : text ≠ [] := by
  rintro rfl
  have empty : Ip.read [] = none := by decide
  rw [empty] at read
  cases read

end Ip

namespace Address

variable {host : List Char}

@[simp] theorem unbracket_bracketed (host : List Char) :
    unbracket (['['] ++ host ++ [']']) = host := by
  simp [unbracket]

def Bracketed (host : List Char) : Prop :=
  ∃ inner, host = ['['] ++ inner ++ [']']

theorem head?_of_bracketed (bracketed : Bracketed host) : host.head? = some '[' := by
  obtain ⟨inner, rfl⟩ := bracketed
  rfl

theorem unbracket_of_not_bracketed (bare : ¬ Bracketed host) :
    unbracket host = host := by
  match host, bare with
  | [], _ => rfl
  | c :: rest, bare =>
      unfold unbracket
      split
      · rename_i same
        obtain ⟨rfl, rfl⟩ := List.cons.inj same
        refine if_neg fun last => bare ?_
        obtain ⟨inner, rfl⟩ := List.getLast?_eq_some_iff.mp last
        exact ⟨inner, rfl⟩
      · rfl

variable {ip : Ip}

theorem not_bracketed_of_read (read : Ip.read host = some ip) : ¬ Bracketed host := by
  intro bracketed
  have first := List.mem_of_head? (head?_of_bracketed bracketed)
  exact absurd (Ip.spells_of_read read _ first) (by decide)

theorem ofHost_of_read {host : String} (read : Ip.read host.toList = some ip)
    (port : Port) : ofHost host port = ⟨host, port⟩ := by
  rw [ofHost, unbracket_of_not_bracketed (not_bracketed_of_read read),
    String.ofList_toList]

theorem resolve_of_read {host : String} (read : Ip.read host.toList = some ip)
    (port : Port) (names : NameService) :
    resolve names ⟨host, port⟩ = .ok ⟨ip, port⟩ := by
  have alone : candidates names ⟨host, port⟩ = .ok [ip] := by
    rw [candidates, read]
  rw [resolve, alone]
  cases ip <;> rfl

end Address

end RemoteMessaging
