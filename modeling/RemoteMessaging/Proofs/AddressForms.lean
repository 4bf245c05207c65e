import RemoteMessaging.Proofs.IpText

/-!
# The forms of addresses

A text is read as an address by what stands before and behind its last colon: a host
in some form and a numeral for the port.  Besides the two forms that addresses are
meant to have, a host with colons is read without brackets around it, and so are
brackets with nothing between them.  Two addresses never have the same text form, and
the address of a socket is resolved to that of the socket again.
-/

namespace RemoteMessaging

namespace Address

variable {text host port inner : List Char} {address : Address}
variable {Form Other : List Char → List Char → Prop}

def Written (Form : List Char → List Char → Prop) (text : List Char)
    (address : Address) : Prop :=
  ∃ host port, text = host ++ ':' :: port ∧ Form host address.host.toList ∧
    Text.Numeral port address.port.toNat

theorem splitLast?_of_numeral {value : Nat} (host : List Char)
    (numeral : Text.Numeral port value) :
    Text.splitLast? ':' (host ++ ':' :: port) = some (host, port) :=
  Text.splitLast?_append host
    (numeral.not_mem (c := ':') (by decide) (by decide))

theorem Written.both (written : Written Form text address)
    (other : Written Other text address) :
    ∃ host, Form host address.host.toList ∧ Other host address.host.toList := by
  obtain ⟨host, port, rfl, form, numeral⟩ := written
  obtain ⟨host', port', same, form', numeral'⟩ := other
  have cut := splitLast?_of_numeral host numeral
  rw [same, splitLast?_of_numeral host' numeral'] at cut
  obtain ⟨rfl, -⟩ := Prod.mk.inj (Option.some.inj cut)
  exact ⟨_, form, form'⟩

/-- What is made of the text of a host. -/
def Taken (text host : List Char) : Prop :=
  text ≠ [] ∧ host = unbracket text

theorem parse_eq_ok_iff {text : String} :
    parse text = .ok address ↔ Written Taken text.toList address := by
  constructor
  · intro parsed
    rw [parse, read] at parsed
    split at parsed
    · cases parsed
    · rename_i host port cut
      split at parsed
      · cases parsed
      · rename_i nonempty
        split at parsed
        · rename_i number known
          obtain rfl := Except.ok.inj parsed
          refine ⟨host, port, Text.eq_of_splitLast? cut, ⟨by simpa using nonempty, ?_⟩,
            Text.readUInt16_eq_ok_iff.mp known⟩
          simp [ofHost]
        · cases parsed
  · rintro ⟨host, port, divided, ⟨nonempty, taken⟩, numeral⟩
    have cut := splitLast?_of_numeral host numeral
    have named : host.isEmpty = false := List.isEmpty_eq_false_iff.mpr nonempty
    rw [parse, read, divided, cut]
    simp only [named, Text.readUInt16_eq_ok_iff.mpr numeral, ofHost, String.toList_ofList,
      ← taken, String.ofList_toList]
    rfl

/-- The forms that a host is meant to have: as it is if it has no colon, or in
brackets. -/
def Regular (text host : List Char) : Prop :=
  host ≠ [] ∧ (text = host ∧ ':' ∉ host ∨ text = ['['] ++ host ++ [']'])

/-- The other forms in which a host is read: none at all in brackets, or one with
colons as it is. -/
def Stray (text host : List Char) : Prop :=
  host = [] ∧ text = ['[', ']'] ∨ text = host ∧ ':' ∈ host ∧ ¬ Bracketed host

theorem Stray.not_regular (stray : Stray text host) : ¬ Regular text host := by
  rintro ⟨named, regular⟩
  obtain ⟨empty, -⟩ | ⟨rfl, colon, bare⟩ := stray
  · exact named empty
  · rcases regular with ⟨-, free⟩ | bracketed
    · exact free colon
    · exact bare ⟨_, bracketed⟩

theorem Stray.taken (stray : Stray text host) : Taken text host := by
  obtain ⟨rfl, rfl⟩ | ⟨rfl, colon, bare⟩ := stray
  · exact ⟨by simp, rfl⟩
  · exact ⟨List.ne_nil_of_mem colon, (unbracket_of_not_bracketed bare).symm⟩

theorem Regular.ne_nil (regular : Regular text host) : text ≠ [] := by
  obtain ⟨named, ⟨rfl, -⟩ | rfl⟩ := regular
  · exact named
  · simp

theorem Taken.cases (taken : Taken text host) : Regular text host ∨ Stray text host := by
  obtain ⟨named, rfl⟩ := taken
  by_cases bracketed : Bracketed text
  · obtain ⟨inner, rfl⟩ := bracketed
    rw [unbracket_bracketed]
    by_cases empty : inner = []
    · rw [empty]
      exact .inr (.inl ⟨rfl, rfl⟩)
    · exact .inl ⟨empty, .inr rfl⟩
  · rw [unbracket_of_not_bracketed bracketed]
    by_cases colon : ':' ∈ text
    · exact .inr (.inr ⟨rfl, colon, bracketed⟩)
    · exact .inl ⟨named, .inl ⟨rfl, colon⟩⟩

theorem written_cases (written : Written Taken text address) :
    Written Regular text address ∨ Written Stray text address := by
  obtain ⟨host, port, divided, taken, numeral⟩ := written
  exact taken.cases.imp (fun form => ⟨host, port, divided, form, numeral⟩)
    fun form => ⟨host, port, divided, form, numeral⟩

theorem taken_of_stray (written : Written Stray text address) :
    Written Taken text address := by
  obtain ⟨host, port, divided, stray, numeral⟩ := written
  exact ⟨host, port, divided, stray.taken, numeral⟩

theorem not_regular_of_stray (written : Written Stray text address) :
    ¬ Written Regular text address := by
  intro other
  obtain ⟨host, stray, regular⟩ := written.both other
  exact stray.not_regular regular

/-- Brackets may be taken off a host, but of some host the text is read. -/
theorem exists_taken_of_regular (written : Written Regular text address) :
    ∃ address, Written Taken text address := by
  obtain ⟨host, port, divided, regular, numeral⟩ := written
  refine ⟨⟨String.ofList (unbracket host), address.port⟩, host, port, divided,
    ⟨regular.ne_nil, ?_⟩, numeral⟩
  rw [String.toList_ofList]

/-- A text that is read as an address is written in a regular form or in a stray one,
but not in both; and every text that is written so is read. -/
theorem reads_regular_or_stray (text : String) :
    (∀ address, parse text = .ok address →
      (Written Regular text.toList address ↔
        ¬ Written Stray text.toList address)) ∧
    ((∃ address, parse text = .ok address) ↔
      ∃ address, Written Regular text.toList address ∨
        Written Stray text.toList address) := by
  simp only [parse_eq_ok_iff]
  refine ⟨fun address taken => ⟨fun regular stray => ?_, fun other => ?_⟩, ?_, ?_⟩
  · exact not_regular_of_stray stray regular
  · exact (written_cases taken).resolve_right other
  · rintro ⟨address, taken⟩
    exact ⟨address, written_cases taken⟩
  · rintro ⟨address, regular | stray⟩
    · exact exists_taken_of_regular regular
    · exact ⟨address, taken_of_stray stray⟩

/-- Two texts that are read though they are in no regular form: one with nothing between
brackets, and an IPv6 address without a port. -/
theorem reads_stray_hosts :
    (parse "[]:80" = .ok ⟨"", 80⟩ ∧ ¬ Written Regular "[]:80".toList ⟨"", 80⟩) ∧
      parse "fe80::1" = .ok ⟨"fe80:", 1⟩ ∧
      ¬ Written Regular "fe80::1".toList ⟨"fe80:", 1⟩ := by
  have hollow : Written Stray "[]:80".toList ⟨"", 80⟩ :=
    ⟨['[', ']'], Text.decimal 80, rfl, .inl ⟨rfl, rfl⟩, Text.numeral_decimal 80⟩
  have unbracketed : ¬ Bracketed ['f', 'e', '8', '0', ':'] := fun bracketed =>
    absurd (head?_of_bracketed bracketed) (by decide)
  have bare : Written Stray "fe80::1".toList ⟨"fe80:", 1⟩ :=
    ⟨['f', 'e', '8', '0', ':'], Text.decimal 1, rfl, .inr ⟨rfl, by decide, unbracketed⟩,
      Text.numeral_decimal 1⟩
  exact ⟨⟨parse_eq_ok_iff.mpr (taken_of_stray hollow), not_regular_of_stray hollow⟩,
    parse_eq_ok_iff.mpr (taken_of_stray bare), not_regular_of_stray bare⟩

def shown (host : List Char) : List Char :=
  if ':' ∈ host then ['['] ++ host ++ [']'] else host

theorem toList_toString (address : Address) :
    (toString address).toList =
      shown address.host.toList ++ ':' :: Text.decimal address.port.toNat := by
  have form : (toString address).toList = address.toChars := String.toList_ofList
  rw [form, toChars, List.append_assoc, List.singleton_append]
  rfl

theorem shown_injective {left right : List Char} (same : shown left = shown right) :
    left = right := by
  unfold shown at same
  split at same <;> split at same
  · simpa using same
  · rename_i colon free
    rw [← same] at free
    simp [colon] at free
  · rename_i free colon
    rw [same] at free
    simp [colon] at free
  · exact same

theorem shown_ne_nil (named : host ≠ []) : shown host ≠ [] := by
  unfold shown
  split
  · simp
  · exact named

theorem unbracket_shown (plain : ':' ∈ host ∨ ¬ Bracketed host) :
    unbracket (shown host) = host := by
  unfold shown
  split
  · exact unbracket_bracketed host
  · rename_i free
    exact unbracket_of_not_bracketed (plain.resolve_left free)

theorem unbracket_shown_bracketed (free : ':' ∉ ['['] ++ inner ++ [']']) :
    unbracket (shown (['['] ++ inner ++ [']'])) = inner := by
  rw [shown, if_neg free, unbracket_bracketed]

theorem toString_injective {left right : Address}
    (same : toString left = toString right) : left = right := by
  have texts := congrArg String.toList same
  rw [toList_toString, toList_toString] at texts
  have cut := splitLast?_of_numeral (shown left.host.toList)
    (Text.numeral_decimal left.port.toNat)
  rw [texts, splitLast?_of_numeral _ (Text.numeral_decimal right.port.toNat)] at cut
  obtain ⟨hosts, ports⟩ := Prod.mk.inj (Option.some.inj cut)
  obtain ⟨host, port⟩ := left
  obtain ⟨host', port'⟩ := right
  have port_eq := congrArg Text.readUInt16 ports
  rw [Text.readUInt16_decimal, Text.readUInt16_decimal] at port_eq
  obtain rfl := Except.ok.inj port_eq
  obtain rfl := String.toList_inj.mp (shown_injective hosts)
  rfl

theorem parse_toString (named : address.host ≠ "") :
    parse (toString address) =
      .ok ⟨String.ofList (unbracket (shown address.host.toList)), address.port⟩ := by
  refine parse_eq_ok_iff.mpr ⟨_, _, toList_toString address, ⟨?_, ?_⟩,
    Text.numeral_decimal _⟩
  · exact shown_ne_nil fun empty => named (String.toList_eq_nil_iff.mp empty)
  · rw [String.toList_ofList]

theorem parse_ofHost {host : String} {ip : Ip} (read : Ip.read host.toList = some ip)
    (port : Port) : parse (toString (ofHost host port)) = .ok (ofHost host port) := by
  have named : host ≠ "" := fun empty =>
    Ip.ne_nil_of_read read (String.toList_eq_nil_iff.mpr empty)
  rw [ofHost_of_read read, parse_toString named,
    unbracket_shown (.inr (not_bracketed_of_read read)), String.ofList_toList]

theorem parse_toString_of_empty (empty : address.host = "") :
    parse (toString address) =
      .error (.configuration (ReadFault.noHost.message (toString address))) := by
  have cut := splitLast?_of_numeral [] (Text.numeral_decimal address.port.toNat)
  have form : (toString address).toList =
      [] ++ ':' :: Text.decimal address.port.toNat := by
    rw [toList_toString, empty]
    rfl
  rw [parse, read, form, cut]
  rfl

/-- The text form tells addresses apart.  It is read back as the address if its host is
not empty and, unless it has a colon, does not stand in brackets.  Without a host it
is refused, and of other hosts the brackets are taken off. -/
theorem text_form_of_address :
    (∀ left right : Address, toString left = toString right → left = right) ∧
    ∀ address : Address,
      (parse (toString address) = .ok address ↔
        address.host ≠ "" ∧
          (':' ∈ address.host.toList ∨ ¬ Bracketed address.host.toList)) ∧
      (address.host = "" → parse (toString address) =
        .error (.configuration (ReadFault.noHost.message (toString address)))) ∧
      (∀ inner, ':' ∉ address.host.toList →
        address.host.toList = ['['] ++ inner ++ [']'] →
        parse (toString address) = .ok ⟨String.ofList inner, address.port⟩) := by
  refine ⟨fun _ _ => toString_injective, fun address => ⟨⟨fun back => ?_, ?_⟩,
    parse_toString_of_empty, fun inner free bracketed => ?_⟩⟩
  · have named : address.host ≠ "" := by
      intro empty
      rw [parse_toString_of_empty empty] at back
      cases back
    refine ⟨named, or_iff_not_imp_left.mpr fun free => ?_⟩
    rintro ⟨inner, bracketed⟩
    rw [bracketed] at free
    rw [parse_toString named, bracketed, unbracket_shown_bracketed free] at back
    have same : String.ofList inner = address.host :=
      congrArg Address.host (Except.ok.inj back)
    rw [← same, String.toList_ofList] at bracketed
    have lengths := congrArg List.length bracketed
    simp only [List.length_append, List.length_singleton] at lengths
    omega
  · rintro ⟨named, plain⟩
    rw [parse_toString named, unbracket_shown plain, String.ofList_toList]
  · have named : address.host ≠ "" := by
      intro empty
      rw [empty] at bracketed
      simp at bracketed
    rw [bracketed] at free
    rw [parse_toString named, bracketed, unbracket_shown_bracketed free]

/-- The text form of the address of a socket is read as that address, which is resolved
to the address of the socket whatever names are known: it is the only candidate. -/
theorem socket_address_returns (socket : SocketAddress) :
    parse (toString (ofSocket socket)) = .ok (ofSocket socket) ∧
      ∀ names, candidates names (ofSocket socket) = .ok [socket.ip] ∧
        resolve names (ofSocket socket) = .ok socket := by
  have read : Ip.read (toString socket.ip).toList = some socket.ip := by
    rw [← Ip.read_toChars socket.ip]
    exact congrArg Ip.read String.toList_ofList
  refine ⟨parse_ofHost read socket.port, fun names => ?_⟩
  have own : ofSocket socket = ⟨toString socket.ip, socket.port⟩ :=
    ofHost_of_read read socket.port
  rw [own]
  refine ⟨?_, resolve_of_read read socket.port names⟩
  rw [candidates, read]

end Address

end RemoteMessaging
