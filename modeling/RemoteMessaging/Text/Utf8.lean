/-!
# UTF-8

Decoding follows the table of well-formed byte sequences: no overlong forms, no
surrogates, nothing above U+10FFFF.  A fault names the index at which it starts
and how many bytes were still acceptable there; a sequence that only lacks its
end is told apart from one that is wrong.
-/

namespace RemoteMessaging.Text

/-- Why bytes are not UTF-8: the first bad sequence starts at `start`. -/
inductive Utf8Fault where
  | invalid (start : Nat) (length : Nat)
  | incomplete (start : Nat)
  deriving DecidableEq, Repr

namespace Utf8Fault

def message : Utf8Fault → String
  | .invalid start length =>
      s!"invalid utf-8 sequence of {length} bytes from index {start}"
  | .incomplete start =>
      s!"incomplete utf-8 byte sequence from index {start}"

end Utf8Fault

def utf8 (text : List Char) : List UInt8 :=
  text.flatMap String.utf8EncodeChar

/-- The shape of a sequence by its first byte: the bits it contributes, the
closed range of the second byte, and how many bytes follow the second. -/
def leadByte? (byte : UInt8) : Option (Nat × UInt8 × UInt8 × Nat) :=
  if 0xc2 ≤ byte ∧ byte ≤ 0xdf then some (byte.toNat - 0xc0, 0x80, 0xbf, 0)
  else if byte = 0xe0 then some (0x0, 0xa0, 0xbf, 1)
  else if byte = 0xed then some (0xd, 0x80, 0x9f, 1)
  else if 0xe1 ≤ byte ∧ byte ≤ 0xef then some (byte.toNat - 0xe0, 0x80, 0xbf, 1)
  else if byte = 0xf0 then some (0x0, 0x90, 0xbf, 2)
  else if 0xf1 ≤ byte ∧ byte ≤ 0xf3 then some (byte.toNat - 0xf0, 0x80, 0xbf, 2)
  else if byte = 0xf4 then some (0x4, 0x80, 0x8f, 2)
  else none

/-- What stands at the front of a byte sequence. -/
inductive Utf8Front where
  | char (c : Char) (rest : List UInt8)
  | invalid (length : Nat)
  | incomplete

/-- Reads the continuation bytes after the second.  `value` holds the bits so
far and `length` the number of bytes read. -/
def continueUtf8 (value length : Nat) : Nat → List UInt8 → Utf8Front
  | 0, rest => .char (Char.ofNat value) rest
  | _ + 1, [] => .incomplete
  | missing + 1, byte :: rest =>
      if 0x80 ≤ byte ∧ byte ≤ 0xbf then
        continueUtf8 (64 * value + (byte.toNat - 0x80)) (length + 1) missing rest
      else .invalid length

/-- Reads one character from bytes that start with `byte`. -/
def utf8Front (byte : UInt8) (rest : List UInt8) : Utf8Front :=
  if byte < 0x80 then .char (Char.ofNat byte.toNat) rest
  else
    match leadByte? byte with
    | none => .invalid 1
    | some (bits, low, high, more) =>
        match rest with
        | [] => .incomplete
        | second :: rest =>
            if low ≤ second ∧ second ≤ high then
              continueUtf8 (64 * bits + (second.toNat - 0x80)) 2 more rest
            else .invalid 1

theorem length_of_continueUtf8 {value length missing : Nat} {bytes : List UInt8}
    {c : Char} {rest : List UInt8}
    (front : continueUtf8 value length missing bytes = .char c rest) :
    rest.length ≤ bytes.length := by
  induction missing generalizing value length bytes with
  | zero =>
      simp only [continueUtf8, Utf8Front.char.injEq] at front
      simp [← front.2]
  | succ missing induction =>
      cases bytes with
      | nil => simp [continueUtf8] at front
      | cons byte tail =>
          simp only [continueUtf8] at front
          split at front
          · have shorter := induction front
            simp only [List.length_cons]
            omega
          · simp at front

theorem length_of_utf8Front {byte : UInt8} {bytes : List UInt8} {c : Char}
    {rest : List UInt8} (front : utf8Front byte bytes = .char c rest) :
    rest.length ≤ bytes.length := by
  simp only [utf8Front] at front
  split at front
  · simp only [Utf8Front.char.injEq] at front
    simp [← front.2]
  · split at front
    · simp at front
    · split at front
      · simp at front
      · split at front
        · have shorter := length_of_continueUtf8 front
          simp only [List.length_cons]
          omega
        · simp at front

/-- Decodes bytes of which `start` have been read already. -/
def decodeUtf8From (start : Nat) (bytes : List UInt8) :
    Except Utf8Fault (List Char) :=
  match bytes with
  | [] => .ok []
  | byte :: tail =>
      match front : utf8Front byte tail with
      | .char c rest =>
          have := length_of_utf8Front front
          (decodeUtf8From (start + (tail.length + 1 - rest.length)) rest).map (c :: ·)
      | .invalid length => .error (.invalid start length)
      | .incomplete => .error (.incomplete start)
  termination_by bytes.length

def decodeUtf8 (bytes : List UInt8) : Except Utf8Fault (List Char) :=
  decodeUtf8From 0 bytes

end RemoteMessaging.Text
