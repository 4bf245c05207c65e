import RemoteMessaging.Codec

/-!
# Texts in UTF-8

The bytes of a character have the shape that their first byte announces, and the
bits of its number.  So a text is read from its bytes again, character by character,
and from no other bytes.
-/

namespace RemoteMessaging

namespace Text

theorem continueUtf8_cons (value length missing bits : Nat) (rest : List UInt8) :
    continueUtf8 value length (missing + 1)
        (UInt8.ofNat (bits % 64 + 128) :: rest) =
      continueUtf8 (64 * value + bits % 64) (length + 1) missing rest := by
  have byte : (UInt8.ofNat (bits % 64 + 128)).toNat = bits % 64 + 128 := by
    simp only [UInt8.toNat_ofNat']
    omega
  have within : 0x80 ≤ UInt8.ofNat (bits % 64 + 128) ∧
      UInt8.ofNat (bits % 64 + 128) ≤ 0xbf := by
    simp only [UInt8.le_iff_toNat_le, byte, UInt8.reduceToNat]
    omega
  rw [continueUtf8, if_pos within, byte, Nat.add_sub_cancel]

theorem leadByte?_of_two {byte : UInt8} (low : 0xc2 ≤ byte.toNat)
    (high : byte.toNat ≤ 0xdf) :
    leadByte? byte = some (byte.toNat - 0xc0, 0x80, 0xbf, 0) := by
  have within : 0xc2 ≤ byte ∧ byte ≤ 0xdf := by
    simpa only [UInt8.le_iff_toNat_le, UInt8.reduceToNat] using ⟨low, high⟩
  rw [leadByte?, if_pos within]

theorem leadByte?_of_three {byte : UInt8} (low : 0xe0 ≤ byte.toNat)
    (high : byte.toNat ≤ 0xef) :
    leadByte? byte = some (byte.toNat - 0xe0,
      if byte.toNat = 0xe0 then 0xa0 else 0x80,
      if byte.toNat = 0xed then 0x9f else 0xbf, 1) := by
  simp only [leadByte?, UInt8.le_iff_toNat_le, ← UInt8.toNat_inj,
    UInt8.reduceToNat]
  grind

theorem leadByte?_of_four {byte : UInt8} (low : 0xf0 ≤ byte.toNat)
    (high : byte.toNat ≤ 0xf4) :
    leadByte? byte = some (byte.toNat - 0xf0,
      if byte.toNat = 0xf0 then 0x90 else 0x80,
      if byte.toNat = 0xf4 then 0x8f else 0xbf, 2) := by
  simp only [leadByte?, UInt8.le_iff_toNat_le, ← UInt8.toNat_inj,
    UInt8.reduceToNat]
  grind

theorem utf8Front_of_lead {byte low high : UInt8} {bits more second : Nat}
    (large : 0x80 ≤ byte.toNat)
    (lead : leadByte? byte = some (bits, low, high, more))
    (within : low.toNat ≤ second % 64 + 128 ∧ second % 64 + 128 ≤ high.toNat)
    (rest : List UInt8) :
    utf8Front byte (UInt8.ofNat (second % 64 + 128) :: rest) =
      continueUtf8 (64 * bits + second % 64) 2 more rest := by
  have value : (UInt8.ofNat (second % 64 + 128)).toNat = second % 64 + 128 := by
    simp only [UInt8.toNat_ofNat']
    omega
  have notAscii : ¬ byte < 0x80 := by
    simpa only [UInt8.lt_iff_toNat_lt, UInt8.reduceToNat, Nat.not_lt] using large
  have within' : low ≤ UInt8.ofNat (second % 64 + 128) ∧
      UInt8.ofNat (second % 64 + 128) ≤ high := by
    simpa only [UInt8.le_iff_toNat_le, value] using within
  simp only [utf8Front, if_neg notAscii, lead, if_pos within', value,
    Nat.add_sub_cancel]

/-- A character is read from its bytes, whatever follows. -/
theorem utf8Front_utf8EncodeChar (c : Char) (rest : List UInt8) :
    ∃ byte tail, String.utf8EncodeChar c = byte :: tail ∧
      utf8Front byte (tail ++ rest) = .char c rest := by
  have valid : c.val.toNat.isValidChar := c.valid
  have char : Char.ofNat c.val.toNat = c := Char.ofNat_toNat c
  rw [String.utf8EncodeChar]
  generalize c.val.toNat = value at valid char ⊢
  have reads : ∀ number, number = value →
      Utf8Front.char (Char.ofNat number) rest = .char c rest := by
    rintro _ rfl
    rw [char]
  split
  · rename_i small
    refine ⟨_, _, rfl, ?_⟩
    have same : (UInt8.ofNat value).toNat = value := by
      simp only [UInt8.toNat_ofNat']
      omega
    have ascii : UInt8.ofNat value < 0x80 := by
      simp only [UInt8.lt_iff_toNat_lt, same, UInt8.reduceToNat]
      omega
    rw [utf8Front, if_pos ascii, same]
    exact reads value rfl
  · split
    · rename_i large small
      refine ⟨_, _, rfl, ?_⟩
      have same : (UInt8.ofNat (value / 64 % 32 + 192)).toNat =
          value / 64 + 192 := by
        simp only [UInt8.toNat_ofNat']
        omega
      rw [List.singleton_append, utf8Front_of_lead (by omega)
        (leadByte?_of_two (by omega) (by omega))]
      · refine reads _ ?_
        omega
      · simp only [UInt8.reduceToNat]
        omega
    · split
      · rename_i large small
        refine ⟨_, _, rfl, ?_⟩
        have same : (UInt8.ofNat (value / 4096 % 16 + 224)).toNat =
            value / 4096 + 224 := by
          simp only [UInt8.toNat_ofNat']
          omega
        rw [List.cons_append, List.singleton_append, utf8Front_of_lead (by omega)
          (leadByte?_of_three (by omega) (by omega)), continueUtf8_cons]
        · refine reads _ ?_
          omega
        · simp only [apply_ite UInt8.toNat, UInt8.reduceToNat, same]
          constructor <;> split <;> omega
      · rename_i large
        refine ⟨_, _, rfl, ?_⟩
        have same : (UInt8.ofNat (value / 262144 % 8 + 240)).toNat =
            value / 262144 + 240 := by
          simp only [UInt8.toNat_ofNat']
          omega
        rw [List.cons_append, List.cons_append, List.singleton_append,
          utf8Front_of_lead (by omega)
            (leadByte?_of_four (by omega) (by omega)),
          continueUtf8_cons, continueUtf8_cons]
        · refine reads _ ?_
          omega
        · simp only [apply_ite UInt8.toNat, UInt8.reduceToNat, same]
          constructor <;> split <;> omega

theorem decodeUtf8From_utf8 (start : Nat) (text : List Char) :
    decodeUtf8From start (utf8 text) = .ok text := by
  induction text generalizing start with
  | nil => rw [utf8, List.flatMap_nil, decodeUtf8From]
  | cons c text induction =>
      obtain ⟨byte, tail, bytes, front⟩ :=
        utf8Front_utf8EncodeChar c (utf8 text)
      have whole : utf8 (c :: text) = byte :: (tail ++ utf8 text) := by
        rw [utf8, List.flatMap_cons, bytes, List.cons_append, utf8]
      rw [whole, decodeUtf8From]
      split
      · rename_i c' rest again
        obtain ⟨rfl, rfl⟩ := Utf8Front.char.inj (front.symm.trans again)
        rw [induction]
        rfl
      · rename_i again
        simp [front] at again
      · rename_i again
        simp [front] at again

theorem decodeUtf8_utf8 (text : List Char) :
    decodeUtf8 (utf8 text) = .ok text :=
  decodeUtf8From_utf8 0 text

section Bytes

variable {byte : UInt8} {tail rest : List UInt8} {c : Char} {value : Nat}

theorem toNat_ofNat (valid : value.isValidChar) :
    (Char.ofNat value).val.toNat = value := by
  rw [Char.ofNat, dif_pos valid]
  rfl

theorem ofNat_of_toNat {number : Nat} (same : byte.toNat = number) :
    UInt8.ofNat number = byte :=
  same ▸ UInt8.ofNat_toNat

theorem utf8EncodeChar_of_one (small : byte.toNat < 0x80) :
    String.utf8EncodeChar (Char.ofNat byte.toNat) = [byte] := by
  rw [String.utf8EncodeChar, toNat_ofNat (.inl (by omega))]
  simp only [if_pos (show byte.toNat ≤ 127 by omega), UInt8.ofNat_toNat]

theorem utf8EncodeChar_of_two (byte second : UInt8) (large : 0x80 ≤ value)
    (small : value ≤ 0x7ff)
    (first : byte.toNat = value / 64 % 32 + 192)
    (last : second.toNat = value % 64 + 128) :
    String.utf8EncodeChar (Char.ofNat value) = [byte, second] := by
  rw [String.utf8EncodeChar, toNat_ofNat (.inl (by omega))]
  simp only [if_neg (show ¬ value ≤ 127 by omega), if_pos small,
    ofNat_of_toNat first, ofNat_of_toNat last]

theorem utf8EncodeChar_of_three (byte second third : UInt8) (large : 0x800 ≤ value)
    (small : value ≤ 0xffff) (valid : value.isValidChar)
    (first : byte.toNat = value / 4096 % 16 + 224)
    (next : second.toNat = value / 64 % 64 + 128)
    (last : third.toNat = value % 64 + 128) :
    String.utf8EncodeChar (Char.ofNat value) = [byte, second, third] := by
  rw [String.utf8EncodeChar, toNat_ofNat valid]
  simp only [if_neg (show ¬ value ≤ 127 by omega),
    if_neg (show ¬ value ≤ 2047 by omega), if_pos small, ofNat_of_toNat first,
    ofNat_of_toNat next, ofNat_of_toNat last]

theorem utf8EncodeChar_of_four (byte second third fourth : UInt8)
    (large : 0x10000 ≤ value) (small : value < 0x110000)
    (first : byte.toNat = value / 262144 % 8 + 240)
    (next : second.toNat = value / 4096 % 64 + 128)
    (next' : third.toNat = value / 64 % 64 + 128)
    (last : fourth.toNat = value % 64 + 128) :
    String.utf8EncodeChar (Char.ofNat value) = [byte, second, third, fourth] := by
  rw [String.utf8EncodeChar, toNat_ofNat (.inr (by omega))]
  simp only [if_neg (show ¬ value ≤ 127 by omega),
    if_neg (show ¬ value ≤ 2047 by omega), if_neg (show ¬ value ≤ 65535 by omega),
    ofNat_of_toNat first, ofNat_of_toNat next, ofNat_of_toNat next',
    ofNat_of_toNat last]

theorem of_continueUtf8 {length missing : Nat} {bytes : List UInt8}
    (front : continueUtf8 value length (missing + 1) bytes = .char c rest) :
    ∃ byte tail, bytes = byte :: tail ∧ 0x80 ≤ byte.toNat ∧ byte.toNat ≤ 0xbf ∧
      continueUtf8 (64 * value + (byte.toNat - 0x80)) (length + 1) missing tail =
        .char c rest := by
  cases bytes with
  | nil => cases front
  | cons byte tail =>
      rw [continueUtf8] at front
      split at front
      · rename_i within
        simp only [UInt8.le_iff_toNat_le, UInt8.reduceToNat] at within
        exact ⟨byte, tail, rfl, within.1, within.2, front⟩
      · cases front

/-- What a first byte announces.  The second byte is bounded so that no character
has a longer form than it needs, and none is a surrogate or too large. -/
theorem of_leadByte? {bits more : Nat} {low high : UInt8}
    (lead : leadByte? byte = some (bits, low, high, more)) :
    more = 0 ∧ byte.toNat = bits + 0xc0 ∧ 2 ≤ bits ∧ bits < 0x20 ∧
        low.toNat = 0x80 ∧ high.toNat = 0xbf ∨
      more = 1 ∧ byte.toNat = bits + 0xe0 ∧ bits < 0x10 ∧
        (bits = 0 → 0xa0 ≤ low.toNat) ∧ 0x80 ≤ low.toNat ∧
        (bits = 0xd → high.toNat ≤ 0x9f) ∧ high.toNat ≤ 0xbf ∨
      more = 2 ∧ byte.toNat = bits + 0xf0 ∧ bits ≤ 4 ∧
        (bits = 0 → 0x90 ≤ low.toNat) ∧ 0x80 ≤ low.toNat ∧
        (bits = 4 → high.toNat ≤ 0x8f) ∧ high.toNat ≤ 0xbf := by
  simp only [leadByte?, UInt8.le_iff_toNat_le, ← UInt8.toNat_inj,
    UInt8.reduceToNat] at lead
  repeat' split at lead
  all_goals
    simp only [Option.some.injEq, Prod.mk.injEq, ← UInt8.toNat_inj,
      UInt8.reduceToNat, reduceCtorEq] at lead
  all_goals omega

/-- A character is read from nothing but its own bytes. -/
theorem eq_of_utf8Front (front : utf8Front byte tail = .char c rest) :
    byte :: tail = String.utf8EncodeChar c ++ rest := by
  rw [utf8Front] at front
  split at front
  · rename_i ascii
    obtain ⟨rfl, rfl⟩ := Utf8Front.char.inj front
    have small : byte.toNat < 0x80 := by
      simpa only [UInt8.lt_iff_toNat_lt, UInt8.reduceToNat] using ascii
    rw [utf8EncodeChar_of_one small, List.singleton_append]
  split at front
  · cases front
  rename_i bits low high more lead
  split at front
  · cases front
  rename_i second after
  split at front
  · rename_i within
    simp only [UInt8.le_iff_toNat_le] at within
    rcases of_leadByte? lead with
      ⟨rfl, first, some, few, above, below⟩ |
        ⟨rfl, first, few, long, above, surrogate, below⟩ |
        ⟨rfl, first, few, long, above, large, below⟩
    · obtain ⟨rfl, rfl⟩ := Utf8Front.char.inj front
      exact congrArg (· ++ after) (utf8EncodeChar_of_two byte second (by omega)
        (by omega) (by omega) (by omega)).symm
    · obtain ⟨third, after, rfl, above', below', front⟩ := of_continueUtf8 front
      obtain ⟨rfl, rfl⟩ := Utf8Front.char.inj front
      have valid : (64 * (64 * bits + (second.toNat - 128)) +
          (third.toNat - 128)).isValidChar := by
        unfold Nat.isValidChar
        omega
      exact congrArg (· ++ after) (utf8EncodeChar_of_three byte second third (by omega)
        (by omega) valid (by omega) (by omega) (by omega)).symm
    · obtain ⟨third, after, rfl, above', below', front⟩ := of_continueUtf8 front
      obtain ⟨fourth, after, rfl, above'', below'', front⟩ := of_continueUtf8 front
      obtain ⟨rfl, rfl⟩ := Utf8Front.char.inj front
      exact congrArg (· ++ after) (utf8EncodeChar_of_four byte second third fourth
        (by omega) (by omega) (by omega) (by omega) (by omega) (by omega)).symm
  · cases front

theorem eq_utf8_of_decodeUtf8From {start : Nat} {bytes : List UInt8}
    {text : List Char} (decoded : decodeUtf8From start bytes = .ok text) :
    bytes = utf8 text := by
  fun_induction decodeUtf8From start bytes generalizing text with
  | case1 start =>
      obtain rfl := Except.ok.inj decoded
      rfl
  | case2 start byte tail c rest front shorter induction =>
      cases others : decodeUtf8From (start + (tail.length + 1 - rest.length)) rest with
      | error fault =>
          rw [others] at decoded
          cases decoded
      | ok text' =>
          rw [others] at decoded
          obtain rfl := Except.ok.inj decoded
          rw [eq_of_utf8Front front, induction others]
          rfl
  | case3 start byte tail length front => cases decoded
  | case4 start byte tail front => cases decoded

theorem decodeUtf8_eq_ok_iff {bytes : List UInt8} {text : List Char} :
    decodeUtf8 bytes = .ok text ↔ bytes = utf8 text := by
  constructor
  · exact eq_utf8_of_decodeUtf8From
  · rintro rfl
    exact decodeUtf8_utf8 text

end Bytes

end Text

theorem Codec.decode_text_encode {message : String} {payload : List UInt8}
    (encoded : Codec.text.encode message = .ok payload) :
    Codec.text.decode payload = .ok message := by
  obtain rfl := Except.ok.inj encoded
  simp only [Codec.text, Text.decodeUtf8_utf8, String.ofList_toList]

end RemoteMessaging
