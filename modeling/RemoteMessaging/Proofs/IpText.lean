import RemoteMessaging.Proofs.Addresses

/-!
# IP addresses in text form

An IP address is read back from its text form.  In that of an IPv6 address the run of
groups that is elided has zeros only, so reading puts back what is missing, wherever
the run is.
-/

namespace RemoteMessaging

namespace Text

theorem exists_mapM_toDigits (base : Nat) (value? : Char → Option Nat)
    (large : 1 < base)
    (known : ∀ digit < base, value? digit.digitChar = some digit) (n : Nat) :
    ∃ digits, (Nat.toDigits base n).mapM value? = some digits ∧
      digits.foldl (fun value digit => base * value + digit) 0 = n := by
  induction n using Nat.strongRecOn with
  | ind n induction =>
      rw [Nat.toDigits_eq_if large]
      split
      · rename_i small
        refine ⟨[n], ?_, by simp⟩
        rw [List.mapM_cons, known n small]
        rfl
      · rename_i several
        obtain ⟨digits, front, value⟩ :=
          induction (n / base) (Nat.div_lt_self (by omega) large)
        have last := known (n % base) (Nat.mod_lt n (by omega))
        refine ⟨digits ++ [n % base], ?_, ?_⟩
        · rw [List.mapM_append, front, List.mapM_cons, last]
          rfl
        · rw [List.foldl_append, value]
          exact Nat.div_add_mod n base

theorem eq_of_digitValue?_eq_zero {c : Char} (zero : digitValue? c = some 0) :
    c = '0' := by
  rw [digitValue?] at zero
  split at zero
  · rename_i within
    have low : '0'.toNat ≤ c.toNat := within.1
    have value := Option.some.inj zero
    exact Char.toNat_inj.mp (by omega)
  · simp at zero

theorem eq_zero_of_head?_mapM {n : Nat} {digits : List Nat}
    (read : (decimal n).mapM digitValue? = some digits)
    (zero : digits.head? = some 0) : n = 0 := by
  rw [head?_of_mapM read] at zero
  obtain ⟨c, first, zero⟩ := Option.bind_eq_some_iff.mp zero
  rw [eq_of_digitValue?_eq_zero zero] at first
  exact eq_zero_of_head?_decimal first

end Text

namespace Ipv4

theorem readPart_decimal (part : UInt8) :
    readPart (Text.decimal part.toNat) = some part := by
  obtain ⟨digits, read, value⟩ :=
    Text.exists_mapM_toDigits 10 Text.digitValue? (by decide) (by decide) part.toNat
  have count := (Text.mapM_eq_some_iff.mp read).length_eq
  have small := part.toNat_lt
  have short : (Nat.toDigits 10 part.toNat).length ≤ 3 :=
    (Nat.length_toDigits_le_iff (by decide) (by decide)).mpr (by omega)
  have filled := Nat.length_toDigits_pos (b := 10) (n := part.toNat)
  have leading : ¬ (digits.head? = Option.some 0 ∧ 1 < digits.length) := by
    rintro ⟨zero, several⟩
    have zero := Text.eq_zero_of_head?_mapM read zero
    rw [← count, zero] at several
    exact absurd several (by decide)
  have sized : ¬ (digits.length = 0 ∨ 3 < digits.length) := by omega
  have within : part.toNat ≤ 255 := by omega
  rw [readPart, Text.decimal, read]
  simp only [Option.bind_eq_bind, Option.bind_some]
  rw [if_neg sized, if_neg leading, value, if_pos within]
  exact congrArg Option.some UInt8.ofNat_toNat

theorem read_toChars (ip : Ipv4) : Ipv4.read ip.toChars = some ip := by
  have absent : ∀ part ∈ [Text.decimal ip.a.toNat, Text.decimal ip.b.toNat,
      Text.decimal ip.c.toNat, Text.decimal ip.d.toNat], '.' ∉ part := by
    have free : ∀ n, '.' ∉ Text.decimal n := fun n member =>
      absurd (Text.isDigit_of_mem_decimal member) (by decide)
    simp [free]
  rw [Ipv4.read, toChars, Text.split_join (List.cons_ne_nil _ _) absent]
  simp only [readPart_decimal]
  rfl

theorem colon_not_mem_toChars (ip : Ipv4) : ':' ∉ ip.toChars := by
  intro colon
  have unread := read_eq_none colon
  rw [read_toChars] at unread
  cases unread

theorem read_of_not_mem {text : List Char} (absent : '.' ∉ text) :
    Ipv4.read text = none := by
  rw [Ipv4.read, Text.split_of_not_mem absent]

theorem halves_ofHalves (high low : UInt16) :
    (ofHalves high low).halves = (high, low) := by
  have join : ∀ half : UInt16,
      (half / 256).toUInt8.toUInt16 * 256 + half.toUInt8.toUInt16 = half := by
    intro half
    have small := half.toNat_lt
    apply UInt16.toNat_inj.mp
    simp only [UInt16.toNat_add, UInt16.toNat_mul, UInt8.toNat_toUInt16,
      UInt16.toNat_toUInt8, UInt16.toNat_div, UInt16.reduceToNat]
    omega
  rw [halves, ofHalves, join, join]

end Ipv4

namespace Ipv6

variable {groups : List UInt16}

theorem hexDigits_of_mem {n : Nat} {c : Char} (member : c ∈ Text.hexadecimal n) :
    (Text.hexDigitValue? c).isSome := by
  obtain ⟨digits, read, -⟩ :=
    Text.exists_mapM_toDigits 16 Text.hexDigitValue? (by decide) (by decide) n
  exact Text.isSome_of_mapM read c member

theorem readGroup_hexadecimal (group : UInt16) :
    readGroup (Text.hexadecimal group.toNat) = some group := by
  obtain ⟨digits, read, value⟩ :=
    Text.exists_mapM_toDigits 16 Text.hexDigitValue? (by decide) (by decide) group.toNat
  have count := (Text.mapM_eq_some_iff.mp read).length_eq
  have small := group.toNat_lt
  have short : (Nat.toDigits 16 group.toNat).length ≤ 4 :=
    (Nat.length_toDigits_le_iff (by decide) (by decide)).mpr (by omega)
  have filled := Nat.length_toDigits_pos (b := 16) (n := group.toNat)
  have sized : ¬ (digits.length = 0 ∨ 4 < digits.length) := by omega
  rw [readGroup, Text.hexadecimal, read]
  simp only [Option.bind_eq_bind, Option.bind_some]
  rw [if_neg sized, value]
  exact congrArg Option.some UInt16.ofNat_toNat

theorem readLast_hexadecimal (group : UInt16) :
    readLast (Text.hexadecimal group.toNat) = some [group] := by
  have absent : '.' ∉ Text.hexadecimal group.toNat := fun dot =>
    absurd (hexDigits_of_mem dot) (by decide)
  rw [readLast, Ipv4.read_of_not_mem absent, readGroup_hexadecimal]
  rfl

def texts (groups : List UInt16) : List (List Char) :=
  groups.map fun group => Text.hexadecimal group.toNat

theorem mapM_readGroup_texts (groups : List UInt16) :
    (texts groups).mapM readGroup = some groups := by
  rw [Text.mapM_eq_some_iff, texts, List.forall₂_map_left_iff, List.forall₂_same]
  exact fun group _ => readGroup_hexadecimal group

theorem readParts_texts (groups : List UInt16) :
    readParts (texts groups) = some groups := by
  induction groups with
  | nil => rfl
  | cons group groups induction =>
      cases groups with
      | nil => exact readLast_hexadecimal group
      | cons next groups =>
          rw [texts, List.map_cons, ← texts, readParts, readGroup_hexadecimal, induction]
          · rfl
          · exact List.cons_ne_nil _ _

theorem colon_not_mem_texts : ∀ part ∈ texts groups, ':' ∉ part := by
  intro part member colon
  obtain ⟨group, -, rfl⟩ := List.mem_map.mp member
  exact absurd (hexDigits_of_mem colon) (by decide)

theorem texts_full : ∀ part ∈ texts groups, part ≠ [] := by
  intro part member
  obtain ⟨group, -, rfl⟩ := List.mem_map.mp member
  exact Nat.toDigits_ne_nil

theorem texts_ne_nil (nonempty : groups ≠ []) : texts groups ≠ [] := by
  simpa [texts] using nonempty

theorem split_groupChars (nonempty : groups ≠ []) :
    Text.split ':' (groupChars groups) = texts groups :=
  Text.split_join (texts_ne_nil nonempty) colon_not_mem_texts

theorem isEmpty_groupChars (nonempty : groups ≠ []) :
    (groupChars groups).isEmpty = false := by
  rw [List.isEmpty_eq_false_iff]
  exact Text.join_ne_nil (texts_ne_nil nonempty) texts_full

theorem apart_groupChars (groups : List UInt16) :
    Text.Apart ':' (groupChars groups ++ [':']) :=
  Text.apart_join texts_full colon_not_mem_texts

theorem readBefore_groupChars (groups : List UInt16) :
    readBefore (groupChars groups) = some groups := by
  by_cases nonempty : groups = []
  · rw [nonempty]
    rfl
  · rw [readBefore, isEmpty_groupChars nonempty, split_groupChars nonempty]
    exact mapM_readGroup_texts groups

theorem readAfter_groupChars (groups : List UInt16) :
    readAfter (groupChars groups) = some groups := by
  by_cases nonempty : groups = []
  · rw [nonempty]
    rfl
  · rw [readAfter, isEmpty_groupChars nonempty, split_groupChars nonempty]
    exact readParts_texts groups

/-- Reading puts zeros in the place of a double colon. -/
theorem read_of_elided {before after : List Char} {front back : List UInt16}
    (apart : Text.Apart ':' (before ++ [':']))
    (first : readBefore before = some front) (second : readAfter after = some back)
    (room : front.length + back.length ≤ 7) :
    read (before ++ [':', ':'] ++ after) =
      some ⟨front ++ List.replicate (8 - (front.length + back.length)) 0 ++ back,
        length_filled front back room⟩ := by
  have cut := Text.splitDouble?_append apart after
  rw [read, List.append_assoc]
  simp only [List.cons_append, List.nil_append, cut, first, second,
    Option.bind_eq_bind, Option.bind_some, dif_pos room]

theorem read_groupChars (eight : groups.length = 8) :
    read (groupChars groups) = some ⟨groups, eight⟩ := by
  have nonempty : groups ≠ [] := by
    rintro rfl
    simp at eight
  have whole : Text.splitDouble? ':' (groupChars groups) = none :=
    Text.splitDouble?_of_apart (apart_groupChars groups).left_of_append
  simp only [read, whole, split_groupChars nonempty, readParts_texts,
    Option.bind_eq_bind, Option.bind_some, dif_pos eight]

theorem length_longestZeroRun_le (groups : List UInt16) :
    (longestZeroRun groups).length ≤
      zerosFrom groups (longestZeroRun groups).start := by
  refine List.foldlRecOn
    (motive := fun run : ZeroRun => run.length ≤ zerosFrom groups run.start)
    _ _ (Nat.zero_le _) ?_
  intro best known start _
  split
  · exact Nat.le_refl _
  · exact known

theorem takeWhile_zero (groups : List UInt16) (start : Nat) :
    (groups.drop start).takeWhile (· == 0) =
      List.replicate (zerosFrom groups start) 0 := by
  refine List.eq_replicate_of_mem fun group member => ?_
  simpa using List.all_eq_true.mp List.all_takeWhile group member

/-- Where zeros are counted, zeros can be put for the groups. -/
theorem take_zeros_drop {start length : Nat}
    (within : length ≤ zerosFrom groups start) :
    groups.take start ++ List.replicate length 0 ++ groups.drop (start + length) =
      groups := by
  have zeros : (groups.drop start).take length = List.replicate length 0 := by
    rw [← List.takeWhile_append_dropWhile (p := (· == 0)) (l := groups.drop start),
      takeWhile_zero, List.take_append_of_le_length, List.take_replicate,
      Nat.min_eq_left within]
    rwa [List.length_replicate]
  rw [← zeros, ← List.drop_drop, List.append_assoc, List.take_append_drop,
    List.take_append_drop]

theorem zerosFrom_le (groups : List UInt16) (start : Nat) :
    zerosFrom groups start ≤ groups.length - start := by
  rw [← List.length_drop]
  exact (List.takeWhile_prefix _).length_le

theorem eq_of_mapped? {ip : Ipv4} (mapped : mapped? groups = some ip) :
    ∃ high low, groups = [0, 0, 0, 0, 0, 0xffff, high, low] ∧
      ip = Ipv4.ofHalves high low := by
  unfold mapped? at mapped
  split at mapped
  · exact ⟨_, _, rfl, (Option.some.inj mapped).symm⟩
  · simp at mapped

theorem readAfter_embedded (ip : Ipv4) :
    readAfter (['f', 'f', 'f', 'f'] ++ ':' :: ip.toChars) =
      some [0xffff, ip.halves.1, ip.halves.2] := by
  have prefixed : readGroup ['f', 'f', 'f', 'f'] = some 0xffff := by decide
  have dotted : readLast ip.toChars = some [ip.halves.1, ip.halves.2] := by
    rw [readLast, Ipv4.read_toChars]
  have cut : Text.split ':' (['f', 'f', 'f', 'f'] ++ ':' :: ip.toChars) =
      [['f', 'f', 'f', 'f'], ip.toChars] := by
    rw [Text.split_append (by decide), Text.split_of_not_mem ip.colon_not_mem_toChars]
  rw [readAfter, cut]
  simp only [readParts, prefixed, dotted]
  rfl

theorem read_toChars (ip : Ipv6) : Ipv6.read ip.toChars = some ip := by
  obtain ⟨groups, eight⟩ := ip
  rw [toChars]
  split
  · rename_i embedded mapped
    obtain ⟨high, low, rfl, rfl⟩ := eq_of_mapped? mapped
    have back := readAfter_embedded (Ipv4.ofHalves high low)
    rw [Ipv4.halves_ofHalves] at back
    have front : readBefore [] = some [] := rfl
    have apart : Text.Apart ':' ([] ++ [':']) := List.isChain_singleton _
    exact read_of_elided apart front back (by simp)
  · dsimp only
    split
    · rename_i long
      have within := length_longestZeroRun_le groups
      generalize longestZeroRun groups = run at long within ⊢
      have fits := within.trans (zerosFrom_le groups run.start)
      have whole := take_zeros_drop within
      have lengths : (groups.take run.start).length +
          (groups.drop (run.start + run.length)).length = 8 - run.length := by
        rw [List.length_take, List.length_drop]
        omega
      have missing : 8 - (8 - run.length) = run.length := by omega
      rw [read_of_elided (apart_groupChars _) (readBefore_groupChars _)
        (readAfter_groupChars _) (by omega)]
      simp only [lengths, missing, whole]
    · exact read_groupChars eight

theorem colon_mem_toChars (ip : Ipv6) : ':' ∈ ip.toChars := by
  obtain ⟨groups, eight⟩ := ip
  rw [toChars]
  split
  · simp
  · dsimp only
    split
    · simp
    · refine Text.mem_join ?_
      rw [List.length_map, eight]
      decide

end Ipv6

theorem Ip.read_toChars (ip : Ip) : Ip.read ip.toChars = some ip := by
  rw [Ip.read]
  cases ip with
  | v4 address => rw [toChars, Ipv4.read_toChars]
  | v6 address =>
      rw [toChars, Ipv4.read_eq_none address.colon_mem_toChars, Ipv6.read_toChars]
      rfl

end RemoteMessaging
