import Mathlib.Data.List.Chain
import RemoteMessaging.Text.Blank
import RemoteMessaging.Text.Split

/-!
# Cutting texts

A text is cut where its separators are.  Parts without a separator are given back by
the cuts of the text in which they are joined.  Blanks are cut off at the ends, up to
the first and from the last other character.
-/

namespace RemoteMessaging.Text

variable {separator : Char} {text part before after : List Char}
variable {parts : List (List Char)} {P : Char → Prop}

theorem splitLast?_eq_none (absent : separator ∉ text) :
    splitLast? separator text = none := by
  induction text with
  | nil => rfl
  | cons c rest induction =>
      rw [List.mem_cons, not_or] at absent
      rw [splitLast?, induction absent.2]
      exact if_neg (Ne.symm absent.1)

theorem splitLast?_append (before : List Char) {after : List Char}
    (last : separator ∉ after) :
    splitLast? separator (before ++ separator :: after) = some (before, after) := by
  induction before with
  | nil =>
      rw [List.nil_append, splitLast?, splitLast?_eq_none last]
      exact if_pos rfl
  | cons c before induction => rw [List.cons_append, splitLast?, induction]

theorem eq_of_splitLast? (cut : splitLast? separator text = some (before, after)) :
    text = before ++ separator :: after := by
  induction text generalizing before with
  | nil => simp [splitLast?] at cut
  | cons c rest induction =>
      rw [splitLast?] at cut
      split at cut
      · rename_i front back eq
        obtain ⟨rfl, rfl⟩ := Prod.mk.inj (Option.some.inj cut)
        rw [induction eq, List.cons_append]
      · split at cut
        · rename_i same
          obtain ⟨rfl, rfl⟩ := Prod.mk.inj (Option.some.inj cut)
          rw [same, List.nil_append]
        · simp at cut

theorem split_of_not_mem (absent : separator ∉ text) :
    split separator text = [text] := by
  induction text with
  | nil => rfl
  | cons c rest induction =>
      rw [List.mem_cons, not_or] at absent
      rw [split, if_neg (Ne.symm absent.1), induction absent.2]

theorem split_append (absent : separator ∉ part) (rest : List Char) :
    split separator (part ++ separator :: rest) = part :: split separator rest := by
  induction part with
  | nil => rw [List.nil_append, split, if_pos rfl]
  | cons c part induction =>
      rw [List.mem_cons, not_or] at absent
      rw [List.cons_append, split, if_neg (Ne.symm absent.1), induction absent.2]

/-- Joined parts are cut apart again, unless there are none. -/
theorem split_join (nonempty : parts ≠ []) (absent : ∀ part ∈ parts, separator ∉ part) :
    split separator (join [separator] parts) = parts := by
  induction parts with
  | nil => exact (nonempty rfl).elim
  | cons part parts induction =>
      obtain ⟨first, others⟩ := List.forall_mem_cons.mp absent
      cases parts with
      | nil => exact split_of_not_mem first
      | cons next parts =>
          rw [join, List.append_assoc, List.singleton_append, split_append first,
            induction (List.cons_ne_nil _ _) others]
          exact List.cons_ne_nil _ _

/-- The parts into which a separator divides a text, one more than there are
separators. -/
structure Separated (separator : Char) (parts : List (List Char))
    (text : List Char) : Prop where
  nonempty : parts ≠ []
  absent : ∀ part ∈ parts, separator ∉ part
  joined : join [separator] parts = text

theorem separated_split (separator : Char) (text : List Char) :
    Separated separator (split separator text) text := by
  induction text with
  | nil => exact ⟨by simp [split], by simp [split], rfl⟩
  | cons c rest induction =>
      obtain ⟨nonempty, absent, joined⟩ := induction
      obtain ⟨part, parts, cut⟩ := List.exists_cons_of_ne_nil nonempty
      rw [cut] at absent joined
      by_cases same : c = separator
      · rw [split, if_pos same, cut]
        refine ⟨List.cons_ne_nil _ _, ?_, ?_⟩
        · exact List.forall_mem_cons.mpr ⟨List.not_mem_nil, absent⟩
        · rw [join, joined, same]
          · rfl
          · exact List.cons_ne_nil _ _
      · have whole : split separator (c :: rest) = (c :: part) :: parts := by
          rw [split, if_neg same, cut]
        obtain ⟨first, others⟩ := List.forall_mem_cons.mp absent
        rw [whole]
        refine ⟨List.cons_ne_nil _ _, List.forall_mem_cons.mpr ⟨?_, others⟩, ?_⟩
        · exact List.not_mem_cons_of_ne_of_not_mem (Ne.symm same) first
        · rw [← joined]
          cases parts <;> rfl

theorem split_eq_iff : split separator text = parts ↔ Separated separator parts text := by
  constructor
  · rintro rfl
    exact separated_split separator text
  · rintro ⟨nonempty, absent, rfl⟩
    exact split_join nonempty absent

theorem forall_mem_of_split (own : P separator)
    (parts : ∀ part ∈ split separator text, ∀ c ∈ part, P c) :
    ∀ c ∈ text, P c := by
  induction text with
  | nil => simp
  | cons c rest induction =>
      rw [split] at parts
      split at parts
      · rename_i same
        obtain ⟨-, others⟩ := List.forall_mem_cons.mp parts
        exact List.forall_mem_cons.mpr ⟨same ▸ own, induction others⟩
      · split at parts
        · rename_i empty
          refine List.forall_mem_cons.mpr
            ⟨parts [c] (by simp) c (by simp), induction ?_⟩
          simp [empty]
        · rename_i part others eq
          obtain ⟨first, others⟩ := List.forall_mem_cons.mp parts
          obtain ⟨holds, first⟩ := List.forall_mem_cons.mp first
          refine List.forall_mem_cons.mpr ⟨holds, induction ?_⟩
          rw [eq]
          exact List.forall_mem_cons.mpr ⟨first, others⟩

theorem mem_join (several : 2 ≤ parts.length) :
    separator ∈ join [separator] parts := by
  match parts, several with
  | part :: next :: parts, _ => simp [join]

theorem head?_join (full : part ≠ []) :
    (join [separator] (part :: parts)).head? = part.head? := by
  obtain ⟨c, rest, rfl⟩ := List.exists_cons_of_ne_nil full
  cases parts <;> simp [join]

theorem join_ne_nil (nonempty : parts ≠ []) (full : ∀ part ∈ parts, part ≠ []) :
    join [separator] parts ≠ [] := by
  obtain ⟨part, rest, rfl⟩ := List.exists_cons_of_ne_nil nonempty
  have filled := full part List.mem_cons_self
  intro empty
  have start : (join [separator] (part :: rest)).head? = part.head? := head?_join filled
  rw [empty] at start
  exact filled (List.head?_eq_none_iff.mp start.symm)

/-- No two separators stand side by side. -/
def Apart (separator : Char) (text : List Char) : Prop :=
  text.IsChain fun c d => c = separator → d ≠ separator

theorem apart_of_not_mem (absent : separator ∉ text) : Apart separator text := by
  refine (List.pairwise_of_forall_mem_list ?_).isChain
  rintro c member - - rfl
  exact (absent member).elim

theorem splitDouble?_of_apart (apart : Apart separator text) :
    splitDouble? separator text = none := by
  induction text with
  | nil => rfl
  | cons c rest induction =>
      obtain ⟨first, others⟩ := List.isChain_cons.mp apart
      cases rest with
      | nil => rfl
      | cons d rest =>
          rw [splitDouble?, induction others]
          exact if_neg fun pair => first d rfl pair.1 pair.2

theorem splitDouble?_append (apart : Apart separator (before ++ [separator]))
    (after : List Char) :
    splitDouble? separator (before ++ separator :: separator :: after) =
      some (before, after) := by
  induction before with
  | nil => exact if_pos ⟨rfl, rfl⟩
  | cons c before induction =>
      obtain ⟨first, others⟩ := List.isChain_cons.mp apart
      have rest := induction others
      cases before with
      | nil =>
          have other : c ≠ separator := fun same => first separator rfl same rfl
          rw [List.nil_append] at rest
          rw [List.singleton_append, splitDouble?, rest]
          exact if_neg fun pair => other pair.1
      | cons d before =>
          rw [List.cons_append] at rest
          rw [List.cons_append, List.cons_append, splitDouble?, rest]
          exact if_neg fun pair => first d rfl pair.1 pair.2

theorem eq_of_splitDouble?
    (cut : splitDouble? separator text = some (before, after)) :
    text = before ++ separator :: separator :: after := by
  induction text generalizing before with
  | nil => simp [splitDouble?] at cut
  | cons c rest induction =>
      cases rest with
      | nil => simp [splitDouble?] at cut
      | cons d rest =>
          rw [splitDouble?] at cut
          split at cut
          · rename_i pair
            obtain ⟨rfl, rfl⟩ := pair
            obtain ⟨rfl, rfl⟩ := Prod.mk.inj (Option.some.inj cut)
            rfl
          · split at cut
            · rename_i front back eq
              obtain ⟨rfl, rfl⟩ := Prod.mk.inj (Option.some.inj cut)
              rw [induction eq, List.cons_append]
            · simp at cut

theorem Apart.part_append (apart : Apart separator text)
    (absent : separator ∉ part) (start : text.head? ≠ some separator) :
    Apart separator (part ++ separator :: text) := by
  refine List.isChain_append.mpr ⟨apart_of_not_mem absent, ?_, ?_⟩
  · exact List.isChain_cons.mpr
      ⟨fun c first _ same => start (same ▸ first), apart⟩
  · intro c last _ _ same
    exact (absent (same ▸ List.mem_of_getLast? last)).elim

/-- In a text of joined parts no separators are adjacent, nor is one at its end. -/
theorem apart_join (full : ∀ part ∈ parts, part ≠ [])
    (absent : ∀ part ∈ parts, separator ∉ part) :
    Apart separator (join [separator] parts ++ [separator]) := by
  induction parts with
  | nil => exact List.isChain_singleton _
  | cons part parts induction =>
      obtain ⟨free, absent⟩ := List.forall_mem_cons.mp absent
      obtain ⟨-, full⟩ := List.forall_mem_cons.mp full
      cases parts with
      | nil => exact Apart.part_append List.isChain_nil free (by simp)
      | cons next parts =>
          have filled : next ≠ [] := full next List.mem_cons_self
          have start : (join [separator] (next :: parts) ++ [separator]).head? ≠
              some separator := by
            rw [List.head?_append, head?_join filled]
            obtain ⟨c, rest, rfl⟩ := List.exists_cons_of_ne_nil filled
            rintro ⟨⟩
            exact absent _ List.mem_cons_self List.mem_cons_self
          rw [join, List.append_assoc, List.append_assoc, List.singleton_append]
          · exact (induction full absent).part_append free start
          · exact List.cons_ne_nil _ _

theorem isBlank_eq_false_of_isDigit {c : Char} (digit : c.isDigit = true) :
    isBlank c = false := by
  have within : 48 ≤ c.toNat ∧ c.toNat ≤ 57 := by
    simpa [Char.isDigit, UInt32.le_iff_toNat_le] using digit
  have outside : ∀ range ∈ blankRanges, range.2 < 48 ∨ 57 < range.1 := by decide
  rw [isBlank, List.any_eq_false]
  intro range member
  have apart := outside range member
  simp only [Bool.and_eq_true, decide_eq_true_eq]
  omega

/-- What is left of a text without the blanks around it. -/
inductive Trimmed : List Char → List Char → Prop where
  | intro {front trimmed back : List Char} (before : ∀ c ∈ front, isBlank c = true)
      (after : ∀ c ∈ back, isBlank c = true)
      (first : ∀ c, trimmed.head? = some c → isBlank c = false)
      (last : ∀ c, trimmed.getLast? = some c → isBlank c = false) :
      Trimmed (front ++ trimmed ++ back) trimmed

theorem trimFront_append {front : List Char} (blank : ∀ c ∈ front, isBlank c = true)
    (first : ∀ c, text.head? = some c → isBlank c = false) :
    trimFront (front ++ text) = text := by
  rw [trimFront, List.dropWhile_append_of_pos blank]
  cases text with
  | nil => rfl
  | cons c rest => exact List.dropWhile_cons_of_neg (by simp [first c rfl])

theorem exists_trimFront (text : List Char) :
    ∃ front, text = front ++ trimFront text ∧ (∀ c ∈ front, isBlank c = true) ∧
      ∀ c, (trimFront text).head? = some c → isBlank c = false := by
  refine ⟨text.takeWhile isBlank, List.takeWhile_append_dropWhile.symm, ?_, ?_⟩
  · exact fun c member => List.all_eq_true.mp List.all_takeWhile c member
  · intro c first
    have other := List.head?_dropWhile_not isBlank text
    rw [trimFront] at first
    simpa [first] using other

theorem trimmed_trim (text : List Char) : Trimmed text (trim text) := by
  obtain ⟨front, cut, before, first⟩ := exists_trimFront text
  obtain ⟨back, cut', after, last⟩ := exists_trimFront (trimFront text).reverse
  have whole : trimFront text = trim text ++ back.reverse := by
    rw [trim, ← List.reverse_append, ← cut', List.reverse_reverse]
  have trimmed : Trimmed (front ++ trim text ++ back.reverse) (trim text) := by
    refine .intro before (fun c member => after c (List.mem_reverse.mp member)) ?_ ?_
    · intro c head
      refine first c ?_
      rw [whole, List.head?_append, head]
      rfl
    · intro c final
      rw [trim, List.getLast?_reverse] at final
      exact last c final
  rwa [List.append_assoc, ← whole, ← cut] at trimmed

theorem Trimmed.trim {trimmed : List Char} (cut : Trimmed text trimmed) :
    trim text = trimmed := by
  cases cut with
  | intro before after first last =>
    rename_i front back
    by_cases nothing : trimmed = []
    · subst nothing
      have blank : ∀ c ∈ front ++ back, isBlank c = true := by
        simp only [List.mem_append]
        rintro c (member | member)
        · exact before c member
        · exact after c member
      have empty : trimFront ((front ++ back) ++ []) = [] :=
        trimFront_append blank (by simp)
      rw [List.append_nil] at empty
      rw [Text.trim, List.append_nil, empty]
      rfl
    · have inFront : trimFront (front ++ (trimmed ++ back)) = trimmed ++ back := by
        refine trimFront_append before ?_
        rwa [List.head?_append_of_ne_nil _ nothing]
      have behind : trimFront (back.reverse ++ trimmed.reverse) = trimmed.reverse := by
        refine trimFront_append
          (fun c member => after c (List.mem_reverse.mp member)) ?_
        rwa [List.head?_reverse]
      rw [Text.trim, List.append_assoc, inFront, List.reverse_append, behind,
        List.reverse_reverse]

theorem trim_eq_iff {trimmed : List Char} :
    trim text = trimmed ↔ Trimmed text trimmed :=
  ⟨fun same => same ▸ trimmed_trim text, Trimmed.trim⟩

end RemoteMessaging.Text
