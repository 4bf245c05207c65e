import RemoteMessaging.Frame.Source

/-!
# The bytes of a stream

What a reader gets depends on the bytes that come, and not on how they are cut
into chunks, as long as the stream is plain: no read fails, and no chunk is empty.
What comes behind the plain part of a stream is read when its bytes are used up.
-/

namespace RemoteMessaging

def Piece.chunk : Piece → List UInt8
  | .bytes chunk => chunk
  | _ => []

/-- A piece neither fails nor ends the stream. -/
def Piece.Plain : Piece → Prop
  | .bytes chunk => chunk ≠ []
  | .fail _ => False
  | .pending => True

namespace Source

def content (source : Source) : List UInt8 :=
  source.pieces.flatMap Piece.chunk

def Plain (source : Source) : Prop :=
  ∀ piece ∈ source.pieces, piece.Plain

theorem bytes_of_readPieces {ending : Ending} {want : Nat}
    {pieces rest : List Piece} {chunk : List UInt8}
    (step : readPieces ending want pieces = (.bytes chunk, rest)) :
    pieces.flatMap Piece.chunk = chunk ++ rest.flatMap Piece.chunk ∧
      chunk.length ≤ want := by
  induction pieces with
  | nil =>
      cases ending <;> simp [readPieces] at step
      obtain ⟨rfl, rfl⟩ := step
      simp
  | cons piece pieces induction =>
      cases piece with
      | pending => exact induction step
      | fail error => simp [readPieces] at step
      | bytes first =>
          simp only [readPieces] at step
          split at step
          · rename_i fits
            obtain ⟨equal, rfl⟩ := Prod.mk.inj step
            obtain rfl := Reading.bytes.inj equal
            exact ⟨rfl, fits⟩
          · obtain ⟨equal, rfl⟩ := Prod.mk.inj step
            obtain rfl := Reading.bytes.inj equal
            constructor
            · simp only [List.flatMap_cons, Piece.chunk]
              rw [← List.append_assoc, List.take_append_drop]
            · exact List.length_take_le want first

theorem readPieces_of_plain (ending : Ending) {want : Nat}
    {pieces : List Piece} (positive : 0 < want)
    (plain : ∀ piece ∈ pieces, piece.Plain)
    (some : pieces.flatMap Piece.chunk ≠ []) :
    ∃ chunk rest, chunk ≠ [] ∧ (∀ piece ∈ rest, piece.Plain) ∧
      readPieces ending want pieces = (.bytes chunk, rest) := by
  induction pieces with
  | nil => simp at some
  | cons piece pieces induction =>
      have others : ∀ piece ∈ pieces, piece.Plain := fun piece member =>
        plain piece (List.mem_cons_of_mem _ member)
      cases piece with
      | pending => exact induction others some
      | fail error => exact (plain (.fail error) List.mem_cons_self).elim
      | bytes first =>
          have filled : first ≠ [] := plain (.bytes first) List.mem_cons_self
          by_cases fits : first.length ≤ want
          · exact ⟨first, pieces, filled, others, by simp [readPieces, fits]⟩
          · refine ⟨first.take want, .bytes (first.drop want) :: pieces, ?_, ?_,
              by simp [readPieces, fits]⟩
            · intro empty
              rcases List.take_eq_nil_iff.mp empty with zero | nothing
              · omega
              · exact filled nothing
            · intro piece member
              rcases List.mem_cons.mp member with rfl | member
              · intro empty
                exact fits (List.drop_eq_nil_iff.mp empty)
              · exact others piece member

theorem readPieces_append {ending : Ending} {want : Nat}
    {pieces rest : List Piece} {chunk : List UInt8} (filled : chunk ≠ [])
    (step : readPieces ending want pieces = (.bytes chunk, rest))
    (more : List Piece) :
    readPieces ending want (pieces ++ more) =
      (.bytes chunk, rest ++ more) := by
  induction pieces with
  | nil =>
      cases ending with
      | closed => exact (filled (Reading.bytes.inj (Prod.mk.inj step).1).symm).elim
      | silent => simp [readPieces] at step
  | cons piece pieces induction =>
      cases piece with
      | pending => exact induction step
      | fail error => simp [readPieces] at step
      | bytes first =>
          simp only [List.cons_append, readPieces] at step ⊢
          split at step
          · rename_i fits
            obtain ⟨equal, rfl⟩ := Prod.mk.inj step
            rw [if_pos fits, equal]
          · rename_i large
            obtain ⟨equal, rfl⟩ := Prod.mk.inj step
            rw [if_neg large, equal, List.cons_append]

theorem readPieces_of_empty {ending : Ending} {want : Nat}
    {pieces : List Piece} (plain : ∀ piece ∈ pieces, piece.Plain)
    (empty : pieces.flatMap Piece.chunk = []) (more : List Piece) :
    readPieces ending want (pieces ++ more) =
      readPieces ending want more := by
  induction pieces with
  | nil => rfl
  | cons piece pieces induction =>
      have others : ∀ piece ∈ pieces, piece.Plain := fun piece member =>
        plain piece (List.mem_cons_of_mem _ member)
      cases piece with
      | pending => exact induction others empty
      | fail error => exact (plain (.fail error) List.mem_cons_self).elim
      | bytes first =>
          have filled : first ≠ [] := plain (.bytes first) List.mem_cons_self
          have nothing : first = [] := by
            simp only [List.flatMap_cons, Piece.chunk,
              List.append_eq_nil_iff] at empty
            exact empty.1
          exact (filled nothing).elim

theorem content_of_fill {need : Nat} {source rest : Source}
    {bytes : List UInt8}
    (step : source.fill need = (.full bytes, rest)) :
    source.content = bytes ++ rest.content ∧ bytes.length = need := by
  induction need using Nat.strongRecOn generalizing source bytes with
  | ind need induction =>
      rw [fill] at step
      split at step
      · rename_i zero
        obtain ⟨equal, rfl⟩ := Prod.mk.inj step
        obtain rfl := Filling.full.inj equal
        exact ⟨rfl, zero.symm⟩
      · rename_i positive
        split at step
        · simp at step
        · simp at step
        · simp at step
        · rename_i byte chunk middle reading
          obtain ⟨first, rfl⟩ := Prod.mk.inj reading
          obtain ⟨split, bound⟩ := bytes_of_readPieces (Prod.ext first rfl)
          simp only [List.length_cons] at bound
          generalize outcome : Source.fill _ _ = result at step
          obtain ⟨further, last⟩ := result
          obtain ⟨filling, rfl⟩ := Prod.mk.inj step
          cases further with
          | full tail =>
              obtain ⟨later, length⟩ :=
                induction (need - (chunk.length + 1)) (by omega) outcome
              obtain rfl := Filling.full.inj filling
              constructor
              · rw [List.append_assoc, ← later]
                exact split
              · simp only [List.length_append, List.length_cons, length]
                omega
          | ended tail => simp [Filling.after] at filling
          | failed error => simp [Filling.after] at filling
          | waiting => simp [Filling.after] at filling

/-- One read of several: it brings bytes, and the rest is read from there. -/
theorem fill_of_readPieces {need : Nat} {source : Source}
    {chunk : List UInt8} {pieces : List Piece} (positive : 0 < need)
    (filled : chunk ≠ [])
    (step : readPieces source.ending need source.pieces =
      (.bytes chunk, pieces)) :
    source.fill need =
      ((fill (need - chunk.length) ⟨pieces, source.ending⟩).1.after
          chunk,
        (fill (need - chunk.length) ⟨pieces, source.ending⟩).2) := by
  have nonzero : need ≠ 0 := Nat.ne_of_gt positive
  cases chunk with
  | nil => exact (filled rfl).elim
  | cons byte chunk =>
      rw [fill, dif_neg nonzero]
      simp only [read, step, List.length_cons]

/-- A stream brings bytes by plain pieces, and then goes on with others. -/
def Brings (source : Source) (bytes : List UInt8) (more : List Piece) : Prop :=
  ∃ pieces, (∀ piece ∈ pieces, piece.Plain) ∧
    pieces.flatMap Piece.chunk = bytes ∧ source.pieces = pieces ++ more

theorem brings_nil_iff {source : Source} {bytes : List UInt8} :
    source.Brings bytes [] ↔ source.Plain ∧ source.content = bytes := by
  simp only [Brings, List.append_nil]
  constructor
  · rintro ⟨pieces, plain, content, same⟩
    rw [Plain, Source.content, same]
    exact ⟨plain, content⟩
  · rintro ⟨plain, content⟩
    exact ⟨source.pieces, plain, content, rfl⟩

theorem Brings.read {want : Nat} {source : Source}
    {bytes : List UInt8} {more : List Piece} (brings : source.Brings bytes more)
    (positive : 0 < want) (some : bytes ≠ []) :
    ∃ chunk left pieces, chunk ≠ [] ∧ chunk.length ≤ want ∧ bytes = chunk ++ left ∧
      Brings ⟨pieces, source.ending⟩ left more ∧
      readPieces source.ending want source.pieces =
        (.bytes chunk, pieces) := by
  obtain ⟨pieces, plain, rfl, same⟩ := brings
  obtain ⟨chunk, rest, filled, later, step⟩ :=
    readPieces_of_plain source.ending positive plain some
  obtain ⟨split, bound⟩ := bytes_of_readPieces step
  refine ⟨chunk, _, rest ++ more, filled, bound, split, ⟨rest, later, rfl, rfl⟩, ?_⟩
  rw [same]
  exact readPieces_append filled step more

theorem Brings.fill {source : Source} {bytes : List UInt8} {more : List Piece}
    (brings : source.Brings bytes more) {need : Nat}
    (enough : need ≤ bytes.length) :
    ∃ rest : Source, rest.Brings (bytes.drop need) more ∧
      rest.ending = source.ending ∧
      source.fill need = (.full (bytes.take need), rest) := by
  induction need using Nat.strongRecOn generalizing source bytes with
  | ind need induction =>
      by_cases zero : need = 0
      · subst zero
        exact ⟨source, brings, rfl, by simp [Source.fill]⟩
      have positive : 0 < need := Nat.pos_of_ne_zero zero
      have some : bytes ≠ [] := by
        rintro rfl
        exact zero (Nat.le_zero.mp enough)
      obtain ⟨chunk, left, pieces, filled, bound, rfl, brings', step⟩ :=
        brings.read positive some
      have nonempty : 0 < chunk.length := List.length_pos_iff.mpr filled
      have enough' : need - chunk.length ≤ left.length := by
        rw [List.length_append] at enough
        omega
      obtain ⟨rest, brings'', ending, filling⟩ :=
        induction (need - chunk.length) (by omega) brings' enough'
      refine ⟨rest, ?_, ending, ?_⟩
      · rw [List.drop_append, List.drop_of_length_le bound, List.nil_append]
        exact brings''
      · rw [fill_of_readPieces positive filled step, filling,
          List.take_append, List.take_of_length_le bound]
        rfl

theorem Filling.after_nil (filling : Filling) : filling.after [] = filling := by
  cases filling <;> rfl

theorem Filling.after_append (filling : Filling) (first second : List UInt8) :
    filling.after (first ++ second) = (filling.after second).after first := by
  cases filling <;> simp [after]

/-- A stream that brings too few bytes is read on behind them. -/
theorem Brings.fill_short {source : Source} {bytes : List UInt8}
    {more : List Piece} (brings : source.Brings bytes more)
    {need : Nat} (short : bytes.length < need) :
    source.fill need =
      ((Source.fill (need - bytes.length) ⟨more, source.ending⟩).1.after
          bytes,
        (Source.fill (need - bytes.length) ⟨more, source.ending⟩).2) := by
  induction need using Nat.strongRecOn generalizing source bytes with
  | ind need induction =>
      have positive : 0 < need := Nat.lt_of_le_of_lt (Nat.zero_le _) short
      by_cases empty : bytes = []
      · obtain ⟨pieces, plain, content, same⟩ := brings
        have nonzero : need ≠ 0 := Nat.ne_of_gt positive
        have passes : source.fill need =
            Source.fill need ⟨more, source.ending⟩ := by
          rw [Source.fill, dif_neg nonzero, Source.fill, dif_neg nonzero]
          simp only [Source.read, same,
            readPieces_of_empty plain (content.trans empty)]
        rw [passes, empty, List.length_nil, Nat.sub_zero, Filling.after_nil]
      · obtain ⟨chunk, left, pieces, filled, -, rfl, brings', step⟩ :=
          brings.read positive empty
        have nonempty : 0 < chunk.length := List.length_pos_iff.mpr filled
        rw [List.length_append] at short
        have filling := induction (need - chunk.length) (by omega) brings' (by omega)
        rw [fill_of_readPieces positive filled step, filling, List.length_append,
          Nat.sub_add_eq, Filling.after_append]

theorem fill_of_plain {need : Nat} {source : Source}
    (plain : source.Plain) (enough : need ≤ source.content.length) :
    ∃ rest : Source, rest.Plain ∧ rest.ending = source.ending ∧
      rest.content = source.content.drop need ∧
      source.fill need = (.full (source.content.take need), rest) := by
  obtain ⟨rest, brings, ending, filling⟩ :=
    (brings_nil_iff.mpr ⟨plain, rfl⟩).fill enough
  obtain ⟨plain', content⟩ := brings_nil_iff.mp brings
  exact ⟨rest, plain', ending, content, filling⟩

theorem fill_of_short {need : Nat} {source : Source}
    (plain : source.Plain) (short : source.content.length < need) :
    source.fill need =
      (match source.ending with
        | .closed => .ended source.content
        | .silent => .waiting, ⟨[], source.ending⟩) := by
  have nonzero : need - source.content.length ≠ 0 := by omega
  rw [(brings_nil_iff.mpr ⟨plain, rfl⟩).fill_short short, fill,
    dif_neg nonzero]
  cases source.ending <;> simp [read, readPieces, Filling.after]

theorem readPieces_of_closed (want : Nat)
    (pieces : List Piece) :
    (readPieces .closed want pieces).1 ≠ .waiting := by
  induction pieces with
  | nil => simp [readPieces]
  | cons piece pieces induction =>
      cases piece with
      | pending => exact induction
      | fail error => simp [readPieces]
      | bytes chunk =>
          rw [readPieces]
          split <;> simp

theorem Filling.after_ne_waiting {filling : Filling} (chunk : List UInt8)
    (goes : filling ≠ .waiting) : filling.after chunk ≠ .waiting := by
  cases filling with
  | waiting => exact (goes rfl).elim
  | _ => exact nofun

theorem fill_of_closed (need : Nat) {source : Source}
    (closed : source.ending = .closed) :
    (source.fill need).1 ≠ .waiting ∧
      (source.fill need).2.ending = .closed := by
  induction need using Nat.strongRecOn generalizing source with
  | ind need induction =>
      rw [fill]
      split
      · exact ⟨by simp, closed⟩
      · rename_i positive
        have same : (source.read need).2.ending = .closed := closed
        split <;> rename_i reading <;> rw [reading] at same
        · exact ⟨by simp, same⟩
        · have waits := congrArg Prod.fst reading
          rw [read, closed] at waits
          exact (readPieces_of_closed _ _ waits).elim
        · exact ⟨by simp, same⟩
        · rename_i byte chunk middle
          obtain ⟨goes, later⟩ :=
            induction (need - (chunk.length + 1)) (by omega) same
          exact ⟨Filling.after_ne_waiting _ goes, later⟩

end Source

end RemoteMessaging
