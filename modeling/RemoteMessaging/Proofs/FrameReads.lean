import RemoteMessaging.Proofs.Frames

/-!
# Reading frames back

Reading one frame after the other gives back the payloads that were framed, and
nothing else can be read from their bytes.  A stream that ends too early gives the
payloads of its complete frames; then reading finishes if nothing is left, and
fails within a header or a payload.
-/

namespace RemoteMessaging.Frame

def after (limit : Nat) : Nat → Source → Source
  | 0, source => source
  | count + 1, source => after limit count (read limit source).2

/-- The error of a stream that ends after some bytes of a frame: within the
header, or within the payload. -/
def incomplete (bytes : List UInt8) : IoError :=
  if bytes.length < headerSize then IoError.ofKind .unexpectedEnd
  else cutShort

theorem kind_incomplete (bytes : List UInt8) :
    (incomplete bytes).kind = .unexpectedEnd := by
  unfold incomplete
  split <;> rfl

theorem mapM_encode_eq_ok_iff {limit : Nat}
    {payloads pieces : List (List UInt8)} :
    payloads.mapM (encode limit) = .ok pieces ↔
      (∀ payload ∈ payloads, Sendable payload ∧ payload.length ≤ limit) ∧
        pieces = payloads.map frame := by
  induction payloads generalizing pieces with
  | nil => simp [pure, Except.pure, eq_comm]
  | cons first others induction =>
      rw [List.mapM_cons]
      constructor
      · intro framed
        cases encoded : encode limit first with
        | error error => simp [encoded, bind, Except.bind] at framed
        | ok piece =>
            cases rest : others.mapM (encode limit) with
            | error error => simp [encoded, rest, bind, Except.bind] at framed
            | ok more =>
                obtain ⟨sendable, within, rfl⟩ := encode_eq_ok_iff.mp encoded
                obtain ⟨each, rfl⟩ := induction.mp rest
                simp only [encoded, rest, bind, Except.bind, pure, Except.pure,
                  Except.ok.injEq] at framed
                subst framed
                exact ⟨List.forall_mem_cons.mpr ⟨⟨sendable, within⟩, each⟩, rfl⟩
      · rintro ⟨each, rfl⟩
        obtain ⟨⟨sendable, within⟩, later⟩ := List.forall_mem_cons.mp each
        have encoded : encode limit first = .ok (frame first) :=
          encode_eq_ok_iff.mpr ⟨sendable, within, rfl⟩
        have rest := induction.mpr ⟨later, rfl⟩
        simp [encoded, rest, bind, Except.bind, pure, Except.pure]

theorem flatten_map_frame (payloads : List (List UInt8)) :
    (payloads.map frame).flatten = frames payloads :=
  List.flatMap_def.symm

theorem readMany_succ (limit count : Nat) (source : Source) :
    readMany limit (count + 1) source = (read limit source).1 ::
      readMany limit count (read limit source).2 := rfl

theorem readMany_of_empty (limit count : Nat) {source : Source}
    (plain : source.Plain) (empty : source.content = [])
    (closed : source.ending = .closed) :
    readMany limit count source = List.replicate count .finished := by
  induction count generalizing source with
  | zero => rfl
  | succ count induction =>
      have nothing : Source.Plain ⟨[], .closed⟩ := by simp [Source.Plain]
      rw [readMany_succ, read_of_empty limit plain empty closed,
        induction nothing rfl rfl]
      rfl

theorem readMany_of_frames {limit : Nat} {payloads : List (List UInt8)}
    (each : ∀ payload ∈ payloads,
      Sendable payload ∧ payload.length ≤ limit)
    {source : Source} {tail : List UInt8} (plain : source.Plain)
    (begins : source.content = frames payloads ++ tail) :
    ∃ rest : Source, rest.Plain ∧ rest.ending = source.ending ∧
      rest.content = tail ∧ ∀ more,
        readMany limit (payloads.length + more) source =
          payloads.map .payload ++ readMany limit more rest := by
  induction payloads generalizing source with
  | nil => exact ⟨source, plain, rfl, begins, fun more => by simp⟩
  | cons first others induction =>
      obtain ⟨⟨sendable, within⟩, later⟩ := List.forall_mem_cons.mp each
      rw [frames_cons, List.append_assoc] at begins
      obtain ⟨middle, plain', ending', content', step⟩ :=
        read_of_frame plain begins sendable within
      obtain ⟨rest, plain'', ending'', content'', reads⟩ :=
        induction later plain' content'
      refine ⟨rest, plain'', ending''.trans ending', content'', ?_⟩
      intro more
      rw [List.length_cons, Nat.add_right_comm, readMany_succ, step, reads more]
      rfl

/-- The payloads that were read are those of the bytes that are gone. -/
theorem content_of_readMany {limit : Nat} {payloads : List (List UInt8)}
    {source : Source}
    (reads : readMany limit payloads.length source = payloads.map .payload) :
    (∀ payload ∈ payloads, Sendable payload ∧ payload.length ≤ limit) ∧
      source.content =
        frames payloads ++ (after limit payloads.length source).content := by
  induction payloads generalizing source with
  | nil => simp [after]
  | cons first others induction =>
      rw [List.length_cons, readMany_succ, List.map_cons] at reads
      obtain ⟨head, tail⟩ := List.cons.inj reads
      have step : read limit source =
          (.payload first, (read limit source).2) := Prod.ext head rfl
      obtain ⟨begins, sendable, within⟩ := content_of_read step
      obtain ⟨each, content⟩ := induction tail
      refine ⟨List.forall_mem_cons.mpr ⟨⟨sendable, within⟩, each⟩, ?_⟩
      rw [begins, content, frames_cons, List.append_assoc]
      rfl

theorem read_of_incomplete {limit : Nat} {source : Source}
    {payload : List UInt8} (plain : source.Plain)
    (closed : source.ending = .closed) (sendable : Sendable payload)
    (within : payload.length ≤ limit) (some : source.content ≠ [])
    (begins : source.content <+: frame payload)
    (short : source.content ≠ frame payload) :
    (read limit source).1 = .failed (incomplete source.content) := by
  by_cases early : source.content.length < headerSize
  · have filled := Source.fill_of_short plain early
    obtain ⟨byte, bytes, content⟩ := List.exists_cons_of_ne_nil some
    rw [closed, content] at filled
    rw [content] at early
    simp only [read, filled, content, incomplete, if_pos early]
  · have enough : headerSize ≤ source.content.length := Nat.le_of_not_lt early
    obtain ⟨middle, plain', ending', content', filled⟩ :=
      Source.fill_of_plain plain enough
    obtain ⟨missing, whole⟩ := begins
    have lacks : missing ≠ [] := by
      rintro rfl
      rw [List.append_nil] at whole
      exact short whole
    have first : source.content.take headerSize = header payload.length := by
      have heads := congrArg (List.take headerSize) whole
      rwa [List.take_append_of_le_length enough, frame,
        List.take_left' (length_header _)] at heads
    have second : middle.content.length < payload.length := by
      have lengths := congrArg List.length whole
      have positive := List.length_pos_iff.mpr lacks
      simp only [frame, List.length_append, length_header] at lengths
      simp only [content', List.length_drop]
      omega
    have filled' := Source.fill_of_short plain' second
    rw [first] at filled
    rw [ending', closed] at filled'
    simp only [read, filled, headerValue_header sendable, within, if_true,
      readPayload, filled', incomplete, if_neg early]

/-- The bytes of a stream that is too short for its frames: those of the complete
frames, and a beginning of the next. -/
theorem split_of_prefix {payloads : List (List UInt8)} {bytes : List UInt8}
    (begins : bytes <+: frames payloads) (short : bytes ≠ frames payloads) :
    ∃ count payload tail, payloads[count]? = some payload ∧
      bytes = frames (payloads.take count) ++ tail ∧
      tail <+: frame payload ∧ tail ≠ frame payload := by
  induction payloads generalizing bytes with
  | nil =>
      rw [frames_nil] at begins short
      exact (short (List.prefix_nil.mp begins)).elim
  | cons first others induction =>
      rw [frames_cons] at begins short
      have initial : frame first <+: frame first ++ frames others :=
        List.prefix_append _ _
      by_cases whole : frame first <+: bytes
      · obtain ⟨tail, rfl⟩ := whole
        rw [List.prefix_append_right_inj] at begins
        have short' : tail ≠ frames others := fun same => short (same ▸ rfl)
        obtain ⟨count, payload, rest, at', split, begins', short''⟩ :=
          induction begins short'
        refine ⟨count + 1, payload, rest, at', ?_, begins', short''⟩
        rw [split, List.take_succ_cons, frames_cons, List.append_assoc]
      · obtain below | above := List.prefix_or_prefix_of_prefix begins initial
        · refine ⟨0, first, bytes, rfl, by simp, below, ?_⟩
          rintro rfl
          exact whole (List.prefix_refl _)
        · exact (whole above).elim

/-- Framing and reading are inverse to each other.  A payload is accepted up to
the limit, and up to what four bytes can tell.  The frames of accepted payloads,
however cut, are read back in order, and then the stream is finished.  Whatever
payloads are read, their frames are the bytes that are gone.  If the stream ends
too early, the payloads of the complete frames are read; then it is finished if
nothing is left, and has ended unexpectedly otherwise. -/
theorem readMany_encode (limit : Nat) :
    (∀ payload, (∃ piece, encode limit payload = .ok piece) ↔
      payload.length ≤ min limit (UInt32.size - 1)) ∧
    (∀ (payloads pieces : List (List UInt8)) (source : Source),
      payloads.mapM (encode limit) = .ok pieces →
        source.Plain → source.ending = .closed →
          source.content = pieces.flatten →
            ∀ more, readMany limit (payloads.length + more) source =
              payloads.map .payload ++ List.replicate more .finished) ∧
    (∀ (payloads : List (List UInt8)) (source : Source),
      readMany limit payloads.length source = payloads.map .payload →
        ∃ pieces, payloads.mapM (encode limit) = .ok pieces ∧
          source.content = pieces.flatten ++
            (after limit payloads.length source).content) ∧
    (∀ (payloads pieces : List (List UInt8)) (source : Source),
      payloads.mapM (encode limit) = .ok pieces →
        source.Plain → source.ending = .closed →
          source.content <+: pieces.flatten →
            source.content ≠ pieces.flatten →
              ∃ count piece tail, pieces[count]? = some piece ∧
                source.content = (pieces.take count).flatten ++ tail ∧
                tail <+: piece ∧ tail ≠ piece ∧
                (incomplete tail).kind = .unexpectedEnd ∧
                readMany limit (count + 1) source =
                  (payloads.take count).map .payload ++
                    [if tail = [] then .finished
                      else .failed (incomplete tail)]) := by
  refine ⟨?_, ?_, ?_, ?_⟩
  · intro payload
    simp only [encode_eq_ok_iff, Sendable, UInt32.size]
    constructor
    · rintro ⟨piece, sendable, within, -⟩
      omega
    · intro small
      exact ⟨frame payload, by omega, by omega, rfl⟩
  · intro payloads pieces source framed plain closed whole more
    obtain ⟨each, rfl⟩ := mapM_encode_eq_ok_iff.mp framed
    rw [flatten_map_frame, ← List.append_nil (frames payloads)] at whole
    obtain ⟨rest, plain', ending', empty, reads⟩ :=
      readMany_of_frames each plain whole
    rw [reads, readMany_of_empty limit more plain' empty (ending'.trans closed)]
  · intro payloads source reads
    obtain ⟨each, content⟩ := content_of_readMany reads
    refine ⟨payloads.map frame, mapM_encode_eq_ok_iff.mpr ⟨each, rfl⟩, ?_⟩
    rw [flatten_map_frame]
    exact content
  · intro payloads pieces source framed plain closed begins short
    obtain ⟨each, rfl⟩ := mapM_encode_eq_ok_iff.mp framed
    rw [flatten_map_frame] at begins short
    obtain ⟨count, payload, tail, at', split, begins', short'⟩ :=
      split_of_prefix begins short
    obtain ⟨below, -⟩ := List.getElem?_eq_some_iff.mp at'
    have first : ∀ payload ∈ payloads.take count,
        Sendable payload ∧ payload.length ≤ limit := fun payload member =>
      each payload (List.mem_of_mem_take member)
    obtain ⟨rest, plain', ending', content', reads⟩ :=
      readMany_of_frames first plain split
    obtain ⟨sendable, within⟩ := each payload (List.mem_of_getElem? at')
    refine ⟨count, frame payload, tail, by simp [at'], ?_, begins', short',
      kind_incomplete tail, ?_⟩
    · rw [← List.map_take, flatten_map_frame]
      exact split
    · have counted : (payloads.take count).length = count :=
        List.length_take_of_le (Nat.le_of_lt below)
      have last := reads 1
      rw [counted] at last
      rw [last]
      congr 1
      subst content'
      simp only [readMany, List.cons.injEq, and_true]
      have closed' := ending'.trans closed
      split
      · rename_i empty
        rw [read_of_empty limit plain' empty closed']
      · rename_i some
        exact read_of_incomplete plain' closed' sendable within some begins'
          short'

/-- Two payloads, one of them empty, and their frames in pieces: whole, and cut
within the first payload. -/
theorem readMany_encode_of_two :
    let payloads : List (List UInt8) := [[1, 2], []]
    let pieces : List (List UInt8) := [[0, 0, 0, 2, 1, 2], [0, 0, 0, 0]]
    let whole : Source := ⟨[.bytes [0, 0], .pending, .bytes [0, 2, 1],
      .bytes [2, 0, 0, 0, 0]], .closed⟩
    let cut : Source := ⟨[.bytes [0, 0, 0], .bytes [2, 1]], .closed⟩
    payloads.mapM (encode 8) = .ok pieces ∧ whole.Plain ∧ cut.Plain ∧
      whole.content = pieces.flatten ∧ cut.content <+: pieces.flatten ∧
      readMany 8 3 whole = [.payload [1, 2], .payload [], .finished] ∧
      (∃ pieces, payloads.mapM (encode 8) = .ok pieces ∧
        whole.content = pieces.flatten ++ (after 8 2 whole).content) ∧
      ∃ count piece tail, pieces[count]? = some piece ∧
        cut.content = (pieces.take count).flatten ++ tail ∧
        tail <+: piece ∧ tail ≠ piece ∧
        (incomplete tail).kind = .unexpectedEnd ∧
        readMany 8 (count + 1) cut = (payloads.take count).map .payload ++
          [if tail = [] then .finished else .failed (incomplete tail)] := by
  intro payloads pieces whole cut
  obtain ⟨-, reads, gone, stops⟩ := readMany_encode 8
  have framed : payloads.mapM (encode 8) = .ok pieces := rfl
  have plain : whole.Plain := by simp [whole, Source.Plain, Piece.Plain]
  have plain' : cut.Plain := by simp [cut, Source.Plain, Piece.Plain]
  have content : whole.content = pieces.flatten := rfl
  have begins : cut.content <+: pieces.flatten := by decide
  have first : readMany 8 3 whole =
      [.payload [1, 2], .payload [], .finished] :=
    reads payloads pieces whole framed plain rfl content 1
  have both : readMany 8 2 whole = payloads.map .payload :=
    reads payloads pieces whole framed plain rfl content 0
  exact ⟨framed, plain, plain', content, begins, first,
    gone payloads whole both,
    stops payloads pieces cut framed plain' rfl begins (by decide)⟩

end RemoteMessaging.Frame
