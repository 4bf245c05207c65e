import RemoteMessaging.IoError

/-!
# Byte sources

What a reader gets from a stream: chunks, failures and delays, in the order in
which they come.  A chunk that is longer than what was asked for is handed out in
parts; an empty chunk is an end of the stream.
-/

namespace RemoteMessaging

/-- What happens next on a stream. -/
inductive Piece where
  | bytes (chunk : List UInt8)
  | fail (error : IoError)
  | pending
  deriving DecidableEq, Repr

/-- How a stream goes on after its pieces. -/
inductive Ending where
  /-- Every further read is at the end. -/
  | closed
  /-- Further reads wait for bytes that do not come. -/
  | silent
  deriving DecidableEq, Repr

/-- A stream as seen by its reader. -/
structure Source where
  pieces : List Piece
  ending : Ending
  deriving DecidableEq, Repr

/-- The outcome of a read; no bytes mean the end of the stream. -/
inductive Reading where
  | bytes (chunk : List UInt8)
  | failed (error : IoError)
  | waiting
  deriving DecidableEq, Repr

namespace Source

/-- The next reading among pieces, and the pieces that are left. -/
def readPieces (ending : Ending) (want : Nat) : List Piece → Reading × List Piece
  | [] =>
      match ending with
      | .closed => (.bytes [], [])
      | .silent => (.waiting, [])
  | .pending :: rest => readPieces ending want rest
  | .fail error :: rest => (.failed error, rest)
  | .bytes chunk :: rest =>
      if chunk.length ≤ want then (.bytes chunk, rest)
      else (.bytes (chunk.take want), .bytes (chunk.drop want) :: rest)

def read (want : Nat) (source : Source) : Reading × Source :=
  let (reading, rest) := readPieces source.ending want source.pieces
  (reading, ⟨rest, source.ending⟩)

/-- The outcome of reading a fixed number of bytes. -/
inductive Filling where
  | full (bytes : List UInt8)
  | ended (bytes : List UInt8)
  | failed (error : IoError)
  | waiting
  deriving DecidableEq, Repr

/-- The outcome when further bytes were read before. -/
def Filling.after (chunk : List UInt8) : Filling → Filling
  | .full bytes => .full (chunk ++ bytes)
  | .ended bytes => .ended (chunk ++ bytes)
  | filling => filling

/-- Reads until there are `need` bytes, as often as it takes. -/
def fill (need : Nat) (source : Source) : Filling × Source :=
  if _ : need = 0 then (.full [], source)
  else
    match source.read need with
    | (.failed error, rest) => (.failed error, rest)
    | (.waiting, rest) => (.waiting, rest)
    | (.bytes [], rest) => (.ended [], rest)
    | (.bytes (byte :: chunk), rest) =>
        let (filling, rest) := fill (need - (chunk.length + 1)) rest
        (filling.after (byte :: chunk), rest)
  termination_by need

def piecesSize : List Piece → Nat
  | [] => 0
  | .bytes chunk :: rest => chunk.length + 1 + piecesSize rest
  | _ :: rest => 1 + piecesSize rest

def size (source : Source) : Nat :=
  piecesSize source.pieces

theorem piecesSize_readPieces {ending : Ending} {want : Nat}
    {pieces rest : List Piece} {chunk : List UInt8}
    (step : readPieces ending want pieces = (.bytes chunk, rest)) :
    chunk.length + piecesSize rest ≤ piecesSize pieces := by
  induction pieces with
  | nil =>
      cases ending <;> simp [readPieces] at step
      obtain ⟨rfl, rfl⟩ := step
      simp
  | cons piece pieces induction =>
      cases piece with
      | pending =>
          have := induction step
          simp only [piecesSize]
          omega
      | fail error => simp [readPieces] at step
      | bytes first =>
          simp only [readPieces] at step
          split at step
          · obtain ⟨equal, rfl⟩ := Prod.mk.inj step
            obtain rfl := Reading.bytes.inj equal
            simp only [piecesSize]
            omega
          · obtain ⟨equal, rfl⟩ := Prod.mk.inj step
            obtain rfl := Reading.bytes.inj equal
            simp only [piecesSize, List.length_take, List.length_drop]
            omega

theorem size_read {source rest : Source} {want : Nat} {chunk : List UInt8}
    (step : source.read want = (.bytes chunk, rest)) :
    chunk.length + rest.size ≤ source.size := by
  simp only [read] at step
  obtain ⟨reading, rfl⟩ := Prod.mk.inj step
  exact piecesSize_readPieces (Prod.ext reading rfl)

theorem size_fill {source rest : Source} {need : Nat} {bytes : List UInt8}
    (step : source.fill need = (.full bytes, rest)) :
    bytes.length + rest.size ≤ source.size := by
  induction need using Nat.strongRecOn generalizing source bytes with
  | ind need induction =>
      rw [fill] at step
      split at step
      · obtain ⟨equal, rfl⟩ := Prod.mk.inj step
        obtain rfl := Filling.full.inj equal
        simp
      · split at step
        · simp at step
        · simp at step
        · simp at step
        · rename_i positive byte chunk middle reading
          have consumed := size_read reading
          generalize outcome :
            middle.fill (need - (chunk.length + 1)) = result at step
          obtain ⟨further, last⟩ := result
          obtain ⟨filling, rfl⟩ := Prod.mk.inj step
          cases further with
          | full tail =>
              have := induction (need - (chunk.length + 1)) (by omega) outcome
              simp only [Filling.after, Filling.full.injEq] at filling
              subst filling
              simp only [List.length_append]
              omega
          | ended tail => simp [Filling.after] at filling
          | failed error => simp [Filling.after] at filling
          | waiting => simp [Filling.after] at filling

theorem length_fill {source rest : Source} {need : Nat} {bytes : List UInt8}
    (step : source.fill need = (.full bytes, rest)) :
    need ≤ bytes.length := by
  induction need using Nat.strongRecOn generalizing source bytes with
  | ind need induction =>
      rw [fill] at step
      split at step
      · omega
      · split at step
        · simp at step
        · simp at step
        · simp at step
        · rename_i positive byte chunk middle reading
          generalize outcome :
            middle.fill (need - (chunk.length + 1)) = result at step
          obtain ⟨further, last⟩ := result
          obtain ⟨filling, rfl⟩ := Prod.mk.inj step
          cases further with
          | full tail =>
              have := induction (need - (chunk.length + 1)) (by omega) outcome
              simp only [Filling.after, Filling.full.injEq] at filling
              subst filling
              simp only [List.length_append, List.length_cons]
              omega
          | ended tail => simp [Filling.after] at filling
          | failed error => simp [Filling.after] at filling
          | waiting => simp [Filling.after] at filling

end Source

end RemoteMessaging
