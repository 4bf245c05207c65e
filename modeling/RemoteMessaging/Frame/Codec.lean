import RemoteMessaging.Frame.Source

/-!
# Frames

A frame is the length of its payload in four bytes, highest first, and the
payload.  Both sides refuse payloads beyond a limit.  A stream may end between
frames, but not within one.
-/

namespace RemoteMessaging.Frame

def headerSize : Nat := 4

/-- A length in four bytes, highest first. -/
def header (length : Nat) : List UInt8 :=
  [UInt8.ofNat (length / 0x1000000), UInt8.ofNat (length / 0x10000),
    UInt8.ofNat (length / 0x100), UInt8.ofNat length]

/-- The number that bytes denote, highest first. -/
def headerValue (bytes : List UInt8) : Nat :=
  bytes.foldl (fun value byte => 256 * value + byte.toNat) 0

def tooLong (length limit : Nat) : IoError :=
  ⟨.invalidInput, s!"frame of {length} bytes exceeds limit of {limit} bytes"⟩

def tooLongIncoming (length limit : Nat) : IoError :=
  ⟨.invalidData,
    s!"incoming frame of {length} bytes exceeds limit of {limit} bytes"⟩

def cutShort : IoError :=
  ⟨.unexpectedEnd, "early eof"⟩

def encode (limit : Nat) (payload : List UInt8) : Except IoError (List UInt8) :=
  if payload.length < UInt32.size ∧ payload.length ≤ limit then
    .ok (header payload.length ++ payload)
  else .error (tooLong payload.length limit)

/-- The outcome of reading a frame. -/
inductive Received where
  | payload (bytes : List UInt8)
  /-- The stream ended between frames. -/
  | finished
  | failed (error : IoError)
  /-- The stream is open, but the frame is not complete. -/
  | waiting
  deriving DecidableEq, Repr

def readPayload (length : Nat) (source : Source) : Received × Source :=
  match source.fill length with
  | (.full bytes, rest) => (.payload bytes, rest)
  | (.ended _, rest) => (.failed cutShort, rest)
  | (.failed error, rest) => (.failed error, rest)
  | (.waiting, rest) => (.waiting, rest)

def read (limit : Nat) (source : Source) : Received × Source :=
  match source.fill headerSize with
  | (.ended [], rest) => (.finished, rest)
  | (.ended _, rest) => (.failed (IoError.ofKind .unexpectedEnd), rest)
  | (.failed error, rest) => (.failed error, rest)
  | (.waiting, rest) => (.waiting, rest)
  | (.full bytes, rest) =>
      if headerValue bytes ≤ limit then readPayload (headerValue bytes) rest
      else (.failed (tooLongIncoming (headerValue bytes) limit), rest)

theorem size_readPayload {length : Nat} {source rest : Source}
    {payload : List UInt8}
    (step : readPayload length source = (.payload payload, rest)) :
    rest.size ≤ source.size := by
  simp only [readPayload] at step
  split at step
  · rename_i bytes middle filled
    have := Source.size_fill filled
    obtain ⟨-, rfl⟩ := Prod.mk.inj step
    omega
  · simp at step
  · simp at step
  · simp at step

theorem size_read {limit : Nat} {source rest : Source} {payload : List UInt8}
    (step : read limit source = (.payload payload, rest)) :
    rest.size < source.size := by
  simp only [read] at step
  split at step
  · simp at step
  · simp at step
  · simp at step
  · simp at step
  · rename_i bytes middle filled
    have consumed := Source.size_fill filled
    have header := Source.length_fill filled
    split at step
    · have := size_readPayload step
      simp only [headerSize] at header
      omega
    · simp at step

/-- Reads a number of frames one after the other. -/
def readMany (limit : Nat) : Nat → Source → List Received
  | 0, _ => []
  | count + 1, source =>
      let (received, rest) := read limit source
      received :: readMany limit count rest

end RemoteMessaging.Frame
