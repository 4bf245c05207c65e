import RemoteMessaging.Channel.Event
import RemoteMessaging.Error
import RemoteMessaging.Frame.Codec

/-!
# Messages on their way out

A message is encoded and framed on the thread that sends it, and written later.
Whatever becomes of it is told once: it was written, or an error says why not.
-/

namespace RemoteMessaging

/-- What has become of a message. -/
inductive Receipt (μ : Type) where
  | written (message : μ)
  | failed (message : μ) (error : Error)
  deriving DecidableEq, Repr

structure Outbound (μ : Type) where
  message : μ
  frame : List UInt8
  deriving DecidableEq, Repr

/-- What is fixed about the sending side of a link when it is opened. -/
structure Sender (μ : Type) where
  encode : μ → Except Error (List UInt8)
  maxFrameLength : Nat
  remoteAddress : SocketAddress

namespace Sender

variable {μ : Type}

def prepare (sender : Sender μ) (message : μ) : Except Error (Outbound μ) := do
  let payload ← sender.encode message
  match Frame.encode sender.maxFrameLength payload with
  | .ok frame => return ⟨message, frame⟩
  | .error error => .error (Operation.write.failed error)

/-- Prepares a message for a link that may be active.  An encoding that fails is
told also on an inactive link. -/
def offer (sender : Sender μ) (active : Bool) (message : μ) :
    Except Error (Outbound μ) := do
  let outbound ← sender.prepare message
  if active then return outbound else .error .closed

/-- The error of a message whose frame could not be written. -/
def writeError (sender : Sender μ) (error : IoError) : Error :=
  Operation.write.channelError sender.remoteAddress error

end Sender

/-- What a link has written and told so far, and whether it is active. -/
structure Outlet (μ : Type) where
  activity : Activity
  wire : List UInt8
  receipts : List (Receipt μ)
  deriving DecidableEq, Repr

namespace Outlet

variable {μ : Type}

def start (hooked : Bool) : Outlet μ :=
  ⟨.start hooked, [], []⟩

def report (outlet : Outlet μ) (receipt : Receipt μ) : Outlet μ :=
  { outlet with receipts := outlet.receipts ++ [receipt] }

def put (outlet : Outlet μ) (bytes : List UInt8) : Outlet μ :=
  { outlet with wire := outlet.wire ++ bytes }

def deactivate (outlet : Outlet μ) : Outlet μ :=
  { outlet with activity := outlet.activity.markInactive }

/-- Tells that a frame could not be written; the link is inactive afterwards. -/
def fail (outlet : Outlet μ) (message : μ) (error : Error) : Outlet μ :=
  (outlet.report (.failed message error)).deactivate

end Outlet

/-- A frame that is being written. -/
structure Writing (μ : Type) where
  outbound : Outbound μ
  /-- What the socket has not taken yet. -/
  rest : List UInt8
  deriving DecidableEq, Repr

def Outbound.begin {μ : Type} (outbound : Outbound μ) : Writing μ :=
  ⟨outbound, outbound.frame⟩

/-- How the socket answers a write. -/
inductive WriteAnswer where
  /-- The socket takes at most so many bytes; none at all is a failure. -/
  | taken (count : Nat)
  | failed (error : IoError)
  deriving DecidableEq, Repr

def WriteAnswer.error? : WriteAnswer → Option IoError
  | .taken 0 => some (IoError.ofKind .writeZero)
  | .taken _ => none
  | .failed error => some error

/-- The bytes that a write takes from what is left of a frame. -/
def WriteAnswer.bytes (rest : List UInt8) : WriteAnswer → List UInt8
  | .taken count => rest.take count
  | .failed _ => []

/-- The bytes that a write leaves of what was left of a frame. -/
def WriteAnswer.remainder (rest : List UInt8) (answer : WriteAnswer) :
    List UInt8 :=
  rest.drop (answer.bytes rest).length

/-- How a frame stands after a write. -/
inductive Writing.Outcome (μ : Type) where
  | more (writing : Writing μ)
  | complete
  | broken (error : IoError)
  deriving DecidableEq, Repr

namespace Writing

variable {μ : Type}

def write (writing : Writing μ) (answer : WriteAnswer) : Writing.Outcome μ :=
  match answer.error? with
  | some error => .broken error
  | none =>
      if answer.remainder writing.rest = [] then .complete
      else .more { writing with rest := answer.remainder writing.rest }

theorem bytes_append_remainder (rest : List UInt8) (answer : WriteAnswer) :
    answer.bytes rest ++ answer.remainder rest = rest := by
  cases answer with
  | taken count =>
      simp only [WriteAnswer.remainder, WriteAnswer.bytes, List.length_take]
      rw [← List.drop_eq_drop_min, List.take_append_drop]
  | failed error => rfl

theorem bytes_append_rest {writing next : Writing μ} {answer : WriteAnswer}
    (step : writing.write answer = .more next) :
    answer.bytes writing.rest ++ next.rest = writing.rest := by
  unfold write at step
  split at step
  · simp at step
  · split at step
    · simp at step
    · obtain rfl := Outcome.more.inj step
      exact bytes_append_remainder writing.rest answer

theorem bytes_of_complete {writing : Writing μ} {answer : WriteAnswer}
    (step : writing.write answer = .complete) :
    answer.bytes writing.rest = writing.rest := by
  unfold write at step
  split at step
  · simp at step
  · split at step
    · rename_i nothing
      have whole := bytes_append_remainder writing.rest answer
      rwa [nothing, List.append_nil] at whole
    · simp at step

theorem bytes_of_broken {writing : Writing μ} {answer : WriteAnswer}
    {error : IoError} (step : writing.write answer = .broken error) :
    answer.bytes writing.rest = [] := by
  unfold write at step
  split at step
  · rename_i failure
    cases answer with
    | taken count =>
        cases count with
        | zero => simp [WriteAnswer.bytes]
        | succ more => simp [WriteAnswer.error?] at failure
    | failed cause => rfl
  · split at step <;> simp at step

end Writing

end RemoteMessaging
