import RemoteMessaging.Channel.ReadLoop
import RemoteMessaging.Proofs.Streams

/-!
# Streams of frames

The header determines the length and the other way round, so a stream of frames
can be taken apart in one way only.  A reader gets the payloads of the frames
whose bytes have come, however these are cut.
-/

namespace RemoteMessaging

namespace Frame

@[simp] theorem length_header (length : Nat) :
    (header length).length = headerSize := rfl

theorem headerValue_header {length : Nat} (bound : length < UInt32.size) :
    headerValue (header length) = length := by
  simp only [UInt32.size] at bound
  simp only [headerValue, header, List.foldl_cons, List.foldl_nil,
    UInt8.toNat_ofNat']
  omega

theorem header_headerValue {bytes : List UInt8}
    (size : bytes.length = headerSize) :
    header (headerValue bytes) = bytes ∧ headerValue bytes < UInt32.size := by
  match bytes, size with
  | [first, second, third, fourth], _ =>
      have bounds := And.intro first.toNat_lt (And.intro second.toNat_lt
        (And.intro third.toNat_lt fourth.toNat_lt))
      simp only [headerValue, header, List.foldl_cons, List.foldl_nil,
        List.cons.injEq, and_true, ← UInt8.toNat_inj, UInt8.toNat_ofNat',
        UInt32.size]
      refine ⟨⟨?_, ?_, ?_, ?_⟩, ?_⟩ <;> omega

/-- The frame of a payload, however long. -/
def frame (payload : List UInt8) : List UInt8 :=
  header payload.length ++ payload

def frames (payloads : List (List UInt8)) : List UInt8 :=
  payloads.flatMap frame

@[simp] theorem frames_nil : frames [] = [] := rfl

@[simp] theorem frames_cons (payload : List UInt8)
    (payloads : List (List UInt8)) :
    frames (payload :: payloads) = frame payload ++ frames payloads := rfl

/-- A payload is short enough for its length to fit into a header. -/
def Sendable (payload : List UInt8) : Prop := payload.length < UInt32.size

theorem encode_eq_ok_iff {limit : Nat} {payload bytes : List UInt8} :
    encode limit payload = .ok bytes ↔
      Sendable payload ∧ payload.length ≤ limit ∧ bytes = frame payload := by
  unfold encode
  split
  · rename_i fits
    constructor
    · rintro ⟨⟩
      exact ⟨fits.1, fits.2, rfl⟩
    · rintro ⟨-, -, rfl⟩
      rfl
  · rename_i large
    constructor
    · simp
    · rintro ⟨sendable, within, -⟩
      exact (large ⟨sendable, within⟩).elim

theorem frame_ne_nil (payload : List UInt8) : frame payload ≠ [] := by
  simp [frame, header]

/-- Where a frame begins, no other frame begins. -/
theorem frame_append_inj {first second left right : List UInt8}
    (sendable : Sendable first) (sendable' : Sendable second)
    (same : frame first ++ left = frame second ++ right) :
    first = second ∧ left = right := by
  simp only [frame, List.append_assoc] at same
  obtain ⟨heads, tails⟩ := List.append_inj same (by simp)
  have lengths : first.length = second.length := by
    rw [← headerValue_header sendable, heads, headerValue_header sendable']
  exact List.append_inj tails lengths

/-- A stream that begins with a frame and is the beginning of a stream of frames:
the frame is the first of these. -/
theorem cons_of_frame_prefix {payload tail : List UInt8}
    {payloads : List (List UInt8)} (sendable : Sendable payload)
    (each : ∀ payload ∈ payloads, Sendable payload)
    (within : frame payload ++ tail <+: frames payloads) :
    ∃ others, payloads = payload :: others ∧ tail <+: frames others := by
  obtain ⟨more, whole⟩ := within
  cases payloads with
  | nil =>
      have empty := (List.append_eq_nil_iff.mp whole).1
      have empty := (List.append_eq_nil_iff.mp empty).1
      exact (frame_ne_nil payload empty).elim
  | cons first others =>
      rw [frames_cons, List.append_assoc] at whole
      obtain ⟨rfl, same⟩ :=
        frame_append_inj sendable (each first List.mem_cons_self) whole
      exact ⟨others, rfl, more, same⟩

theorem content_of_read {limit : Nat} {source rest : Source}
    {payload : List UInt8}
    (step : read limit source = (.payload payload, rest)) :
    source.content = frame payload ++ rest.content ∧ Sendable payload ∧
      payload.length ≤ limit := by
  simp only [read] at step
  split at step <;> try simp at step
  rename_i bytes middle filled
  obtain ⟨first, size⟩ := Source.content_of_fill filled
  obtain ⟨same, small⟩ := header_headerValue size
  split at step
  · rename_i within
    simp only [readPayload] at step
    split at step <;> try simp at step
    rename_i payload' last filled'
    obtain ⟨rfl, rfl⟩ := step
    obtain ⟨second, length⟩ := Source.content_of_fill filled'
    refine ⟨?_, ?_, ?_⟩
    · rw [first, second, frame, length, same, List.append_assoc]
    · rw [Sendable, length]
      exact small
    · rw [length]
      exact within
  · simp at step

/-- A stream that brings a frame within the limit first gives its payload. -/
theorem read_of_brings {limit : Nat} {source : Source} {more : List Piece}
    {payload tail : List UInt8}
    (brings : source.Brings (frame payload ++ tail) more)
    (sendable : Sendable payload) (within : payload.length ≤ limit) :
    ∃ rest : Source, rest.Brings tail more ∧ rest.ending = source.ending ∧
      read limit source = (.payload payload, rest) := by
  rw [frame, List.append_assoc] at brings
  have head : headerSize ≤ (header payload.length ++ (payload ++ tail)).length := by
    simp
  obtain ⟨middle, brings', ending, filled⟩ := brings.fill head
  rw [List.drop_left' (length_header _)] at brings'
  rw [List.take_left' (length_header _)] at filled
  have whole : payload.length ≤ (payload ++ tail).length := by simp
  obtain ⟨rest, brings'', ending', filled'⟩ := brings'.fill whole
  rw [List.drop_left] at brings''
  rw [List.take_left] at filled'
  refine ⟨rest, brings'', ending'.trans ending, ?_⟩
  simp only [read, filled, headerValue_header sendable, within, if_true,
    readPayload, filled']

theorem read_of_frame {limit : Nat} {source : Source}
    {payload tail : List UInt8} (plain : source.Plain)
    (begins : source.content = frame payload ++ tail)
    (sendable : Sendable payload) (within : payload.length ≤ limit) :
    ∃ rest : Source, rest.Plain ∧ rest.ending = source.ending ∧
      rest.content = tail ∧ read limit source = (.payload payload, rest) := by
  obtain ⟨rest, brings, ending, step⟩ :=
    read_of_brings (Source.brings_nil_iff.mpr ⟨plain, begins⟩) sendable within
  obtain ⟨plain', content⟩ := Source.brings_nil_iff.mp brings
  exact ⟨rest, plain', ending, content, step⟩

theorem read_of_nothing (limit : Nat) {source : Source} (plain : source.Plain)
    (empty : source.content = []) :
    read limit source =
      (match source.ending with
        | .closed => .finished
        | .silent => .waiting, ⟨[], source.ending⟩) := by
  have short : source.content.length < headerSize := by
    simp [empty, headerSize]
  have filled := Source.fill_of_short plain short
  cases ending : source.ending <;> simp only [read, filled, ending, empty]

theorem read_of_empty (limit : Nat) {source : Source} (plain : source.Plain)
    (empty : source.content = []) (closed : source.ending = .closed) :
    read limit source = (.finished, ⟨[], .closed⟩) := by
  rw [read_of_nothing limit plain empty, closed]

end Frame

namespace Channel

open RemoteMessaging.Frame

def notice (channel : Channel) (payload : List UInt8) : Notice :=
  .event (channel.event payload)

theorem receive_of_payload {channel : Channel} {patience : Option Nat}
    {source rest : Source} {payload : List UInt8}
    (patient : patience ≠ some 0)
    (step : read channel.maxFrameLength source = (.payload payload, rest)) :
    channel.receive patience source = channel.notice payload ::
      channel.receive (patience.map (· - 1)) rest := by
  rw [receive, if_neg patient]
  split
  · rename_i again
    obtain ⟨equal, rfl⟩ := Prod.mk.inj (step.symm.trans again)
    obtain rfl := Received.payload.inj equal
    rfl
  all_goals
    rename_i again
    simp [step] at again

theorem receive_of_failed {channel : Channel} {patience : Option Nat}
    {source rest : Source} {error : IoError} (patient : patience ≠ some 0)
    (step : read channel.maxFrameLength source = (.failed error, rest)) :
    channel.receive patience source =
      [.error (Operation.read.channelError channel.remoteAddress error)] := by
  rw [receive, if_neg patient]
  split <;> rename_i again <;> simp [step] at again
  rw [again.1]

theorem receive_of_nothing {channel : Channel} (patience : Option Nat)
    {source rest : Source} {received : Received}
    (step : read channel.maxFrameLength source = (received, rest))
    (nothing : received = .finished ∨ received = .waiting) :
    channel.receive patience source = [] := by
  rw [receive]
  split
  · rfl
  · rcases nothing with rfl | rfl <;>
      split <;> rename_i again <;> simp [step] at again <;> rfl

theorem receive_of_end {channel : Channel} {patience : Option Nat}
    {source : Source}
    (ends : patience = some 0 ∨ ∀ payload rest,
      read channel.maxFrameLength source ≠ (.payload payload, rest)) :
    ∃ fault : Option Error,
      channel.receive patience source = fault.toList.map .error := by
  rw [receive]
  split
  · exact ⟨none, rfl⟩
  · rename_i patient
    split
    · rename_i again
      rcases ends with zero | ends
      · exact (patient zero).elim
      · exact (ends _ _ again).elim
    · rename_i error rest again
      exact ⟨some _, rfl⟩
    · exact ⟨none, rfl⟩
    · exact ⟨none, rfl⟩

/-- From the beginning of a stream of frames, the read loop gets the first of the
payloads in order, and perhaps an error after them. -/
theorem receive_of_prefix (channel : Channel) {payloads : List (List UInt8)}
    (each : ∀ payload ∈ payloads, Sendable payload) {source : Source}
    (within : source.content <+: frames payloads) (patience : Option Nat) :
    ∃ (handed : List (List UInt8)) (fault : Option Error),
      handed <+: payloads ∧ channel.receive patience source =
        handed.map channel.notice ++ fault.toList.map .error := by
  induction payloads generalizing source patience with
  | nil =>
      have ends : ∀ payload rest,
          read channel.maxFrameLength source ≠ (.payload payload, rest) := by
        intro payload rest step
        obtain ⟨begins, sendable, -⟩ := content_of_read step
        rw [begins] at within
        obtain ⟨others, impossible, -⟩ :=
          cons_of_frame_prefix sendable each within
        simp at impossible
      obtain ⟨fault, result⟩ := receive_of_end (.inr ends)
      exact ⟨[], fault, List.nil_prefix, result⟩
  | cons first others induction =>
      by_cases goes : patience ≠ some 0 ∧ ∃ payload rest,
          read channel.maxFrameLength source = (.payload payload, rest)
      · obtain ⟨patient, payload, rest, step⟩ := goes
        obtain ⟨begins, sendable, -⟩ := content_of_read step
        rw [begins] at within
        obtain ⟨others', same, within'⟩ :=
          cons_of_frame_prefix sendable each within
        obtain ⟨rfl, rfl⟩ := List.cons.inj same
        obtain ⟨handed, fault, initial, result⟩ :=
          induction (fun payload member =>
            each payload (List.mem_cons_of_mem _ member)) within'
            (patience.map (· - 1))
        refine ⟨first :: handed, fault, ?_, ?_⟩
        · exact (List.cons_prefix_cons).mpr ⟨rfl, initial⟩
        · rw [receive_of_payload patient step, result]
          rfl
      · have ends : patience = some 0 ∨ ∀ payload rest,
            read channel.maxFrameLength source ≠ (.payload payload, rest) := by
          by_cases zero : patience = some 0
          · exact .inl zero
          · right
            intro payload rest step
            exact goes ⟨zero, payload, rest, step⟩
        obtain ⟨fault, result⟩ := receive_of_end ends
        exact ⟨[], fault, List.nil_prefix, result⟩

/-- From a plain stream of frames within the limit, a read loop that is patient
enough gets all payloads, and no error. -/
theorem receive_of_frames {channel : Channel} {payloads : List (List UInt8)}
    (each : ∀ payload ∈ payloads,
      Sendable payload ∧ payload.length ≤ channel.maxFrameLength)
    {source : Source} (plain : source.Plain)
    (whole : source.content = frames payloads) {patience : Option Nat}
    (patient : ∀ count, patience = some count → payloads.length ≤ count) :
    channel.receive patience source = payloads.map channel.notice := by
  induction payloads generalizing source patience with
  | nil =>
      have step := read_of_nothing channel.maxFrameLength plain whole
      rw [receive]
      split
      · rfl
      · cases ending : source.ending <;> rw [ending] at step <;>
          split <;> rename_i again <;> simp [step] at again <;> rfl
  | cons first others induction =>
      have here := each first List.mem_cons_self
      obtain ⟨rest, plain', ending', content', step⟩ :=
        read_of_frame plain whole here.1 here.2
      have patient' : patience ≠ some 0 := by
        intro zero
        have bound := patient 0 zero
        simp at bound
      have patient'' : ∀ count, patience.map (· - 1) = some count →
          others.length ≤ count := by
        intro count equal
        obtain ⟨before, rfl, rfl⟩ := Option.map_eq_some_iff.mp equal
        have bound := patient before rfl
        simp only [List.length_cons] at bound
        omega
      have later := induction (fun payload member =>
        each payload (List.mem_cons_of_mem _ member)) plain' content' patient''
      rw [receive_of_payload patient' step, later]
      rfl

end Channel

end RemoteMessaging
