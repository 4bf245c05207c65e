import RemoteMessaging.Proofs.FrameReads

/-!
# Reading arbitrary bytes

Any bytes are, in one way only, a longest sequence of frames within a limit and a
rest.  A reader gets the payloads of these frames, and then a fault that the rest and
the end of the stream determine.  There is none exactly if nothing is left and the
stream was closed.
-/

namespace RemoteMessaging

/-- What comes behind the bytes of a stream. -/
inductive Stop where
  | closed
  | failed (error : IoError)
  deriving DecidableEq, Repr

def Stop.pieces : Stop → List Piece
  | .closed => []
  | .failed error => [.fail error]

/-- A stream brings bytes in any chunks, and then stops. -/
structure Source.Carries (source : Source) (bytes : List UInt8) (stop : Stop) :
    Prop where
  closed : source.ending = .closed
  brings : source.Brings bytes stop.pieces

/-- The outcome of a read for which the bytes do not suffice. -/
def Stop.filling (bytes : List UInt8) : Stop → Source.Filling
  | .closed => .ended bytes
  | .failed error => .failed error

theorem Source.Carries.fill_short {source : Source} {bytes : List UInt8}
    {stop : Stop} (carries : source.Carries bytes stop) {need : Nat}
    (short : bytes.length < need) :
    ∃ left, source.fill need = (stop.filling bytes, left) := by
  have nonzero : need - bytes.length ≠ 0 := by omega
  rw [carries.brings.fill_short short, carries.closed, fill, dif_neg nonzero]
  refine ⟨_, Prod.ext ?_ rfl⟩
  cases stop <;>
    simp [Stop.pieces, Stop.filling, read, readPieces, Filling.after]

namespace Frame

variable {limit : Nat}

/-- Bytes are the frames of payloads within the limit and a rest that begins with no
such frame. -/
structure Parts (limit : Nat) (bytes : List UInt8)
    (payloads : List (List UInt8)) (rest : List UInt8) : Prop where
  whole : bytes = frames payloads ++ rest
  each : ∀ payload ∈ payloads, Sendable payload ∧ payload.length ≤ limit
  longest : ∀ payload, Sendable payload → payload.length ≤ limit →
    ¬ frame payload <+: rest

theorem exists_parts (limit : Nat) (bytes : List UInt8) :
    ∃ payloads rest, Parts limit bytes payloads rest := by
  induction size : bytes.length using Nat.strongRecOn generalizing bytes with
  | ind size induction =>
      by_cases begins : ∃ payload, Sendable payload ∧ payload.length ≤ limit ∧
          frame payload <+: bytes
      · obtain ⟨payload, sendable, within, left, rfl⟩ := begins
        have positive := List.length_pos_iff.mpr (frame_ne_nil payload)
        rw [List.length_append] at size
        obtain ⟨payloads, rest, parts⟩ := induction left.length (by omega) left rfl
        refine ⟨payload :: payloads, rest, ?_, ?_, parts.longest⟩
        · rw [frames_cons, List.append_assoc, ← parts.whole]
        · exact List.forall_mem_cons.mpr ⟨⟨sendable, within⟩, parts.each⟩
      · refine ⟨[], bytes, rfl, by simp, fun payload sendable within first => ?_⟩
        exact begins ⟨payload, sendable, within, first⟩

theorem Parts.unique {bytes : List UInt8} {payloads payloads' : List (List UInt8)}
    {rest rest' : List UInt8} (parts : Parts limit bytes payloads rest)
    (parts' : Parts limit bytes payloads' rest') :
    payloads' = payloads ∧ rest' = rest := by
  induction payloads generalizing bytes payloads' with
  | nil =>
      cases payloads' with
      | nil => exact ⟨rfl, parts'.whole.symm.trans parts.whole⟩
      | cons payload payloads' =>
          obtain ⟨⟨sendable, within⟩, -⟩ := List.forall_mem_cons.mp parts'.each
          refine (parts.longest payload sendable within ?_).elim
          have same := parts.whole.symm.trans parts'.whole
          rw [frames_nil, List.nil_append, frames_cons, List.append_assoc] at same
          exact ⟨_, same.symm⟩
  | cons payload payloads induction =>
      obtain ⟨⟨sendable, within⟩, each⟩ := List.forall_mem_cons.mp parts.each
      have same := parts.whole.symm.trans parts'.whole
      rw [frames_cons, List.append_assoc] at same
      cases payloads' with
      | nil => exact (parts'.longest payload sendable within ⟨_, same⟩).elim
      | cons payload' payloads' =>
          obtain ⟨⟨sendable', -⟩, each'⟩ := List.forall_mem_cons.mp parts'.each
          rw [frames_cons, List.append_assoc] at same
          obtain ⟨rfl, left⟩ := frame_append_inj sendable sendable' same
          obtain ⟨rfl, rfl⟩ := induction ⟨rfl, each, parts.longest⟩
            ⟨left, each', parts'.longest⟩
          exact ⟨rfl, rfl⟩

/-- The fault of a stream of which no frame within the limit is left: a length beyond
the limit, or else the end within a header or a payload. -/
def fault? (limit : Nat) (rest : List UInt8) (stop : Stop) : Option IoError :=
  if headerSize ≤ rest.length ∧ limit < headerValue (rest.take headerSize) then
    some (tooLongIncoming (headerValue (rest.take headerSize)) limit)
  else
    match stop with
    | .closed => if rest = [] then none else some (incomplete rest)
    | .failed error => some error

theorem fault?_eq_none_iff {rest : List UInt8} {stop : Stop} :
    fault? limit rest stop = none ↔ rest = [] ∧ stop = .closed := by
  unfold fault?
  split
  · rename_i large
    have some : rest ≠ [] := by
      rintro rfl
      simp [headerSize] at large
    simp [some]
  · cases stop <;> simp

theorem read_of_short {source : Source} {rest : List UInt8} {stop : Stop}
    (carries : source.Carries rest stop) (short : rest.length < headerSize) :
    (read limit source).1 = (fault? limit rest stop).elim .finished .failed := by
  have early : ¬ headerSize ≤ rest.length := Nat.not_le_of_lt short
  obtain ⟨left, step⟩ := carries.fill_short short
  cases stop with
  | closed =>
      cases rest with
      | nil =>
          simp only [read, step, Stop.filling, fault?, early, false_and, if_false,
            if_true]
          rfl
      | cons byte bytes =>
          simp only [read, step, Stop.filling, fault?, early, false_and, if_false,
            incomplete, if_pos short]
          rfl
  | failed error =>
      simp [read, step, Stop.filling, fault?, early]

/-- The announced payload is not there, or else there were a frame. -/
theorem length_of_longest {rest : List UInt8} (long : headerSize ≤ rest.length)
    (within : headerValue (rest.take headerSize) ≤ limit)
    (longest : ∀ payload, Sendable payload → payload.length ≤ limit →
      ¬ frame payload <+: rest) :
    (rest.drop headerSize).length < headerValue (rest.take headerSize) := by
  obtain ⟨same, small⟩ := header_headerValue (List.length_take_of_le long)
  refine Nat.lt_of_not_le fun enough => ?_
  have length := List.length_take_of_le enough
  refine longest ((rest.drop headerSize).take (headerValue (rest.take headerSize)))
    ?_ (Nat.le_trans (Nat.le_of_eq length) within) ?_
  · rw [Sendable, length]
    exact small
  rw [frame, length, same]
  refine ⟨(rest.drop headerSize).drop (headerValue (rest.take headerSize)), ?_⟩
  rw [List.append_assoc, List.take_append_drop, List.take_append_drop]

/-- A reader that finds no frame meets the fault, or else the end. -/
theorem read_of_rest {source : Source} {rest : List UInt8} {stop : Stop}
    (carries : source.Carries rest stop)
    (longest : ∀ payload, Sendable payload → payload.length ≤ limit →
      ¬ frame payload <+: rest) :
    (read limit source).1 = (fault? limit rest stop).elim .finished .failed := by
  by_cases short : rest.length < headerSize
  · exact read_of_short carries short
  have long : headerSize ≤ rest.length := Nat.le_of_not_lt short
  obtain ⟨middle, brings, ending, filled⟩ := carries.brings.fill long
  by_cases within : headerValue (rest.take headerSize) ≤ limit
  · have few := length_of_longest long within longest
    have carries' : middle.Carries (rest.drop headerSize) stop :=
      ⟨ending.trans carries.closed, brings⟩
    obtain ⟨left, step⟩ := carries'.fill_short few
    have some : rest ≠ [] := by
      rintro rfl
      simp [headerSize] at long
    have fits : ¬ limit < headerValue (rest.take headerSize) := Nat.not_lt_of_le within
    simp only [read, filled, if_pos within, readPayload, step]
    cases stop with
    | closed =>
        simp [Stop.filling, fault?, fits, some, incomplete, short]
    | failed error => simp [Stop.filling, fault?, fits]
  · have large : limit < headerValue (rest.take headerSize) := Nat.lt_of_not_le within
    simp [read, filled, within, fault?, long, large]

theorem read_of_carries {source : Source} {payload bytes : List UInt8} {stop : Stop}
    (carries : source.Carries (frame payload ++ bytes) stop)
    (sendable : Sendable payload) (within : payload.length ≤ limit) :
    ∃ left : Source, left.Carries bytes stop ∧
      read limit source = (.payload payload, left) := by
  obtain ⟨left, brings, ending, step⟩ :=
    read_of_brings carries.brings sendable within
  exact ⟨left, ⟨ending.trans carries.closed, brings⟩, step⟩

/-- Streams that carry the same bytes are read alike, however they are cut. -/
theorem read_congr (limit : Nat) {source source' : Source} {bytes : List UInt8}
    {stop : Stop} (carries : source.Carries bytes stop)
    (carries' : source'.Carries bytes stop) :
    ∃ received left left', read limit source = (received, left) ∧
      read limit source' = (received, left') ∧
      ∀ payload, received = .payload payload →
        ∃ more, left.Carries more stop ∧ left'.Carries more stop := by
  obtain ⟨payloads, rest, parts⟩ := exists_parts limit bytes
  cases payloads with
  | nil =>
      obtain rfl : bytes = rest := parts.whole
      refine ⟨_, _, _, Prod.ext (read_of_rest carries parts.longest) rfl,
        Prod.ext (read_of_rest carries' parts.longest) rfl, ?_⟩
      cases fault? limit bytes stop <;> exact nofun
  | cons payload payloads =>
      obtain ⟨⟨sendable, within⟩, -⟩ := List.forall_mem_cons.mp parts.each
      have first := parts.whole
      rw [frames_cons, List.append_assoc] at first
      obtain ⟨left, here, step⟩ := read_of_carries (first ▸ carries) sendable within
      obtain ⟨left', there, step'⟩ :=
        read_of_carries (first ▸ carries') sendable within
      exact ⟨_, left, left', step, step', fun _ _ => ⟨_, here, there⟩⟩

theorem read_of_closed (limit : Nat) {source : Source}
    (closed : source.ending = .closed) :
    (read limit source).1 ≠ .waiting ∧
      (read limit source).2.ending = .closed := by
  obtain ⟨goes, same⟩ := Source.fill_of_closed headerSize closed
  unfold read
  split <;> rename_i filled <;> rw [filled] at goes same
  · exact ⟨nofun, same⟩
  · exact ⟨nofun, same⟩
  · exact ⟨nofun, same⟩
  · exact (goes rfl).elim
  · rename_i bytes rest
    split
    · obtain ⟨goes', same'⟩ := Source.fill_of_closed (headerValue bytes) same
      unfold readPayload
      split <;> rename_i filled' <;> rw [filled'] at goes' same'
      · exact ⟨nofun, same'⟩
      · exact ⟨nofun, same'⟩
      · exact ⟨nofun, same'⟩
      · exact (goes' rfl).elim
    · exact ⟨nofun, same⟩

end Frame

namespace Channel

open RemoteMessaging.Frame

def notices (channel : Channel) (payloads : List (List UInt8))
    (fault : Option IoError) : List Notice :=
  payloads.map channel.notice ++ fault.toList.map fun error =>
    .error (Operation.read.channelError channel.remoteAddress error)

/-- Whatever bytes a stream carries and however they are cut, the read loop tells of
the payloads of their frames, and then of the fault.  A shutdown makes it stop on
the way. -/
theorem receive_of_parts (channel : Channel) {source : Source}
    {bytes : List UInt8} {stop : Stop} (carries : source.Carries bytes stop)
    {payloads : List (List UInt8)} {rest : List UInt8}
    (parts : Parts channel.maxFrameLength bytes payloads rest)
    (patience : Option Nat) :
    let whole :=
      channel.notices payloads (fault? channel.maxFrameLength rest stop)
    channel.receive patience source = patience.elim whole whole.take := by
  induction payloads generalizing source bytes patience with
  | nil =>
      obtain rfl : bytes = rest := parts.whole
      by_cases patient : patience = some 0
      · rw [receive, if_pos patient, patient]
        rfl
      have step := read_of_rest carries parts.longest
      cases found : read channel.maxFrameLength source with
      | mk received left =>
      rw [found] at step
      obtain rfl : received = _ := step
      cases fault : fault? channel.maxFrameLength bytes stop with
      | none =>
          rw [fault] at found
          rw [receive_of_nothing patience found (.inl rfl)]
          cases patience <;> simp [notices]
      | some error =>
          rw [fault] at found
          rw [receive_of_failed patient found]
          obtain _ | _ | count := patience
          · rfl
          · exact (patient rfl).elim
          · simp [notices]
  | cons payload payloads induction =>
      obtain ⟨⟨sendable, within⟩, each⟩ := List.forall_mem_cons.mp parts.each
      have first := parts.whole
      rw [frames_cons, List.append_assoc] at first
      obtain ⟨left, carries', step⟩ :=
        read_of_carries (first ▸ carries) sendable within
      by_cases patient : patience = some 0
      · rw [receive, if_pos patient, patient]
        rfl
      rw [receive_of_payload patient step,
        induction carries' ⟨rfl, each, parts.longest⟩]
      obtain _ | _ | count := patience
      · rfl
      · exact (patient rfl).elim
      · rfl

end Channel

end RemoteMessaging
