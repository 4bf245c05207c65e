import RemoteMessaging.Proofs.OrderedWriter

/-!
# From the queue to the peer

The peer of an ordered link gets the payloads of the messages that the queue has
accepted, in this order, none twice and none left out in between.
-/

namespace RemoteMessaging

variable {μ : Type}

theorem Sender.payload_of_prepare {sender : Sender μ} {outbound : Outbound μ}
    (prepared : sender.prepare outbound.message = .ok outbound) :
    ∃ payload, sender.encode outbound.message = .ok payload ∧
      Frame.Sendable payload ∧ payload.length ≤ sender.maxFrameLength ∧
      outbound.frame = Frame.frame payload := by
  unfold Sender.prepare at prepared
  cases encoded : sender.encode outbound.message with
  | error error => simp [encoded, Bind.bind, Except.bind] at prepared
  | ok payload =>
      simp only [encoded, Bind.bind, Except.bind] at prepared
      split at prepared
      · rename_i bytes framed
        obtain ⟨sendable, within, rfl⟩ := Frame.encode_eq_ok_iff.mp framed
        have same : Frame.frame payload = outbound.frame :=
          congrArg Outbound.frame (Except.ok.inj prepared)
        exact ⟨payload, rfl, sendable, within, same.symm⟩
      · simp at prepared

theorem Sender.payloads_of_prepare {sender : Sender μ}
    {outbounds : List (Outbound μ)}
    (prepared : ∀ outbound ∈ outbounds,
      sender.prepare outbound.message = .ok outbound) :
    ∃ payloads : List (List UInt8),
      outbounds.map (fun outbound => sender.encode outbound.message) =
        payloads.map .ok ∧
      Outbound.stream outbounds = Frame.frames payloads ∧
      ∀ payload ∈ payloads,
        Frame.Sendable payload ∧ payload.length ≤ sender.maxFrameLength := by
  induction outbounds with
  | nil => exact ⟨[], rfl, rfl, by simp⟩
  | cons first others induction =>
      obtain ⟨payload, encoded, sendable, within, same⟩ :=
        payload_of_prepare (prepared first List.mem_cons_self)
      obtain ⟨payloads, encodes, streams, each⟩ :=
        induction fun outbound member =>
          prepared outbound (List.mem_cons_of_mem _ member)
      refine ⟨payload :: payloads, ?_, ?_, ?_⟩
      · rw [List.map_cons, List.map_cons, encoded, encodes]
      · rw [Frame.frames_cons, ← streams, ← same]
        rfl
      · intro other member
        rcases List.mem_cons.mp member with rfl | later
        · exact ⟨sendable, within⟩
        · exact each other later

/-- A writer never takes back what is on the wire. -/
theorem OrderedWriter.wire_step (writer : OrderedWriter μ)
    (action : Action μ) :
    writer.outlet.wire <+: (writer.step action).outlet.wire := by
  have same : ∀ {next : OrderedWriter μ},
      next.outlet.wire = writer.outlet.wire →
        writer.outlet.wire <+: next.outlet.wire := by
    intro next equal
    exact equal ▸ List.prefix_refl writer.outlet.wire
  cases action with
  | write answer =>
      rw [step, write]
      split
      · simp only
        split <;> exact List.prefix_append _ _
      · exact same rfl
  | drop =>
      obtain dropped | unchanged := writer.drop_cases
      · exact same (congrArg (·.outlet.wire) dropped)
      · exact same (congrArg (·.outlet.wire) unchanged)
  | offer message =>
      rw [step, offer]
      split
      · split <;> exact same rfl
      · exact same rfl
  | enqueue position =>
      rw [step, enqueue]
      split
      · exact same rfl
      · simp only
        split <;> exact same rfl
  | take =>
      rw [step, take]
      split <;> exact same rfl
  | leave =>
      rw [step, leave]
      split
      · split <;> exact same rfl
      · exact same rfl
  | finish =>
      rw [step, finish]
      split
      · split <;> exact same rfl
      · exact same rfl
  | closeQueue =>
      rw [step, closeQueue]
      split <;> exact same rfl
  | reject =>
      rw [step, reject]
      split <;> exact same rfl
  | deactivate => exact same rfl
  | signal => exact same rfl
  | disconnect => exact same rfl
  | halt => exact same rfl

namespace Connection

/-- What holds of a link and the stream to its peer. -/
structure Sound (sender : Sender μ) (connection : Connection μ) : Prop where
  writer : OrderedWriter.Sound sender connection.accepted connection.writer
  plain : connection.source.Plain
  bound : connection.passed ≤ connection.writer.outlet.wire.length
  content : connection.source.content =
    connection.writer.outlet.wire.take connection.passed

theorem sound_start (sender : Sender μ) (hooked : Bool) :
    Sound sender (start sender hooked) := by
  refine ⟨OrderedWriter.sound_start sender hooked, ?_, ?_, ?_⟩
  · simp [start, source, Source.Plain]
  · simp [start]
  · simp [start, source, Source.content]

namespace Sound

variable {sender : Sender μ} {connection : Connection μ}

theorem step (sound : Sound sender connection) (action : Action μ) :
    Sound sender (connection.step action) := by
  cases action with
  | writer action =>
      obtain ⟨more, grown⟩ := connection.writer.wire_step action
      have bound := sound.bound
      refine ⟨sound.writer.step action, sound.plain, ?_, ?_⟩
      · simp only [Connection.step, ← grown, List.length_append]
        omega
      · simp only [Connection.step, ← grown]
        rw [List.take_append_of_le_length bound]
        exact sound.content
  | arrive count =>
      simp only [Connection.step, arrive]
      split
      · exact sound
      · rename_i open'
        have some : connection.underWay.take count ≠ [] := fun empty =>
          open' (.inl empty)
        have bound := sound.bound
        refine ⟨sound.writer, ?_, ?_, ?_⟩
        · intro piece member
          rcases List.mem_append.mp member with earlier | now
          · exact sound.plain piece earlier
          · obtain rfl := List.mem_singleton.mp now
            exact some
        · simp only [underWay, List.length_take, List.length_drop]
          omega
        · have earlier : connection.arrived.flatMap Piece.chunk =
              connection.writer.outlet.wire.take connection.passed :=
            sound.content
          simp only [source, Source.content, List.flatMap_append, earlier,
            List.flatMap_singleton, Piece.chunk, underWay]
          rw [List.take_add, List.length_take, ← List.take_eq_take_min]
  | pause =>
      simp only [Connection.step]
      split
      · exact sound
      · refine ⟨sound.writer, ?_, sound.bound, ?_⟩
        · intro piece member
          rcases List.mem_append.mp member with earlier | now
          · exact sound.plain piece earlier
          · obtain rfl := List.mem_singleton.mp now
            exact trivial
        · have earlier : connection.arrived.flatMap Piece.chunk =
              connection.writer.outlet.wire.take connection.passed :=
            sound.content
          simp [source, Source.content, earlier, Piece.chunk]
  | cut => exact ⟨sound.writer, sound.plain, sound.bound, sound.content⟩

theorem run (sound : Sound sender connection) (actions : List (Action μ)) :
    Sound sender (connection.run actions) := by
  induction actions generalizing connection with
  | nil => exact sound
  | cons action actions induction => exact induction (sound.step action)

theorem content_prefix (sound : Sound sender connection) :
    connection.source.content <+: Outbound.stream connection.accepted := by
  obtain ⟨done, rest, taken, progress⟩ := sound.writer.progress
  rw [sound.content]
  exact (List.take_prefix _ _).trans progress.wire_prefix

/-- When all accepted messages have been written, the wire holds all frames. -/
theorem wire_eq (sound : Sound sender connection)
    (written : (connection.writer.outlet.receipts.filterMap
      Receipt.written?).length = connection.accepted.length) :
    connection.writer.outlet.wire = Outbound.stream connection.accepted := by
  obtain ⟨done, rest, taken, progress⟩ := sound.writer.progress
  have nothing : rest = [] := by
    rw [progress.receipts, progress.split, List.length_map,
      List.length_append] at written
    exact List.length_eq_zero_iff.mp (by omega)
  subst nothing
  have none : taken = [] :=
    List.prefix_nil.mp progress.pending.prefix_stream
  rw [progress.wire, progress.split, none, List.append_nil, List.append_nil]

end Sound

end Connection

end RemoteMessaging
