import RemoteMessaging.Link.Connection
import RemoteMessaging.Proofs.Frames

/-!
# What an ordered writer puts on the wire

The messages that a queue has accepted divide into those that were written and
the rest.  The wire holds the frames of the former and a beginning of the frames
of the latter; only the message that is being written has a part there.
-/

namespace RemoteMessaging

variable {μ : Type}

def Outbound.stream (outbounds : List (Outbound μ)) : List UInt8 :=
  outbounds.flatMap Outbound.frame

@[simp] theorem Outbound.stream_append (first second : List (Outbound μ)) :
    stream (first ++ second) = stream first ++ stream second :=
  List.flatMap_append

@[simp] theorem Outbound.stream_singleton (outbound : Outbound μ) :
    stream [outbound] = outbound.frame := by
  simp [stream]

def Receipt.written? : Receipt μ → Option μ
  | .written message => some message
  | .failed _ _ => none

theorem Sender.message_of_prepare {sender : Sender μ} {message : μ}
    {outbound : Outbound μ}
    (prepared : sender.prepare message = .ok outbound) :
    outbound.message = message := by
  unfold Sender.prepare at prepared
  cases encoded : sender.encode message with
  | error error => simp [encoded, Bind.bind, Except.bind] at prepared
  | ok payload =>
      simp only [encoded, Bind.bind, Except.bind] at prepared
      split at prepared
      · obtain rfl := Except.ok.inj prepared
        rfl
      · simp at prepared

theorem Sender.prepare_of_offer {sender : Sender μ} {active : Bool}
    {message : μ} {outbound : Outbound μ}
    (offered : sender.offer active message = .ok outbound) :
    sender.prepare message = .ok outbound := by
  unfold Sender.offer at offered
  cases prepared : sender.prepare message with
  | error error => simp [prepared, Bind.bind, Except.bind] at offered
  | ok first =>
      simp only [prepared, Bind.bind, Except.bind] at offered
      split at offered
      · exact offered
      · simp at offered

theorem Writing.outbound_of_more {writing next : Writing μ}
    {answer : WriteAnswer} (step : writing.write answer = .more next) :
    next.outbound = writing.outbound := by
  unfold write at step
  split at step
  · simp at step
  · split at step
    · simp at step
    · obtain rfl := Outcome.more.inj step
      rfl

namespace OrderedWriter

/-- The messages that are not written yet, and what is on the wire of them. -/
def Pending (writer : OrderedWriter μ) (rest : List (Outbound μ))
    (taken : List UInt8) : Prop :=
  match writer.phase with
  | .ready => rest = writer.queue ∧ taken = []
  | .writing writing => rest = writing.outbound :: writer.queue ∧
      taken ++ writing.rest = writing.outbound.frame
  | _ => taken <+: Outbound.stream rest

/-- How the accepted messages divide. -/
structure Progress (accepted : List (Outbound μ)) (writer : OrderedWriter μ)
    (done rest : List (Outbound μ)) (taken : List UInt8) : Prop where
  split : accepted = done ++ rest
  wire : writer.outlet.wire = Outbound.stream done ++ taken
  receipts : writer.outlet.receipts.filterMap Receipt.written? =
    done.map (·.message)
  pending : writer.Pending rest taken

/-- What holds of a writer and the messages that it has accepted. -/
structure Sound (sender : Sender μ) (accepted : List (Outbound μ))
    (writer : OrderedWriter μ) : Prop where
  same : writer.sender = sender
  offered : ∀ outbound ∈ writer.offered,
    sender.prepare outbound.message = .ok outbound
  kept : ∀ outbound ∈ accepted,
    sender.prepare outbound.message = .ok outbound
  progress : ∃ done rest taken, Progress accepted writer done rest taken

theorem drop_cases (writer : OrderedWriter μ) :
    writer.drop =
        { writer with queue := [], isOpen := false, phase := .dropped } ∨
      writer.drop = writer := by
  by_cases halted : writer.halted = true
  · cases phase : writer.phase <;> simp [drop, halted, phase]
  · exact .inr (by simp [drop, halted])

theorem sound_start (sender : Sender μ) (hooked : Bool) :
    Sound sender [] (start sender hooked) := by
  refine ⟨rfl, by simp [start], by simp, [], [], [], ?_⟩
  constructor <;> simp [start, Outlet.start, Outbound.stream, Pending]

theorem Pending.prefix_stream {writer : OrderedWriter μ}
    {rest : List (Outbound μ)} {taken : List UInt8}
    (pending : writer.Pending rest taken) : taken <+: Outbound.stream rest := by
  unfold Pending at pending
  split at pending
  · rw [pending.2]
    exact List.nil_prefix
  · rename_i writing _
    obtain ⟨rfl, whole⟩ := pending
    have begins : taken <+: writing.outbound.frame :=
      ⟨writing.rest, whole⟩
    exact begins.trans (List.prefix_append _ _)
  · exact pending

theorem Pending.append {writer : OrderedWriter μ}
    {rest : List (Outbound μ)} {taken : List UInt8}
    (pending : writer.Pending rest taken) (outbound : Outbound μ) :
    Pending { writer with queue := writer.queue ++ [outbound] }
      (rest ++ [outbound]) taken := by
  unfold Pending at pending ⊢
  cases phase : writer.phase with
  | ready =>
      simp only [phase] at pending
      exact ⟨by rw [pending.1], pending.2⟩
  | writing writing =>
      simp only [phase] at pending
      exact ⟨by rw [pending.1, List.cons_append], pending.2⟩
  | _ =>
      simp only [phase] at pending
      rw [Outbound.stream_append]
      exact pending.trans (List.prefix_append _ _)

theorem Progress.wire_prefix {accepted done rest : List (Outbound μ)}
    {writer : OrderedWriter μ} {taken : List UInt8}
    (progress : Progress accepted writer done rest taken) :
    writer.outlet.wire <+: Outbound.stream accepted := by
  rw [progress.wire, progress.split, Outbound.stream_append]
  exact (List.prefix_append_right_inj _).mpr progress.pending.prefix_stream

/-- Steps that neither write nor touch the queue keep the division. -/
theorem Progress.congr {accepted done rest : List (Outbound μ)}
    {writer next : OrderedWriter μ} {taken : List UInt8}
    (progress : Progress accepted writer done rest taken)
    (wire : next.outlet.wire = writer.outlet.wire)
    (receipts : next.outlet.receipts.filterMap Receipt.written? =
      writer.outlet.receipts.filterMap Receipt.written?)
    (pending : next.Pending rest taken) :
    Progress accepted next done rest taken :=
  ⟨progress.split, wire.trans progress.wire, receipts.trans progress.receipts,
    pending⟩

namespace Sound

variable {sender : Sender μ} {accepted : List (Outbound μ)}
  {writer : OrderedWriter μ}

theorem advance (sound : Sound sender accepted writer)
    {next : OrderedWriter μ} (same : next.sender = writer.sender)
    (offered : next.offered = writer.offered)
    (progress : ∀ done rest taken, Progress accepted writer done rest taken →
      ∃ done rest taken, Progress accepted next done rest taken) :
    Sound sender accepted next := by
  obtain ⟨done, rest, taken, before⟩ := sound.progress
  refine ⟨same.trans sound.same, ?_, sound.kept,
    progress done rest taken before⟩
  rw [offered]
  exact sound.offered

theorem keep (sound : Sound sender accepted writer)
    {next : OrderedWriter μ} (same : next.sender = writer.sender)
    (offered : next.offered = writer.offered)
    (wire : next.outlet.wire = writer.outlet.wire)
    (receipts : next.outlet.receipts.filterMap Receipt.written? =
      writer.outlet.receipts.filterMap Receipt.written?)
    (pending : ∀ rest taken, writer.Pending rest taken →
      next.Pending rest taken) :
    Sound sender accepted next := by
  apply sound.advance same offered
  intro done rest taken progress
  exact ⟨done, rest, taken, progress.congr wire receipts
    (pending rest taken progress.pending)⟩

theorem offer (sound : Sound sender accepted writer) (message : μ) :
    Sound sender accepted (writer.offer message) := by
  unfold OrderedWriter.offer
  split
  · refine sound.keep rfl rfl rfl ?_ fun _ _ => id
    simp [OrderedWriter.report, Outlet.report, Receipt.written?]
  · rename_i outbound offered
    rw [sound.same] at offered
    have prepared := Sender.prepare_of_offer offered
    refine { sound with offered := ?_, progress := ?_ }
    · intro other member
      rcases List.mem_append.mp member with earlier | now
      · exact sound.offered other earlier
      · obtain rfl := List.mem_singleton.mp now
        rw [Sender.message_of_prepare prepared]
        exact prepared
    · obtain ⟨done, rest, taken, progress⟩ := sound.progress
      exact ⟨done, rest, taken,
        progress.congr rfl rfl progress.pending⟩

theorem enqueue (sound : Sound sender accepted writer) (position : Nat) :
    Sound sender (accepted ++ writer.admitted (.enqueue position))
      (writer.enqueue position) := by
  unfold OrderedWriter.enqueue OrderedWriter.admitted
  cases found : writer.offered[position]? with
  | none => simpa [found] using sound
  | some outbound =>
      have member := List.mem_of_getElem? found
      have others : ∀ other ∈ writer.offered.eraseIdx position,
          sender.prepare other.message = .ok other := fun other member =>
        sound.offered other (List.mem_of_mem_eraseIdx member)
      obtain ⟨done, rest, taken, progress⟩ := sound.progress
      cases isOpen : writer.isOpen with
      | true =>
          simp only [if_true, found, Option.toList_some]
          refine ⟨sound.same, others, ?_, done, rest ++ [outbound], taken, ?_⟩
          · intro other member'
            rcases List.mem_append.mp member' with earlier | now
            · exact sound.kept other earlier
            · obtain rfl := List.mem_singleton.mp now
              exact sound.offered other member
          · refine ⟨?_, progress.wire, progress.receipts,
              progress.pending.append outbound⟩
            rw [progress.split, List.append_assoc]
      | false =>
          simp only [Bool.false_eq_true, if_false, List.append_nil]
          refine ⟨sound.same, others, sound.kept, done, rest, taken,
            progress.congr rfl ?_ progress.pending⟩
          simp [OrderedWriter.report, Outlet.report, Receipt.written?]

theorem take (sound : Sound sender accepted writer) :
    Sound sender accepted writer.take := by
  unfold OrderedWriter.take
  split
  · rename_i outbound queue phase queued
    refine sound.keep rfl rfl rfl rfl ?_
    intro rest taken pending
    simp only [Pending, phase, queued] at pending
    obtain ⟨rfl, rfl⟩ := pending
    exact ⟨rfl, rfl⟩
  · exact sound

theorem write (sound : Sound sender accepted writer) (answer : WriteAnswer) :
    Sound sender accepted (writer.write answer) := by
  have pending : ∀ {writing done rest taken},
      writer.phase = .writing writing →
        Progress accepted writer done rest taken →
          rest = writing.outbound :: writer.queue ∧
            taken ++ writing.rest = writing.outbound.frame := by
    intro writing done rest taken phase progress
    simpa only [Pending, phase] using progress.pending
  unfold OrderedWriter.write
  split
  · rename_i writing phase
    simp only
    split
    · rename_i next step
      refine sound.advance rfl rfl ?_
      intro done rest taken progress
      obtain ⟨rfl, whole⟩ := pending phase progress
      refine ⟨done, _, taken ++ answer.bytes writing.rest, progress.split, ?_,
        progress.receipts, ?_, ?_⟩
      · simp [Outlet.put, progress.wire]
      · rw [Writing.outbound_of_more step]
      · rw [Writing.outbound_of_more step, List.append_assoc,
          Writing.bytes_append_rest step]
        exact whole
    · rename_i step
      refine sound.advance rfl rfl ?_
      intro done rest taken progress
      obtain ⟨rfl, whole⟩ := pending phase progress
      refine ⟨done ++ [writing.outbound], writer.queue, [], ?_, ?_, ?_, rfl,
        rfl⟩
      · rw [progress.split, List.append_assoc, List.singleton_append]
      · simp [Outlet.put, Outlet.report, progress.wire,
          Writing.bytes_of_complete step, whole]
      · simp [Outlet.put, Outlet.report, Receipt.written?,
          progress.receipts]
    · rename_i error step
      refine sound.advance rfl rfl ?_
      intro done rest taken progress
      refine ⟨done, rest, taken, progress.congr ?_ ?_
        progress.pending.prefix_stream⟩
      · simp [Outlet.put, Outlet.fail, Outlet.report, Outlet.deactivate,
          Writing.bytes_of_broken step]
      · simp [Outlet.put, Outlet.fail, Outlet.report, Outlet.deactivate,
          Receipt.written?]
  · exact sound

theorem quit (sound : Sound sender accepted writer)
    {next : OrderedWriter μ} (same : next.sender = writer.sender)
    (offered : next.offered = writer.offered)
    (wire : next.outlet.wire = writer.outlet.wire)
    (receipts : next.outlet.receipts.filterMap Receipt.written? =
      writer.outlet.receipts.filterMap Receipt.written?)
    (left : ∀ rest taken, taken <+: Outbound.stream rest →
      next.Pending rest taken) :
    Sound sender accepted next := by
  apply sound.keep same offered wire receipts
  intro rest taken pending
  exact left rest taken pending.prefix_stream

theorem step (sound : Sound sender accepted writer) (action : Action μ) :
    Sound sender (accepted ++ writer.admitted action) (writer.step action) := by
  cases action with
  | enqueue position => exact sound.enqueue position
  | offer message =>
      simp only [OrderedWriter.admitted, List.append_nil, OrderedWriter.step]
      split
      · exact sound.offer message
      · exact sound
  | take =>
      simp only [OrderedWriter.admitted, List.append_nil]
      exact sound.take
  | write answer =>
      simp only [OrderedWriter.admitted, List.append_nil]
      exact sound.write answer
  | leave =>
      simp only [OrderedWriter.admitted, List.append_nil, OrderedWriter.step,
        OrderedWriter.leave]
      split
      · split
        · exact sound.quit rfl rfl rfl rfl fun _ _ => id
        · exact sound
      · exact sound
  | finish =>
      simp only [OrderedWriter.admitted, List.append_nil, OrderedWriter.step,
        OrderedWriter.finish]
      split
      · split
        · exact sound.quit rfl rfl rfl rfl fun _ _ => id
        · exact sound
      · exact sound
  | closeQueue =>
      simp only [OrderedWriter.admitted, List.append_nil, OrderedWriter.step,
        OrderedWriter.closeQueue]
      split
      · exact sound.quit rfl rfl rfl rfl fun _ _ => id
      · exact sound
  | reject =>
      simp only [OrderedWriter.admitted, List.append_nil, OrderedWriter.step,
        OrderedWriter.reject]
      split
      · rename_i phase queued
        refine sound.quit rfl rfl rfl ?_ ?_
        · simp [OrderedWriter.report, Outlet.report, Receipt.written?]
        · intro rest taken begins
          simpa [OrderedWriter.report, Pending, phase] using begins
      · exact sound.quit rfl rfl rfl rfl fun _ _ => id
      · exact sound
  | deactivate =>
      simp only [OrderedWriter.admitted, List.append_nil]
      exact sound.keep rfl rfl rfl rfl fun _ _ => id
  | signal =>
      simp only [OrderedWriter.admitted, List.append_nil]
      exact sound.keep rfl rfl rfl rfl fun _ _ => id
  | disconnect =>
      simp only [OrderedWriter.admitted, List.append_nil]
      exact sound.keep rfl rfl rfl rfl fun _ _ => id
  | halt =>
      simp only [OrderedWriter.admitted, List.append_nil]
      exact sound.keep rfl rfl rfl rfl fun _ _ => id
  | drop =>
      simp only [OrderedWriter.admitted, List.append_nil]
      obtain dropped | same := writer.drop_cases
      · rw [OrderedWriter.step, dropped]
        exact sound.quit rfl rfl rfl rfl fun _ _ => id
      · rw [OrderedWriter.step, same]
        exact sound

end Sound

end OrderedWriter

end RemoteMessaging
