import Mathlib.Data.List.Perm.Subperm
import RemoteMessaging.Proofs.Connection
import RemoteMessaging.Proofs.Receipts

/-!
# What the tasks of an unordered link put on the wire

Each task that gets the socket puts one segment on the wire, a part of its frame,
before another task gets it.  The segment is the whole frame unless a write fails
or the threads drop the task.  Nothing keeps the tasks that wait then from writing
after a frame that was cut short, before or after the failure is told of; only
messages that are handed over after the link is marked as inactive are refused.
-/

namespace RemoteMessaging

variable {μ : Type}

/-- What a task has put on the wire. -/
structure Segment (μ : Type) where
  outbound : Outbound μ
  bytes : List UInt8
  deriving DecidableEq

def Segment.Whole (segment : Segment μ) : Prop :=
  segment.bytes = segment.outbound.frame

instance (segment : Segment μ) : Decidable segment.Whole :=
  inferInstanceAs (Decidable (_ = _))

def Segment.message (segment : Segment μ) : μ :=
  segment.outbound.message

/-- The segment is a part of the frame that a sender makes of its message. -/
structure Segment.Begins (sender : Sender μ) (segment : Segment μ) : Prop where
  prepared : sender.prepare segment.message = .ok segment.outbound
  begins : segment.bytes <+: segment.outbound.frame

def Segment.stream (segments : List (Segment μ)) : List UInt8 :=
  segments.flatMap Segment.bytes

@[simp] theorem Segment.stream_append (first second : List (Segment μ)) :
    stream (first ++ second) = stream first ++ stream second :=
  List.flatMap_append

@[simp] theorem Segment.stream_singleton (segment : Segment μ) :
    stream [segment] = segment.bytes := by
  simp [stream]

/-- The segment of a task that has the socket. -/
def Writing.segment (writing : Writing μ) : Segment μ :=
  ⟨writing.outbound, writing.outbound.frame.take
    (writing.outbound.frame.length - writing.rest.length)⟩

/-- Bytes are whole frames of some of the messages, and then at most one frame
that was cut short. -/
def Sender.InStep (sender : Sender μ) (messages : List μ)
    (bytes : List UInt8) : Prop :=
  ∃ (done cut : List (Outbound μ)) (taken : List UInt8),
    cut.length ≤ 1 ∧ ((done ++ cut).map (·.message)).Subperm messages ∧
      (∀ outbound ∈ done ++ cut,
        sender.prepare outbound.message = .ok outbound) ∧
      bytes = Outbound.stream done ++ taken ∧ taken <+: Outbound.stream cut

/-! ## One frame -/

theorem Writing.segment_append_rest {writing : Writing μ}
    (suffix : writing.rest <:+ writing.outbound.frame) :
    writing.segment.bytes ++ writing.rest = writing.outbound.frame := by
  obtain ⟨taken, whole⟩ := suffix
  simp [segment, ← whole]

theorem Writing.segment_eq_of_append {writing : Writing μ}
    {bytes : List UInt8}
    (whole : bytes ++ writing.rest = writing.outbound.frame) :
    writing.segment = ⟨writing.outbound, bytes⟩ := by
  simp [segment, ← whole]

theorem Writing.not_whole_of_rest {writing : Writing μ}
    (suffix : writing.rest <:+ writing.outbound.frame)
    (left : writing.rest ≠ []) : ¬ writing.segment.Whole := by
  intro whole
  have parts := segment_append_rest suffix
  rw [whole] at parts
  exact left (List.append_right_eq_self.mp parts)

theorem Writing.segment_of_more {writing next : Writing μ}
    {answer : WriteAnswer} (step : writing.write answer = .more next)
    (suffix : writing.rest <:+ writing.outbound.frame) :
    next.rest <:+ next.outbound.frame ∧
      next.segment.bytes =
        writing.segment.bytes ++ answer.bytes writing.rest := by
  have same := outbound_of_more step
  have whole : (writing.segment.bytes ++ answer.bytes writing.rest) ++
      next.rest = next.outbound.frame := by
    rw [List.append_assoc, bytes_append_rest step, same]
    exact segment_append_rest suffix
  exact ⟨⟨_, whole⟩, by rw [segment_eq_of_append whole]⟩

/-! ## The task that has the socket -/

namespace Holder

/-- What the task has begun to write and not finished. -/
def unfinished? : Holder μ → Option (Writing μ)
  | .busy writing | .failed writing _ => some writing
  | .written _ => none

def segment : Holder μ → Segment μ
  | .busy writing | .failed writing _ => writing.segment
  | .written outbound => ⟨outbound, outbound.frame⟩

/-- The task writes the frame that a sender makes of its message. -/
structure Sound (sender : Sender μ) (holder : Holder μ) : Prop where
  prepared : sender.prepare holder.outbound.message = .ok holder.outbound
  left : ∀ writing ∈ holder.unfinished?,
    writing.rest <:+ writing.outbound.frame ∧ writing.rest ≠ []

variable {sender : Sender μ} {holder : Holder μ}

theorem outbound_segment (holder : Holder μ) :
    holder.segment.outbound = holder.outbound := by
  cases holder <;> rfl

theorem Sound.begins (sound : holder.Sound sender) :
    holder.segment.Begins sender := by
  have prepared := sound.prepared
  rw [← outbound_segment] at prepared
  refine ⟨prepared, ?_⟩
  cases holder with
  | written outbound => exact List.prefix_refl _
  | _ => exact List.take_prefix _ _

theorem Sound.whole_iff (sound : holder.Sound sender) :
    holder.segment.Whole ↔ holder.unfinished? = none := by
  cases holder with
  | written outbound => exact ⟨fun _ => rfl, fun _ => rfl⟩
  | _ =>
      obtain ⟨suffix, left⟩ := sound.left _ rfl
      exact ⟨fun whole => (Writing.not_whole_of_rest suffix left whole).elim, nofun⟩

theorem Sound.receipt_cases (sound : holder.Sound sender) {receipt : Receipt μ}
    (owes : holder.receipt? sender = some receipt) :
    holder.segment.Whole ∧ receipt = .written holder.segment.message ∨
      ¬ holder.segment.Whole ∧ ∃ error,
        receipt = .failed holder.segment.message (sender.writeError error) := by
  rw [sound.whole_iff]
  cases holder with
  | busy writing => cases owes
  | written outbound =>
      obtain rfl := Option.some.inj owes
      exact .inl ⟨rfl, rfl⟩
  | failed writing error =>
      obtain rfl := Option.some.inj owes
      exact .inr ⟨nofun, error, rfl⟩

end Holder

theorem Writing.segment_advance {writing : Writing μ}
    (suffix : writing.rest <:+ writing.outbound.frame) (answer : WriteAnswer) :
    (writing.advance answer).segment.bytes =
      (Holder.busy writing).segment.bytes ++ answer.bytes writing.rest := by
  unfold advance
  cases writes : writing.write answer with
  | more next => exact (segment_of_more writes suffix).2
  | complete =>
      rw [bytes_of_complete writes]
      exact (segment_append_rest suffix).symm
  | broken error =>
      rw [bytes_of_broken writes, List.append_nil]
      rfl

theorem Writing.sound_advance {sender : Sender μ} {writing : Writing μ}
    (sound : (Holder.busy writing).Sound sender) (answer : WriteAnswer) :
    (writing.advance answer).Sound sender := by
  obtain ⟨suffix, left⟩ := sound.left writing rfl
  constructor
  · rw [UnorderedWriter.outbound_advance]
    exact sound.prepared
  · unfold advance
    cases writes : writing.write answer with
    | more next =>
        rintro _ ⟨⟩
        exact ⟨(segment_of_more writes suffix).1, rest_ne_nil_of_more writes⟩
    | complete => nofun
    | broken error =>
        rintro _ ⟨⟩
        exact ⟨suffix, left⟩

theorem Outbound.sound_begin {sender : Sender μ} {outbound : Outbound μ}
    (prepared : sender.prepare outbound.message = .ok outbound) :
    (Holder.busy outbound.begin).Sound sender := by
  refine ⟨prepared, ?_⟩
  rintro _ ⟨⟩
  obtain ⟨payload, -, -, -, whole⟩ := Sender.payload_of_prepare prepared
  refine ⟨List.suffix_refl _, ?_⟩
  change outbound.frame ≠ []
  rw [whole]
  exact Frame.frame_ne_nil payload

namespace UnorderedWriter

/-! ## Who gives the socket back -/

/-- The segment of a task that has the socket before a step and not after it. -/
def gives (before after : Option (Holder μ)) : List (Segment μ) :=
  if after.isNone then before.toList.map Holder.segment else []

def closes (writer : UnorderedWriter μ) (action : Action μ) : List (Segment μ) :=
  gives writer.current (writer.step action).current

/-- A write for a message has failed: its task is about to tell so, or has told so,
and then the link is inactive or about to be. -/
def Fails (writer : UnorderedWriter μ) (message : μ) : Prop :=
  ∃ error, .failed message (writer.sender.writeError error) ∈ writer.untold ∨
    .failed message (writer.sender.writeError error) ∈ writer.outlet.receipts ∧
      (.mark ∈ writer.errands ∨ writer.outlet.activity.active = false)

theorem gives_self (current : Option (Holder μ)) : gives current current = [] := by
  cases current <;> rfl

theorem exists_of_mem_gives {before after : Option (Holder μ)} {segment : Segment μ}
    (member : segment ∈ gives before after) :
    ∃ holder, before = some holder ∧ holder.segment = segment := by
  rw [gives] at member
  split at member
  · obtain ⟨holder, among, same⟩ := List.mem_map.mp member
    exact ⟨holder, Option.mem_toList.mp among, same⟩
  · cases member

namespace Steps

variable {writer next : UnorderedWriter μ} {action : Action μ}

theorem mem_untold_or (steps : Steps writer action next) {receipt : Receipt μ}
    (member : receipt ∈ writer.untold) :
    receipt ∈ next.untold ∨ receipt ∈ writer.tells action :=
  List.mem_append.mp (steps.perm_untold.mem_iff.mpr (List.mem_append_left _ member))

theorem mark_of_tells (steps : Steps writer action next) {message : μ}
    {error : Error} (told : .failed message error ∈ writer.tells action) :
    .mark ∈ next.errands := by
  cases steps with
  | told found =>
      simp only [tells, found, Option.bind_some, Errand.receipt?,
        Option.toList_some, List.mem_singleton] at told
      subst told
      exact List.mem_append_right _ (List.mem_singleton.mpr rfl)
  | idle nobody kept quiet silent =>
      rw [silent] at told
      cases told
  | _ => cases told

theorem mark_or_inactive (steps : Steps writer action next)
    (marks : .mark ∈ writer.errands) :
    .mark ∈ next.errands ∨ next.outlet.activity.active = false := by
  cases steps with
  | released => exact .inl (List.mem_append_left _ marks)
  | told found =>
      rcases List.mem_cons.mp ((perm_cons_eraseIdx found).mem_iff.mpr marks) with
        same | others
      · cases same
      · exact .inl (List.mem_append_left _ others)
  | marked => exact .inr (Activity.active_markInactive _)
  | _ => exact .inl marks

theorem fails (steps : Steps writer action next) {message : μ}
    (fails : writer.Fails message) : next.Fails message := by
  obtain ⟨error, owed | ⟨told, marks⟩⟩ := fails
  · refine ⟨error, ?_⟩
    rw [steps.sender, steps.receipts]
    rcases steps.mem_untold_or owed with still | tells
    · exact .inl still
    · refine .inr ⟨?_, .inl (steps.mark_of_tells tells)⟩
      exact List.mem_append_right _ (List.mem_append_right _ tells)
  · refine ⟨error, .inr ?_⟩
    rw [steps.sender, steps.receipts]
    refine ⟨List.mem_append_left _ told, ?_⟩
    rcases marks with marks | dead
    · exact steps.mark_or_inactive marks
    · exact .inr (steps.inactive dead)

theorem messages_gives (steps : Steps writer action next) :
    ((gives writer.current next.current).map Segment.message).Sublist
      ((writer.owes action).map Receipt.message ++ writer.lost action) := by
  cases steps with
  | acquired free found =>
      rw [gives, free]
      exact List.nil_sublist _
  | wrote current =>
      rw [gives]
      exact List.nil_sublist _
  | @released holder receipt current owes =>
      simp [gives, UnorderedWriter.owes, owing?, current, owes,
        message_of_receipt owes, Segment.message, Holder.outbound_segment]
  | @cut writing halted current =>
      simp [gives, lost, halted, current, Segment.message, Holder.segment,
        Writing.segment]
  | _ =>
      rw [gives_self]
      exact List.nil_sublist _

end Steps

/-- The tasks that had or have the socket are those of different messages that
were admitted. -/
theorem subperm_admitted (writer : UnorderedWriter μ)
    (actions : List (Action μ)) (idle : writer.ahead = []) :
    ((noted step closes writer actions ++
        (writer.run actions).current.toList.map Holder.segment).map
      Segment.message).Subperm (noted step admitted writer actions) := by
  have balance := perm_of_balance ahead
    (fun writer action => (steps_step writer action).perm_ahead) writer actions
  rw [idle, List.nil_append] at balance
  refine List.Subperm.trans ?_ balance.subperm
  have current : (((writer.run actions).current.toList.map
      Holder.segment).map Segment.message).Sublist (writer.run actions).ahead := by
    have same : Segment.message ∘ Holder.segment =
        fun holder : Holder μ => holder.outbound.message :=
      funext fun holder => congrArg (·.message) (Holder.outbound_segment holder)
    simp only [ahead, List.map_append, List.map_map, same]
    exact List.sublist_append_right _ _
  have done : ((noted step closes writer actions).map
      Segment.message).Sublist (noted step (fun writer action =>
        (owes writer action).map Receipt.message ++ lost writer action)
          writer actions) := by
    rw [← noted_map]
    exact noted_sublist
      (fun writer action => (steps_step writer action).messages_gives) writer actions
  rw [List.map_append]
  exact List.perm_append_comm.subperm.trans
    (List.Subperm.append current.subperm done.subperm)

theorem admitted_eq_nil_of_inactive (writer : UnorderedWriter μ)
    (actions : List (Action μ))
    (inactive : writer.outlet.activity.active = false) :
    noted step admitted writer actions = [] := by
  refine noted_eq_nil (fun writer => writer.outlet.activity.active = false)
    (fun _ => True) ?_ ?_ writer actions inactive (fun _ _ => trivial)
  · intro writer action inactive
    cases action with
    | offer message =>
        simp only [admitted, inactive]
        cases prepared : writer.sender.prepare message <;>
          simp [Sender.offer, prepared, Bind.bind, Except.bind]
    | _ => rfl
  · intro writer action inactive _
    exact (steps_step writer action).inactive inactive

/-! ## The wire -/

/-- The segments of the tasks that had the socket, and of the one that has it,
make up the wire. -/
structure Laid (sender : Sender μ) (closed : List (Segment μ))
    (writer : UnorderedWriter μ) : Prop where
  same : writer.sender = sender
  prepared : ∀ outbound ∈ writer.offered ++ writer.waiting,
    sender.prepare outbound.message = .ok outbound
  current : ∀ holder, writer.current = some holder → holder.Sound sender
  wire : writer.outlet.wire =
    Segment.stream (closed ++ writer.current.toList.map Holder.segment)
  begins : ∀ segment ∈ closed, segment.Begins sender
  told : ((writer.outlet.receipts ++ writer.untold).filterMap
    Receipt.written?).Perm ((closed.filter (·.Whole)).map Segment.message)
  cut : ∀ segment ∈ closed, ¬ segment.Whole →
    writer.halted = true ∨ writer.Fails segment.message

theorem laid_new (sender : Sender μ) (hooked : Bool) :
    Laid sender [] (new sender hooked) := by
  constructor <;> simp [new, Outlet.start, Segment.stream, untold]

namespace Laid

variable {sender : Sender μ} {closed : List (Segment μ)}
  {writer next : UnorderedWriter μ} {action : Action μ}

theorem prepared_next (laid : Laid sender closed writer)
    (steps : Steps writer action next) :
    ∀ outbound ∈ next.offered ++ next.waiting,
      sender.prepare outbound.message = .ok outbound := by
  intro outbound member
  cases steps with
  | offered offers =>
      rw [laid.same] at offers
      have prepares := Sender.prepare_of_offer offers
      simp only [List.append_assoc, List.singleton_append, List.mem_append,
        List.mem_cons] at member
      rcases member with earlier | rfl | later
      · exact laid.prepared outbound (List.mem_append_left _ earlier)
      · rwa [Sender.message_of_prepare prepares]
      · exact laid.prepared outbound (List.mem_append_right _ later)
  | started found running =>
      apply laid.prepared outbound
      rw [← List.append_assoc, List.mem_append] at member
      rcases member with others | starts
      · exact ((List.eraseIdx_sublist _ _).append_right _).subset others
      · obtain rfl := List.mem_singleton.mp starts
        exact List.mem_append_left _ (List.mem_of_getElem? found)
  | stillborn =>
      exact laid.prepared outbound
        (((List.eraseIdx_sublist _ _).append_right _).subset member)
  | acquired | dropped =>
      exact laid.prepared outbound
        (((List.eraseIdx_sublist _ _).append_left _).subset member)
  | _ => exact laid.prepared outbound member

theorem current_next (laid : Laid sender closed writer)
    (steps : Steps writer action next) :
    ∀ holder, next.current = some holder → holder.Sound sender := by
  cases steps with
  | acquired free found =>
      rintro _ ⟨⟩
      exact Outbound.sound_begin
        (laid.prepared _ (List.mem_append_right _ (List.mem_of_getElem? found)))
  | wrote current =>
      rintro _ ⟨⟩
      exact Writing.sound_advance (laid.current _ current) _
  | released | cut => nofun
  | _ => exact laid.current

theorem wire_next (laid : Laid sender closed writer)
    (steps : Steps writer action next) :
    next.outlet.wire = Segment.stream (closed ++ gives writer.current next.current ++
      next.current.toList.map Holder.segment) := by
  have wire := laid.wire
  cases steps with
  | acquired free found =>
      simp [gives, wire, free, Outbound.begin, Holder.segment, Writing.segment]
  | @wrote answer writing current =>
      have suffix := ((laid.current _ current).left writing rfl).1
      simp [gives, wire, current, Outlet.put,
        Writing.segment_advance suffix answer]
  | released current | cut halted current =>
      simp [gives, wire, current]
  | _ =>
      rw [gives_self, List.append_nil]
      exact wire

/-- A task tells of its message as written if and only if its segment is whole. -/
theorem whole_gives (laid : Laid sender closed writer)
    (steps : Steps writer action next) :
    ((gives writer.current next.current).filter (·.Whole)).map Segment.message =
      (writer.owes action).filterMap Receipt.written? := by
  cases steps with
  | acquired free found => simp [gives, owes]
  | wrote current => simp [gives, owes]
  | @released holder receipt current owes =>
      have sound := laid.current holder current
      simp only [gives, UnorderedWriter.owes, owing?, current, Option.isNone_none,
        Option.bind_some, owes, Option.toList_some, List.map_cons, List.map_nil]
      rw [laid.same] at owes
      rcases sound.receipt_cases owes with ⟨whole, rfl⟩ | ⟨short, error, rfl⟩
      · simp [whole, Receipt.written?]
      · simp [short, Receipt.written?]
  | @cut writing halted current =>
      have short : ¬ (Holder.busy writing).segment.Whole := by
        rw [(laid.current _ current).whole_iff]
        exact Option.some_ne_none writing
      simp [gives, owes, current, short]
  | idle nobody kept quiet =>
      rw [gives_self, quiet]
      rfl
  | _ =>
      rw [gives_self]
      rfl

theorem told_next (laid : Laid sender closed writer)
    (steps : Steps writer action next) :
    ((next.outlet.receipts ++ next.untold).filterMap Receipt.written?).Perm
      (((closed ++ gives writer.current next.current).filter (·.Whole)).map Segment.message) := by
  have refusals : (writer.refused action).filterMap Receipt.written? = [] := by
    cases action with
    | offer message =>
        rw [refused]
        split <;> rfl
    | _ => rfl
  have settled := (steps.perm_untold.filterMap Receipt.written?)
  rw [List.filter_append, List.map_append, laid.whole_gives steps, steps.receipts]
  simp only [List.filterMap_append, refusals, List.nil_append, List.append_assoc]
    at settled ⊢
  have told := laid.told
  rw [List.filterMap_append] at told
  refine (List.Perm.append_left _ (List.perm_append_comm.trans settled)).trans ?_
  rw [← List.append_assoc]
  exact told.append_right _

theorem cut_next (laid : Laid sender closed writer)
    (steps : Steps writer action next) :
    ∀ segment ∈ closed ++ gives writer.current next.current, ¬ segment.Whole →
      next.halted = true ∨ next.Fails segment.message := by
  intro segment member short
  rcases List.mem_append.mp member with earlier | now
  · rcases laid.cut segment earlier short with stops | fails
    · exact .inl (steps.halted_of_halted stops)
    · exact .inr (steps.fails fails)
  · obtain ⟨holder, current, rfl⟩ := exists_of_mem_gives now
    cases steps with
    | released current' owes =>
        rw [current'] at current
        obtain rfl := Option.some.inj current
        have sound := laid.current _ current'
        rw [laid.same] at owes
        rcases sound.receipt_cases owes with ⟨whole, -⟩ | ⟨-, error, rfl⟩
        · exact (short whole).elim
        · refine .inr ⟨error, .inl ?_⟩
          simp [untold, Errand.receipt?, laid.same]
    | cut halted => exact .inl halted
    | acquired free found => simp [gives] at now
    | wrote => simp [gives] at now
    | _ =>
        rw [gives_self] at now
        cases now

theorem step (laid : Laid sender closed writer) (steps : Steps writer action next) :
    Laid sender (closed ++ gives writer.current next.current) next := by
  refine ⟨steps.sender.trans laid.same, laid.prepared_next steps,
    laid.current_next steps, laid.wire_next steps, ?_, laid.told_next steps,
    laid.cut_next steps⟩
  intro segment member
  rcases List.mem_append.mp member with earlier | now
  · exact laid.begins segment earlier
  · obtain ⟨holder, current, rfl⟩ := exists_of_mem_gives now
    exact (laid.current holder current).begins

theorem run (laid : Laid sender closed writer) (actions : List (Action μ)) :
    Laid sender (closed ++ noted UnorderedWriter.step closes writer actions)
      (writer.run actions) := by
  induction actions generalizing closed writer with
  | nil =>
      rw [noted, List.append_nil]
      exact laid
  | cons action actions induction =>
      have later := induction (laid.step (steps_step writer action))
      rwa [List.append_assoc] at later

end Laid

/-- Segments of which all but the last are whole frames are in step. -/
theorem inStep_of_whole {sender : Sender μ} {messages : List μ}
    {segments : List (Segment μ)}
    (begins : ∀ segment ∈ segments, segment.Begins sender)
    (distinct : (segments.map Segment.message).Subperm messages)
    (whole : ∀ segment ∈ segments.dropLast, segment.Whole) :
    sender.InStep messages (Segment.stream segments) := by
  have prepared : ∀ outbound ∈ segments.map Segment.outbound,
      sender.prepare outbound.message = .ok outbound := by
    intro outbound member
    obtain ⟨segment, among, rfl⟩ := List.mem_map.mp member
    exact (begins segment among).prepared
  have messages_eq : segments.map Segment.message =
      (segments.map Segment.outbound).map (·.message) := by
    rw [List.map_map]
    rfl
  rw [messages_eq] at distinct
  rcases List.eq_nil_or_concat segments with rfl | ⟨first, last, rfl⟩
  · exact ⟨[], [], [], Nat.zero_le _, distinct, prepared, rfl,
      List.prefix_refl _⟩
  · rw [List.concat_eq_append] at *
    rw [List.dropLast_concat] at whole
    rw [List.map_append] at distinct prepared
    refine ⟨first.map Segment.outbound, [last.outbound], last.bytes, Nat.le_refl _,
      distinct, prepared, ?_, ?_⟩
    · rw [Segment.stream_append, Segment.stream_singleton]
      congr 1
      rw [Segment.stream, Outbound.stream, List.flatMap_map]
      exact List.flatMap_congr whole
    · rw [Outbound.stream_singleton]
      exact (begins last (by simp)).begins

/-- An active link on which no failure is left to be told of has seen none. -/
theorem not_fails {writer : UnorderedWriter μ}
    (active : writer.outlet.activity.active = true)
    (successes : ∀ errand ∈ writer.errands, ∃ message,
      errand = .tell (.written message)) (message : μ) : ¬ writer.Fails message := by
  rintro ⟨error, owed | ⟨-, marks | inactive⟩⟩
  · obtain ⟨errand, member, tells⟩ := List.mem_filterMap.mp owed
    obtain ⟨other, rfl⟩ := successes errand member
    cases tells
  · obtain ⟨other, same⟩ := successes _ marks
    cases same
  · rw [active] at inactive
    cases inactive

/-- Take any run of the tasks of an unordered link.  The wire is made up of one
segment for each task that has had or has the socket, and the segments belong to
different messages that were handed over while the link was active.  A message is
told of as written, or is about to be, if and only if its segment is its whole
frame; a segment that was cut short means that a write failed, or that the threads
stop.  The wire is in step as long as at most the last segment is cut short.  So it
is while the threads run and the link is active and no task that has given the
socket back is yet to tell of a failure or to mark the link. -/
theorem writes_in_segments (sender : Sender μ) (hooked : Bool)
    (actions : List (Action μ)) :
    let first := new sender hooked
    let writer := first.run actions
    let submitted := noted step submitted first
    let closed := noted step closes first actions
    let segments := closed ++ writer.current.toList.map Holder.segment
    writer.outlet.wire = Segment.stream segments ∧
    (∀ segment ∈ segments, segment.Begins sender) ∧
    (segments.map Segment.message).Subperm (submitted actions) ∧
    (∀ earlier later, actions = earlier ++ later →
      (first.run earlier).outlet.activity.active = false →
        (segments.map Segment.message).Subperm (submitted earlier)) ∧
    ((writer.outlet.receipts ++ writer.untold).filterMap Receipt.written?).Perm
      ((closed.filter (·.Whole)).map Segment.message) ∧
    (∀ segment ∈ closed, ¬ segment.Whole →
      writer.halted = true ∨ writer.Fails segment.message) ∧
    ((∀ segment ∈ segments.dropLast, segment.Whole) →
      sender.InStep (submitted actions) writer.outlet.wire) ∧
    (writer.outlet.activity.active = true → writer.halted = false →
      (∀ errand ∈ writer.errands, ∃ message, errand = .tell (.written message)) →
        sender.InStep (submitted actions) writer.outlet.wire) := by
  intro first writer submitted closed segments
  have laid : Laid sender closed writer := (laid_new sender hooked).run actions
  have admits : (segments.map Segment.message).Subperm
      (noted step admitted first actions) :=
    subperm_admitted first actions rfl
  have distinct : (segments.map Segment.message).Subperm
      (submitted actions) :=
    admits.trans (noted_sublist admitted_sublist first actions).subperm
  have begins : ∀ segment ∈ segments, segment.Begins sender := by
    intro segment member
    rcases List.mem_append.mp member with earlier | now
    · exact laid.begins segment earlier
    · obtain ⟨holder, current, rfl⟩ := List.mem_map.mp now
      exact (laid.current holder (Option.mem_toList.mp current)).begins
  have inStep : (∀ segment ∈ segments.dropLast, segment.Whole) →
      sender.InStep (submitted actions) writer.outlet.wire := by
    intro whole
    rw [laid.wire]
    exact inStep_of_whole begins distinct whole
  refine ⟨laid.wire, begins, distinct, ?_, laid.told, laid.cut, inStep, ?_⟩
  · intro earlier later parts inactive
    have nothing := admitted_eq_nil_of_inactive _ later inactive
    rw [parts, noted_append] at admits
    have before : (noted step admitted first earlier).Sublist
        (submitted earlier) :=
      noted_sublist admitted_sublist first earlier
    refine admits.trans ?_
    change (noted step admitted first earlier ++
      noted step admitted (first.run earlier) later).Subperm _
    rw [nothing, List.append_nil]
    exact before.subperm
  · intro active running successes
    apply inStep
    intro segment member
    by_contra short
    have among : segment ∈ closed := by
      cases current : writer.current with
      | none =>
          have all : segments = closed := by simp [segments, current]
          rw [all] at member
          exact List.dropLast_subset _ member
      | some holder =>
          have all : segments = closed ++ [holder.segment] := by
            simp [segments, current]
          rwa [all, List.dropLast_concat] at member
    rcases laid.cut segment among short with stops | fails
    · rw [running] at stops
      cases stops
    · exact not_fails active successes segment.message fails

/-- Two tasks wait for the socket.  The write of the first fails after three bytes,
and the second writes its frame behind them, before the first has told of its
failure. -/
theorem writes_in_segments_of_two :
    let sender : Sender (List UInt8) := ⟨.ok, 8, ⟨.v4 .localhost, 9000⟩⟩
    let cause := IoError.ofKind .outOfMemory
    let begun : List (Action (List UInt8)) :=
      [.offer [1], .offer [2], .start 0, .start 0, .acquire 0,
        .write (.taken 3)]
    let behind := begun ++ [.write (.failed cause), .release, .acquire 0,
      .write (.taken 9)]
    let marked := behind ++ [.release, .tell 1, .tell 0, .mark 0]
    let actions := marked ++ [.offer [3]]
    sender.InStep (noted step submitted (new sender false) begun)
      ((new sender false).run begun).outlet.wire ∧
    ((new sender false).run behind).outlet.activity.active = true ∧
    ((new sender false).run behind).outlet.receipts = [] ∧
    ((new sender false).run behind).outlet.wire = [0, 0, 0, 0, 0, 0, 1, 2] ∧
    ((new sender false).run marked).outlet.activity.active = false ∧
    ((new sender false).run actions).outlet.wire = Segment.stream
      (noted step closes (new sender false) actions) ∧
    ((noted step closes (new sender false) actions).map
      Segment.message).Subperm (noted step submitted (new sender false) marked) ∧
    ((new sender false).run actions).Fails [1] := by
  intro sender cause begun behind marked actions
  have inactive : ((new sender false).run marked).outlet.activity.active =
      false := by
    decide +kernel
  obtain ⟨wire, -, -, late, -, cut, -, -⟩ := writes_in_segments sender false actions
  obtain ⟨-, -, -, -, -, -, -, whole⟩ := writes_in_segments sender false begun
  have nobody : ((new sender false).run actions).current = none := by
    decide +kernel
  simp only [nobody, Option.toList_none, List.map_nil, List.append_nil] at wire late
  have short : ⟨⟨[1], [0, 0, 0, 1, 1]⟩, [0, 0, 0]⟩ ∈
      noted step closes (new sender false) actions := by
    decide +kernel
  have running : ((new sender false).run actions).halted ≠ true := by
    decide +kernel
  refine ⟨whole ?_ ?_ ?_, ?_, ?_, ?_, inactive, wire, late marked _ rfl inactive,
    (cut _ short (by decide)).resolve_left running⟩
  · decide +kernel
  · decide +kernel
  · intro errand member
    have none : ((new sender false).run begun).errands = [] := by
      decide +kernel
    rw [none] at member
    cases member
  · decide +kernel
  · decide +kernel
  · decide +kernel

/-- A frame may stand behind one that was cut short. -/
theorem writes_behind_cut_frame :
    ¬ ∀ (sender : Sender (List UInt8)) (hooked : Bool)
      (actions : List (Action (List UInt8))),
        sender.InStep (noted step submitted (new sender hooked) actions)
          ((new sender hooked).run actions).outlet.wire := by
  intro always
  let sender : Sender (List UInt8) := ⟨.ok, 8, ⟨.v4 .localhost, 9000⟩⟩
  obtain ⟨done, cut, taken, few, distinct, prepared, wire, begins⟩ :=
    always sender false
      [.offer [1], .offer [2], .start 0, .start 0, .acquire 0,
        .write (.taken 3), .write (.failed (IoError.ofKind .outOfMemory)),
        .release, .acquire 0, .write (.taken 9)]
  have frames : ∀ outbound ∈ done ++ cut,
      ∃ byte, outbound.frame = [0, 0, 0, 1, byte] := by
    intro outbound member
    have prepares := prepared outbound member
    have among : outbound.message ∈ [[1], [2]] :=
      distinct.subset (List.mem_map_of_mem member)
    rcases List.mem_cons.mp among with first | second
    · rw [first] at prepares
      obtain rfl := Except.ok.inj prepares
      exact ⟨1, rfl⟩
    · rw [List.mem_singleton.mp second] at prepares
      obtain rfl := Except.ok.inj prepares
      exact ⟨2, rfl⟩
  replace wire : [0, 0, 0, 0, 0, 0, 1, 2] = Outbound.stream done ++ taken := by
    rw [← wire]
    decide +kernel
  cases done with
  | nil =>
      have short : taken.length ≤ 5 := by
        refine Nat.le_trans begins.length_le ?_
        match cut, few with
        | [], _ => simp [Outbound.stream]
        | [only], _ =>
            obtain ⟨byte, frame⟩ := frames only (by simp)
            simp [frame]
      rw [← show [0, 0, 0, 0, 0, 0, 1, 2] = taken from wire] at short
      simp at short
  | cons outbound others =>
      obtain ⟨byte, frame⟩ := frames outbound (by simp)
      simp [Outbound.stream, frame] at wire

end UnorderedWriter

end RemoteMessaging
