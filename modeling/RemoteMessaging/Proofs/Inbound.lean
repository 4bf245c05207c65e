import Mathlib.Data.List.Forall2
import RemoteMessaging.Manager.Inbound
import RemoteMessaging.Proofs.Connection
import RemoteMessaging.Proofs.Utf8

/-!
# A bad message takes down no channel

The read loop of a manager gets on with the next frame whatever the codec says to a
payload.  Each payload is seen once, in order, and answered once: by an error if it
cannot be decoded, or else by its message.
-/

namespace RemoteMessaging

variable {μ η : Type}

/-- What may become of a payload that arrives on a channel. -/
def Manager.Answers (manager : Manager μ η) (channel : Channel)
    (payload : List UInt8) : Dispatch μ η → Prop
  | .error handler error => handler = manager.errorHandler ∧
      ∃ cause, manager.codec.decode payload = .error cause ∧
        error = undecodable channel.remoteAddress cause
  | .message _ message =>
      manager.codec.decode payload = .ok message.message ∧
        message.role = channel.role ∧
        message.remoteAddress = channel.remoteAddress
  | .dropped => ∃ message, manager.codec.decode payload = .ok message

theorem Manager.answers_dispatch (manager : Manager μ η) (channel : Channel)
    (payload : List UInt8) :
    manager.Answers channel payload (manager.dispatch (channel.event payload)) := by
  unfold dispatch
  cases decoded : manager.codec.decode payload with
  | error cause => simp [Channel.event, decoded, Answers]
  | ok message => cases manager.messageHandler <;>
      simp [Channel.event, decoded, Answers]

def Manager.answer (manager : Manager μ η) (channel : Channel) (handler : η)
    (payload : List UInt8) : Dispatch μ η :=
  match manager.codec.decode payload with
  | .ok message =>
      .message handler ⟨channel.role, channel.remoteAddress, message⟩
  | .error error =>
      .error manager.errorHandler (undecodable channel.remoteAddress error)

theorem Manager.dispatch_of_handler {manager installed : Manager μ η}
    {handler : η} (codec : installed.codec = manager.codec)
    (errors : installed.errorHandler = manager.errorHandler)
    (handles : installed.messageHandler = some handler) (channel : Channel)
    (payload : List UInt8) :
    installed.dispatch (channel.event payload) =
      manager.answer channel handler payload := by
  simp only [dispatch, answer, Channel.event, codec, errors, handles]
  cases manager.codec.decode payload <;> rfl

theorem Manager.answers_of_encoded {manager : Manager String η}
    {sender : Sender String} (text : manager.codec = Codec.text)
    (encodes : sender.encode = Codec.text.encode) (channel : Channel)
    (handler : η) (outbounds : List (Outbound String))
    (payloads : List (List UInt8))
    (encoded : outbounds.map (fun outbound => sender.encode outbound.message) =
      payloads.map .ok) :
    payloads.map (manager.answer channel handler) =
      outbounds.map fun outbound => .message handler
        ⟨channel.role, channel.remoteAddress, outbound.message⟩ := by
  induction outbounds generalizing payloads with
  | nil => rw [List.map_eq_nil_iff.mp encoded.symm, List.map_nil, List.map_nil]
  | cons outbound outbounds induction =>
      cases payloads with
      | nil => simp at encoded
      | cons payload payloads =>
          obtain ⟨here, later⟩ := List.cons.inj encoded
          rw [encodes] at here
          rw [List.map_cons, List.map_cons, induction payloads later, answer, text,
            Codec.decode_text_encode here]

namespace Inbound

def Action.isRead : Action η → Bool
  | .read => true
  | _ => false

def reads (actions : List (Action η)) : Nat :=
  actions.countP Action.isRead

theorem reads_append (first second : List (Action η)) :
    reads (first ++ second) = reads first + reads second :=
  List.countP_append

variable {inbound : Inbound μ η}

/-! ## Steps -/

/-- What may come of a step. -/
inductive Steps (inbound : Inbound μ η) : Action η → Inbound μ η → Prop where
  | idle {action : Action η} (taken : action = .read ∨ action = .leave)
      (stays : action = .leave → inbound.ended = true) :
      Steps inbound action inbound
  | passed {payload : List UInt8} (rest : Source)
      (running : inbound.ended = false) :
      Steps inbound .read ({ inbound with source := rest }.pass payload)
  | failed (rest : Source) (error : Error) (running : inbound.ended = false) :
      Steps inbound .read ({ inbound with source := rest }.report error).finish
  | finished (rest : Source) (running : inbound.ended = false) :
      Steps inbound .read { inbound with source := rest }.finish
  | left (running : inbound.ended = false) :
      Steps inbound .leave inbound.finish
  | registered (handler : η) : Steps inbound (.register handler)
      { inbound with manager := inbound.manager.registerHandler handler }
  | deactivated : Steps inbound .deactivate
      { inbound with context := inbound.context.markInactive }

theorem steps_step (inbound : Inbound μ η) (action : Action η) :
    Steps inbound action (inbound.step action) := by
  cases action with
  | read =>
      rw [step, read]
      split
      · exact .idle (.inl rfl) (by simp)
      · rename_i running
        replace running := Bool.eq_false_iff.mpr running
        simp only
        split
        · exact .passed _ running
        · exact .failed _ _ running
        · exact .finished _ running
        · exact .idle (.inl rfl) (by simp)
  | leave =>
      rw [step]
      cases ended : inbound.ended with
      | true => exact .idle (.inr rfl) fun _ => ended
      | false => exact .left ended
  | register handler => exact .registered handler
  | deactivate => exact .deactivated

/-- What a step does to the manager, the channel, and what was seen. -/
structure Logs (inbound next : Inbound μ η) (now : List (List UInt8)) :
    Prop where
  codec : next.manager.codec = inbound.manager.codec
  errorHandler : next.manager.errorHandler = inbound.manager.errorHandler
  channel : next.context.channel = inbound.context.channel
  seen : next.seen = inbound.seen ++ now
  dispatched : next.dispatched = inbound.dispatched ++
    now.map fun payload =>
      inbound.manager.dispatch (inbound.context.channel.event payload)

theorem Steps.logs {next : Inbound μ η} {action : Action η}
    (steps : Steps inbound action next) : ∃ now, Logs inbound next now := by
  cases steps with
  | passed rest running => exact ⟨[_], rfl, rfl, rfl, rfl, rfl⟩
  | _ =>
      exact ⟨[], rfl, rfl, rfl, (List.append_nil _).symm,
        (List.append_nil _).symm⟩

/-! ## Answers -/

/-- Each payload that the codec of the manager has seen has been answered. -/
structure Answered (manager : Manager μ η) (channel : Channel)
    (inbound : Inbound μ η) : Prop where
  codec : inbound.manager.codec = manager.codec
  errorHandler : inbound.manager.errorHandler = manager.errorHandler
  place : inbound.context.channel = channel
  each : List.Forall₂ (manager.Answers channel) inbound.seen inbound.dispatched

theorem Answered.logs {manager : Manager μ η} {channel : Channel}
    {next : Inbound μ η} {now : List (List UInt8)}
    (answered : Answered manager channel inbound)
    (logs : Logs inbound next now) : Answered manager channel next := by
  have same : ∀ payload, inbound.manager.Answers channel payload =
      manager.Answers channel payload := by
    intro payload
    funext dispatch
    cases dispatch <;>
      simp only [Manager.Answers, answered.codec, answered.errorHandler]
  refine ⟨logs.codec.trans answered.codec,
    logs.errorHandler.trans answered.errorHandler,
    logs.channel.trans answered.place, ?_⟩
  rw [logs.seen, logs.dispatched, answered.place]
  refine List.rel_append answered.each ?_
  refine List.forall₂_map_right_iff.mpr (List.forall₂_same.mpr ?_)
  intro payload _
  rw [← same]
  exact inbound.manager.answers_dispatch channel payload

theorem Answered.run {manager : Manager μ η} {channel : Channel}
    (answered : Answered manager channel inbound) (actions : List (Action η)) :
    Answered manager channel (inbound.run actions) := by
  induction actions generalizing inbound with
  | nil => exact answered
  | cons action actions induction =>
      obtain ⟨now, logs⟩ := (steps_step inbound action).logs
      exact induction (answered.logs logs)

theorem logs_of_unregistered (inbound : Inbound μ η)
    (actions : List (Action η)) (same : ∀ handler, .register handler ∉ actions) :
    ∃ more, Logs inbound (inbound.run actions) more := by
  induction actions generalizing inbound with
  | nil =>
      exact ⟨[], rfl, rfl, rfl, (List.append_nil _).symm,
        (List.append_nil _).symm⟩
  | cons action actions induction =>
      obtain ⟨now, here⟩ := (steps_step inbound action).logs
      obtain ⟨more, later⟩ := induction (inbound.step action)
        fun handler member => same handler (List.mem_cons_of_mem _ member)
      have manager : (inbound.step action).manager = inbound.manager := by
        have steps := steps_step inbound action
        generalize inbound.step action = next at steps ⊢
        cases steps with
        | registered handler => exact (same handler List.mem_cons_self).elim
        | _ => rfl
      refine ⟨now ++ more, later.codec.trans here.codec,
        later.errorHandler.trans here.errorHandler,
        later.channel.trans here.channel, ?_, ?_⟩
      · exact later.seen.trans (by rw [here.seen, List.append_assoc])
      · refine later.dispatched.trans ?_
        rw [here.dispatched, here.channel, manager, List.map_append,
          List.append_assoc]

/-! ## The end -/

theorem active_run (inbound : Inbound μ η) (actions : List (Action η))
    (alone : .deactivate ∉ actions)
    (active : inbound.context.activity.active = !inbound.ended) :
    (inbound.run actions).context.activity.active =
      !(inbound.run actions).ended := by
  induction actions generalizing inbound with
  | nil => exact active
  | cons action actions induction =>
      refine induction _ (fun member => alone (List.mem_cons_of_mem _ member)) ?_
      have steps := steps_step inbound action
      generalize inbound.step action = next at steps ⊢
      cases steps with
      | idle taken stays => exact active
      | passed rest running => exact active
      | failed rest error running => exact Activity.active_markInactive _
      | finished rest running => exact Activity.active_markInactive _
      | left running => exact Activity.active_markInactive _
      | registered handler => exact active
      | deactivated => exact (alone List.mem_cons_self).elim

theorem run_of_ended (inbound : Inbound μ η) (actions : List (Action η))
    (ended : inbound.ended = true) :
    (inbound.run actions).seen = inbound.seen ∧
      (inbound.run actions).reported = inbound.reported ∧
      (inbound.run actions).ended = true ∧
      (inbound.run actions).context.channel = inbound.context.channel := by
  induction actions generalizing inbound with
  | nil => exact ⟨rfl, rfl, ended, rfl⟩
  | cons action actions induction =>
      have steps := steps_step inbound action
      have later := induction (inbound.step action)
      simp only [run, List.foldl_cons] at later ⊢
      generalize inbound.step action = next at steps later
      cases steps with
      | passed rest running => simp [ended] at running
      | failed rest error running => simp [ended] at running
      | finished rest running => simp [ended] at running
      | left running => simp [ended] at running
      | _ => exact later ended

/-! ## Streams -/

/-- The read loop is at work on a plain stream of frames within the limit, which is
closed afterwards. -/
structure Awaits (inbound : Inbound μ η) (payloads : List (List UInt8)) :
    Prop where
  running : inbound.ended = false
  plain : inbound.source.Plain
  closed : inbound.source.ending = .closed
  content : inbound.source.content = Frame.frames payloads
  each : ∀ payload ∈ payloads, Frame.Sendable payload ∧
    payload.length ≤ inbound.context.channel.maxFrameLength

theorem read_of_cons {payload : List UInt8} {payloads : List (List UInt8)}
    (awaits : inbound.Awaits (payload :: payloads)) :
    ∃ rest, inbound.read = { inbound with source := rest }.pass payload ∧
      inbound.read.Awaits payloads := by
  obtain ⟨sendable, within⟩ := awaits.each payload List.mem_cons_self
  obtain ⟨rest, plain, ending, content, received⟩ :=
    Frame.read_of_frame awaits.plain awaits.content sendable within
  have passes : inbound.read = { inbound with source := rest }.pass payload := by
    simp only [read, awaits.running, received, Bool.false_eq_true, if_false]
  refine ⟨rest, passes, ?_⟩
  rw [passes]
  exact ⟨awaits.running, plain, ending.trans awaits.closed, content,
    fun other member => awaits.each other (List.mem_cons_of_mem _ member)⟩

theorem read_of_nil (awaits : inbound.Awaits []) :
    inbound.read = { inbound with source := ⟨[], .closed⟩ }.finish := by
  have received := Frame.read_of_empty inbound.context.channel.maxFrameLength
    awaits.plain awaits.content awaits.closed
  simp only [read, awaits.running, received, Bool.false_eq_true, if_false]

/-- The read loop reads to the end of the stream, whatever the codec says. -/
theorem Awaits.run {payloads : List (List UInt8)}
    (awaits : inbound.Awaits payloads) (actions : List (Action η))
    (stays : .leave ∉ actions) :
    (inbound.run actions).seen =
        inbound.seen ++ payloads.take (reads actions) ∧
      (inbound.run actions).reported = inbound.reported ∧
      ((inbound.run actions).ended = true ↔
        payloads.length < reads actions) := by
  induction actions generalizing inbound payloads with
  | nil => simp [Inbound.run, reads, awaits.running]
  | cons action actions induction =>
      have later : .leave ∉ actions :=
        fun member => stays (List.mem_cons_of_mem _ member)
      cases action with
      | leave => exact (stays List.mem_cons_self).elim
      | register handler =>
          have next : (inbound.step (.register handler)).Awaits payloads :=
            { awaits with }
          exact induction next later
      | deactivate =>
          have next : (inbound.step .deactivate).Awaits payloads :=
            { awaits with }
          exact induction next later
      | read =>
          have count : reads (.read :: actions) = reads actions + 1 :=
            List.countP_cons_of_pos rfl
          rw [count]
          cases payloads with
          | nil =>
              have last : (inbound.step .read).ended = true := by
                rw [step, read_of_nil awaits]
                rfl
              obtain ⟨seen, reported, ended, -⟩ :=
                run_of_ended (inbound.step .read) actions last
              have kept : (inbound.step .read).seen = inbound.seen ∧
                  (inbound.step .read).reported = inbound.reported := by
                rw [step, read_of_nil awaits]
                exact ⟨rfl, rfl⟩
              refine ⟨?_, reported.trans kept.2, ?_⟩
              · rw [List.take_nil, List.append_nil]
                exact seen.trans kept.1
              · exact iff_of_true ended (Nat.succ_pos _)
          | cons payload payloads =>
              obtain ⟨rest, passes, next⟩ := read_of_cons awaits
              obtain ⟨seen, reported, ended⟩ := induction next later
              have kept : inbound.read.seen = inbound.seen ++ [payload] ∧
                  inbound.read.reported = inbound.reported := by
                rw [passes]
                exact ⟨rfl, rfl⟩
              refine ⟨?_, reported.trans kept.2, ?_⟩
              · rw [List.take_succ_cons, List.append_cons, ← kept.1]
                exact seen
              · exact ended.trans Nat.succ_lt_succ_iff.symm

/-! ## The read loop -/

/-- What others get to know of the channel. -/
def deliveries (inbound : Inbound μ η) : List (Delivery η) :=
  inbound.seen.map (fun payload =>
    .event (inbound.context.channel.event payload)) ++
      inbound.reported.map .report

theorem deliveries_of_ended (inbound : Inbound μ η)
    (actions : List (Action η)) (ended : inbound.ended = true) :
    (inbound.run actions).deliveries = inbound.deliveries := by
  obtain ⟨seen, reported, -, channel⟩ := run_of_ended inbound actions ended
  simp only [deliveries, seen, reported, channel]

/-- Alone, the read loop delivers step by step what it delivers as a whole. -/
theorem deliveries_of_reads (inbound : Inbound μ η) (count : Nat)
    (running : inbound.ended = false) (silent : inbound.reported = []) :
    (inbound.run (List.replicate count .read)).deliveries =
      inbound.deliveries ++ (inbound.context.channel.receive (some count)
        inbound.source).map inbound.context.deliver := by
  induction count generalizing inbound with
  | zero =>
      rw [Channel.receive, if_pos rfl, List.map_nil, List.append_nil]
      rfl
  | succ count induction =>
      have patient : some (count + 1) ≠ some 0 := by simp
      have goes : inbound.run (List.replicate (count + 1) .read) =
          inbound.read.run (List.replicate count .read) := rfl
      rw [goes]
      cases received : Frame.read inbound.context.channel.maxFrameLength
          inbound.source with
      | mk outcome rest =>
          cases outcome with
          | payload payload =>
              have passes : inbound.read =
                  { inbound with source := rest }.pass payload := by
                simp only [read, running, received, Bool.false_eq_true, if_false]
              have later := induction ({ inbound with source := rest }.pass
                payload) running silent
              rw [passes, later, Channel.receive_of_payload patient received]
              simp [deliveries, pass, silent, ChannelContext.deliver,
                Channel.notice]
          | failed error =>
              have ends : inbound.read = ({ inbound with source := rest }.report
                  (Operation.read.channelError
                    inbound.context.channel.remoteAddress error)).finish := by
                simp only [read, running, received, Bool.false_eq_true, if_false]
              rw [ends, deliveries_of_ended _ _ rfl,
                Channel.receive_of_failed patient received]
              simp [deliveries, report, finish, silent, ChannelContext.deliver,
                ChannelContext.report, ChannelContext.markInactive]
          | finished =>
              have ends : inbound.read =
                  { inbound with source := rest }.finish := by
                simp only [read, running, received, Bool.false_eq_true, if_false]
              rw [ends, deliveries_of_ended _ _ rfl,
                Channel.receive_of_nothing _ received (.inl rfl), List.map_nil,
                List.append_nil]
              rfl
          | waiting =>
              have stays : inbound.read = inbound := by
                simp only [read, running, received, Bool.false_eq_true, if_false]
              rw [stays, induction inbound running silent,
                Channel.receive_of_nothing _ received (.inr rfl),
                Channel.receive_of_nothing _ received (.inr rfl)]

theorem deliveries_of_readLoop (manager : Manager μ η)
    (context : ChannelContext η) (source : Source) (count : Nat) :
    ((start manager context source).run
        (List.replicate count .read)).deliveries =
      (context.readLoop (some count) source).1 :=
  deliveries_of_reads (start manager context source) count rfl rfl

/-! ## Everything together -/

theorem answered_start (manager : Manager μ η) (context : ChannelContext η)
    (source : Source) :
    Answered manager context.channel (start manager context source) :=
  ⟨rfl, rfl, rfl, .nil⟩

/-- What arrives after a handler was installed goes to that handler. -/
theorem dispatched_after_register {manager : Manager μ η}
    {context : ChannelContext η} {source : Source}
    {payloads : List (List UInt8)}
    (awaits : (start manager context source).Awaits payloads)
    (before : List (Action η)) (handler : η) (after : List (Action η))
    (stays : .leave ∉ before ++ .register handler :: after)
    (last : ∀ other, .register other ∉ after) :
    ((start manager context source).run
        (before ++ .register handler :: after)).dispatched =
      ((start manager context source).run before).dispatched ++
        ((payloads.drop (reads before)).take (reads after)).map
          (manager.answer context.channel handler) := by
  have whole := (awaits.run _ stays).1
  have early := (awaits.run before fun member =>
    stays (List.mem_append_left _ member)).1
  have answered := (answered_start manager context source).run before
  generalize ended : (start manager context source).run before = middle
    at early answered
  obtain ⟨more, logs⟩ :=
    logs_of_unregistered (middle.step (.register handler)) after last
  have parts : (start manager context source).run
      (before ++ .register handler :: after) =
        (middle.step (.register handler)).run after := by
    rw [run, List.foldl_append, ← ended]
    rfl
  have arrived : more = (payloads.drop (reads before)).take (reads after) := by
    have count : reads (before ++ .register handler :: after) =
        reads before + reads after := reads_append before _
    rw [parts, logs.seen, count, List.take_add, ← List.append_assoc] at whole
    rw [← early] at whole
    exact List.append_cancel_left whole
  have each : ∀ payload, (middle.step (.register handler)).manager.dispatch
      ((middle.step (.register handler)).context.channel.event payload) =
        manager.answer context.channel handler payload := by
    intro payload
    have place : (middle.step (.register handler)).context.channel =
        context.channel := answered.place
    have codec : (middle.step (.register handler)).manager.codec =
        manager.codec := answered.codec
    have errors : (middle.step (.register handler)).manager.errorHandler =
        manager.errorHandler := answered.errorHandler
    rw [place]
    exact Manager.dispatch_of_handler codec errors rfl context.channel payload
  rw [parts, logs.dispatched, arrived]
  simp only [each]
  rfl

end Inbound

end RemoteMessaging
