import RemoteMessaging.Proofs.Segments

/-!
# All messages of an unordered link arrive

As long as no write fails and the threads run, each task that gets the socket puts
its whole frame on the wire and tells its sender so.  When all tasks are over, the
wire holds the frames of all messages that found the link active, in the order in
which their tasks got the socket, and the peer gets their payloads in this order.
-/

namespace RemoteMessaging.UnorderedWriter

variable {μ : Type} {writer : UnorderedWriter μ} {action : Action μ}

/-- An action that neither stops the threads nor makes a write fail. -/
structure Action.Smooth (action : Action μ) : Prop where
  running : action ≠ .halt
  flawless : ∀ answer, action = .write answer → answer.error? = none

/-- The threads run, and no write has failed that somebody is yet to tell of. -/
structure Smooth (writer : UnorderedWriter μ) : Prop where
  running : writer.halted = false
  flawless : ∀ holder error writing, writer.current = some holder →
    holder ≠ .failed writing error
  successes : ∀ errand ∈ writer.errands, ∃ message, errand = .tell (.written message)

theorem smooth_new (sender : Sender μ) (hooked : Bool) :
    (new sender hooked).Smooth := by
  refine ⟨rfl, fun holder error writing held => ?_, fun errand member => ?_⟩
  · cases held
  · cases member

theorem ne_broken_of_flawless {writing : Writing μ} {answer : WriteAnswer}
    (flawless : answer.error? = none) (error : IoError) :
    writing.write answer ≠ .broken error := by
  simp only [Writing.write, flawless]
  split <;> simp

theorem advance_ne_failed {writing other : Writing μ} {answer : WriteAnswer}
    {error : IoError} (flawless : answer.error? = none) :
    writing.advance answer ≠ .failed other error := by
  unfold Writing.advance
  split
  · nofun
  · nofun
  · rename_i writes
    exact (ne_broken_of_flawless flawless _ writes).elim

theorem owes_of_flawless {sender : Sender μ} {holder : Holder μ}
    {receipt : Receipt μ} (owes : holder.receipt? sender = some receipt)
    (flawless : ∀ error writing, holder ≠ .failed writing error) :
    receipt = .written holder.segment.message ∧ holder.segment.Whole := by
  cases holder with
  | busy writing => cases owes
  | written outbound =>
      obtain rfl := Option.some.inj owes
      exact ⟨rfl, rfl⟩
  | failed writing error => exact (flawless error writing rfl).elim

namespace Steps

variable {next : UnorderedWriter μ}

theorem smooth (steps : Steps writer action next) (now : writer.Smooth)
    (smooth : action.Smooth) : next.Smooth := by
  refine ⟨(steps.halted_eq smooth.running).trans now.running, ?_, ?_⟩
  · cases steps with
    | acquired free found =>
        rintro _ error writing ⟨⟩
        nofun
    | wrote current =>
        rintro _ error writing ⟨⟩
        exact advance_ne_failed (smooth.flawless _ rfl)
    | released | cut => rintro holder error writing ⟨⟩
    | _ => exact now.flawless
  · intro errand member
    cases steps with
    | released current owes =>
        rcases List.mem_append.mp member with earlier | last
        · exact now.successes errand earlier
        · obtain rfl := List.mem_singleton.mp last
          obtain ⟨rfl, -⟩ := owes_of_flawless owes
            fun error writing => now.flawless _ error writing current
          exact ⟨_, rfl⟩
    | told found =>
        obtain ⟨message, same⟩ := now.successes _ (List.mem_of_getElem? found)
        obtain rfl := Errand.tell.inj same
        rw [Receipt.errands, List.append_nil] at member
        exact now.successes errand (List.mem_of_mem_eraseIdx member)
    | marked found =>
        exact now.successes errand (List.mem_of_mem_eraseIdx member)
    | _ => exact now.successes errand member

theorem gives_of_smooth (steps : Steps writer action next) (now : writer.Smooth) :
    (∀ segment ∈ gives writer.current next.current, segment.Whole) ∧
      writer.owes action = (gives writer.current next.current).map
        fun segment => .written segment.message := by
  cases steps with
  | acquired free found => simp [gives, owes]
  | wrote current => simp [gives, owes]
  | released current owes =>
      obtain ⟨rfl, whole⟩ := owes_of_flawless owes
        fun error writing => now.flawless _ error writing current
      simp [gives, UnorderedWriter.owes, owing?, current, owes, whole]
  | cut halted =>
      rw [now.running] at halted
      cases halted
  | idle nobody kept quiet =>
      rw [gives_self, quiet]
      simp
  | _ =>
      rw [gives_self]
      simp [owes]

end Steps

theorem lost_of_smooth (now : writer.Smooth) (action : Action μ) :
    writer.lost action = [] := by
  simp [lost, now.running]

theorem smooth_step (now : writer.Smooth) (smooth : action.Smooth) :
    (writer.step action).Smooth :=
  (steps_step writer action).smooth now smooth

section Runs

variable {actions : List (Action μ)} (now : writer.Smooth)
  (smooth : ∀ action ∈ actions, action.Smooth)

include now smooth

theorem whole_of_smooth :
    ∀ segment ∈ noted step closes writer actions, segment.Whole :=
  forall_noted Smooth Action.Smooth
    (fun writer action now _ => ((steps_step writer action).gives_of_smooth now).1)
    (fun _ _ => smooth_step) writer actions now smooth

theorem owes_of_smooth :
    noted step owes writer actions =
      (noted step closes writer actions).map
        fun segment => .written segment.message := by
  rw [← noted_map]
  exact noted_congr Smooth Action.Smooth
    (fun writer action now _ => ((steps_step writer action).gives_of_smooth now).2)
    (fun _ _ => smooth_step) writer actions now smooth

/-- A message whose sender has found the link active has the socket once. -/
theorem perm_closed (idle : writer.ahead = [])
    (quiet : (writer.run actions).Quiet) :
    ((noted step closes writer actions).map Segment.message).Perm
      (noted step admitted writer actions) := by
  have balance := perm_of_balance ahead
    (fun writer action => (steps_step writer action).perm_ahead) writer actions
  have parts := perm_noted_append step
    (fun writer action => (owes writer action).map Receipt.message)
    lost writer actions
  have kept : noted step lost writer actions = [] :=
    noted_eq_nil Smooth Action.Smooth (fun _ action now => lost_of_smooth now action)
      (fun _ _ => smooth_step) writer actions now smooth
  have settled : (actions.foldl step writer).ahead = [] :=
    (List.append_eq_nil_iff.mp (pending_of_quiet quiet)).1
  rw [noted_map, kept, List.append_nil, owes_of_smooth now smooth,
    List.map_map] at parts
  rw [settled, idle, List.nil_append, List.nil_append] at balance
  exact parts.symm.trans balance

/-- Each task tells once that its message is written. -/
theorem perm_receipts (idle : writer.untold = [])
    (quiet : (writer.run actions).Quiet) :
    (writer.run actions).outlet.receipts.Perm
      (writer.outlet.receipts ++ (noted step refused writer actions ++
        (noted step closes writer actions).map fun segment =>
          .written segment.message)) := by
  have log : (writer.run actions).outlet.receipts =
      writer.outlet.receipts ++ noted step
        (fun writer action => refused writer action ++ tells writer action)
          writer actions :=
    noted_of_log (·.outlet.receipts)
      (fun writer action => (steps_step writer action).receipts) writer actions
  have balance := perm_of_balance untold
    (fun writer action => (steps_step writer action).perm_untold) writer actions
  have settled : (actions.foldl step writer).untold = [] :=
    List.map_eq_nil_iff.mp (List.append_eq_nil_iff.mp (pending_of_quiet quiet)).2
  rw [settled, idle, List.nil_append, List.nil_append,
    owes_of_smooth now smooth] at balance
  rw [log]
  exact ((perm_noted_append step refused tells writer actions).trans
    (balance.append_left _)).append_left _

end Runs

/-- An action after which an active link is still active, and by which nobody hands
over a message that cannot be framed. -/
structure Action.Welcome (sender : Sender μ) (action : Action μ) : Prop
    extends action.Smooth where
  other : action ≠ .deactivate
  framed : ∀ message, action = .offer message →
    ∃ outbound, sender.prepare message = .ok outbound

theorem active_step (now : writer.Smooth) (other : action ≠ .deactivate)
    (active : writer.outlet.activity.active = true) :
    (writer.step action).outlet.activity.active = true := by
  have unmarked : .mark ∉ writer.errands := by
    intro marks
    obtain ⟨message, same⟩ := now.successes _ marks
    cases same
  exact ((steps_step writer action).active_eq other unmarked).trans active

theorem admitted_of_welcome {sender : Sender μ} (same : writer.sender = sender)
    (active : writer.outlet.activity.active = true)
    (welcome : action.Welcome sender) :
    writer.admitted action = writer.submitted action ∧
      writer.refused action = [] := by
  cases action with
  | offer message =>
      obtain ⟨outbound, prepared⟩ := welcome.framed message rfl
      have offers : writer.sender.offer writer.outlet.activity.active message =
          .ok outbound := by
        rw [same, active, Sender.offer, prepared]
        rfl
      simp [admitted, refused, submitted, offers]
  | _ => exact ⟨rfl, rfl⟩

theorem admitted_run_of_welcome {sender : Sender μ} {actions : List (Action μ)}
    (now : writer.Smooth) (same : writer.sender = sender)
    (active : writer.outlet.activity.active = true)
    (welcome : ∀ action ∈ actions, action.Welcome sender) :
    noted step admitted writer actions = noted step submitted writer actions ∧
      noted step refused writer actions = [] := by
  let lasts (writer : UnorderedWriter μ) :=
    writer.Smooth ∧ writer.sender = sender ∧ writer.outlet.activity.active = true
  have goesOn : ∀ (writer : UnorderedWriter μ) (action : Action μ),
      lasts writer → action.Welcome sender → lasts (writer.step action) := by
    rintro writer action ⟨now, same, active⟩ welcome
    exact ⟨smooth_step now welcome.toSmooth,
      (steps_step writer action).sender.trans same,
      active_step now welcome.other active⟩
  constructor
  · refine noted_congr lasts (·.Welcome sender) ?_ goesOn writer actions
      ⟨now, same, active⟩ welcome
    intro writer action lasts welcome
    exact (admitted_of_welcome lasts.2.1 lasts.2.2 welcome).1
  · have none : noted step refused writer actions =
        noted step (fun _ _ => []) writer actions := by
      refine noted_congr lasts (·.Welcome sender) ?_ goesOn writer actions
        ⟨now, same, active⟩ welcome
      intro writer action lasts welcome
      exact (admitted_of_welcome lasts.2.1 lasts.2.2 welcome).2
    rw [none]
    exact noted_eq_nil (fun _ => True) (fun _ => True) (fun _ _ _ => rfl)
      (fun _ _ _ _ => trivial) writer actions trivial (fun _ _ => trivial)

end RemoteMessaging.UnorderedWriter
