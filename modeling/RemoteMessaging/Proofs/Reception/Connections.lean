import Mathlib.Data.List.Basic
import RemoteMessaging.Transport.Reception

/-!
# One connection of many

What is to be done for a connection that was accepted follows from how its own calls
turn out.  Each of its steps does a part of that.
-/

namespace RemoteMessaging

def AcceptAction.channel? : AcceptAction → Option Channel
  | .report _ => none
  | .serve channel => some channel

/-- The system error, if it is reported that an operation has failed. -/
def AcceptAction.fault? (operation : Operation) : AcceptAction → Option IoError
  | .report (.io name cause) => if name = operation.name then some cause else none
  | _ => none

namespace Arrival

/-- A connection is received as it should be: a fault in configuring its socket is
reported once, and so is a fault in taking the socket over; if there is no such fault,
one channel is read, the one with its own addresses. -/
structure Received (arrival : Arrival) (maxFrameLength : Nat)
    (done : List AcceptAction) : Prop where
  configured : arrival.configure = .ok () →
    done.filterMap (·.fault? .configure) = []
  unconfigured : ∀ error, arrival.configure = .error error →
    done.filterMap (·.fault? .configure) = [error]
  taken : ∀ own, arrival.takeOver = .ok own →
    done.filterMap (·.fault? .accept) = [] ∧
      done.filterMap (·.channel?) =
        [⟨.server, own, arrival.remoteAddress, maxFrameLength⟩]
  lost : ∀ error, arrival.takeOver = .error error →
    done.filterMap (·.fault? .accept) = [error] ∧
      done.filterMap (·.channel?) = []

/-- What is done when it is known whether a connection could be taken over. -/
def opening (arrival : Arrival) (maxFrameLength : Nat) :
    Except IoError SocketAddress → List AcceptAction
  | .ok own => [.serve ⟨.server, own, arrival.remoteAddress, maxFrameLength⟩]
  | .error error => [.report (Operation.accept.failed error)]

theorem received_actions (arrival : Arrival) (maxFrameLength : Nat) :
    arrival.Received maxFrameLength (arrival.actions maxFrameLength) := by
  unfold actions
  constructor <;> intros <;> cases configured : arrival.configure <;>
    cases taken : arrival.takeOver <;>
    simp_all [AcceptAction.fault?, AcceptAction.channel?, Operation.failed,
      Operation.name]

end Arrival

def Accepted.failure? : Accepted → Option IoError
  | .failed error => some error
  | .connection _ => none

def Accepted.arrival? : Accepted → Option Arrival
  | .failed _ => none
  | .connection arrival => some arrival

namespace Visit

/-- What is still to be done for a connection before its channel is read. -/
def owed (visit : Visit) (maxFrameLength : Nat) : List AcceptAction :=
  let arrival := visit.peer.arrival
  match visit.stage with
  | .accepted => arrival.actions maxFrameLength
  | .configured => arrival.opening maxFrameLength arrival.takeOver
  | .handedOver | .dropped =>
      arrival.opening maxFrameLength do
        arrival.register
        arrival.localAddress
  | .registered => arrival.opening maxFrameLength arrival.localAddress
  | .reading .. | .ended => []

namespace Stage

/-- All is done for the connection, up to the beginning of its read loop. -/
def Settled : Stage → Prop
  | .reading .. | .ended => True
  | _ => False

/-- How far a connection has come. -/
def rank : Stage → Nat
  | .accepted => 0
  | .configured => 1
  | .handedOver => 2
  | .registered => 3
  | .reading .. | .ended | .dropped => 4

theorem rank_le (stage : Stage) : stage.rank ≤ 4 := by
  cases stage <;> simp [rank]

theorem settled_of_rank {stage : Stage} (far : 4 ≤ stage.rank)
    (kept : stage ≠ .dropped) : stage.Settled := by
  cases stage <;> simp_all [rank, Settled]

theorem rank_quit (stage : Stage) : stage.quit.rank = stage.rank := by
  cases stage <;> rfl

theorem quit_eq_dropped_iff (stage : Stage) :
    stage.quit = .dropped ↔ stage = .dropped := by
  cases stage <;> simp [quit]

theorem rank_halt (stage : Stage) : stage.rank ≤ stage.halt.rank := by
  cases stage <;> simp [halt, rank]

/-- The accept loop stands where it should for a connection at this stage. -/
def Agrees (stage : Stage) (loop : Reception.Loop) (position : Nat) : Prop :=
  match stage with
  | .accepted => loop = .configuring position
  | .configured => loop = .handingOver position
  | _ => loop.visit? ≠ some position

theorem agrees_of_far {stage : Stage} (far : 2 ≤ stage.rank)
    (loop : Reception.Loop) (position : Nat) :
    stage.Agrees loop position ↔ loop.visit? ≠ some position := by
  cases stage <;> simp_all [rank, Agrees]

theorem near_of_rank {stage : Stage} (near : ¬ 2 ≤ stage.rank) :
    stage = .accepted ∨ stage = .configured := by
  cases stage <;> simp_all [rank]

theorem busy_of_agrees {stage : Stage}
    (near : stage = .accepted ∨ stage = .configured) {loop : Reception.Loop}
    {position : Nat} (agrees : stage.Agrees loop position) :
    loop.visit? = some position := by
  rcases near with rfl | rfl <;>
    exact (congrArg Reception.Loop.visit? agrees).trans rfl

end Stage

theorem owed_quit (visit : Visit) (maxFrameLength : Nat) :
    owed { visit with stage := visit.stage.quit } maxFrameLength =
      visit.owed maxFrameLength := by
  obtain ⟨peer, stage⟩ := visit
  cases stage <;> rfl

theorem owed_halt (visit : Visit) (maxFrameLength : Nat) :
    owed { visit with stage := visit.stage.halt } maxFrameLength =
      visit.owed maxFrameLength := by
  obtain ⟨peer, stage⟩ := visit
  cases stage <;> rfl

theorem owed_of_settled {visit : Visit} (settled : visit.stage.Settled)
    (maxFrameLength : Nat) : visit.owed maxFrameLength = [] := by
  obtain ⟨peer, stage⟩ := visit
  cases stage <;> first | rfl | exact settled.elim

end Visit

namespace Reception

variable {η : Type}

namespace Note

def position? : Note η → Option Nat
  | .refused _ => none
  | .fault position _ => some position
  | .serve position _ => some position
  | .event position _ => some position
  | .broken position _ => some position

/-- What was done for a connection before its channel was read, or for an accept that
has failed. -/
def action? : Note η → Option AcceptAction
  | .refused report => some (.report report.error)
  | .fault _ report => some (.report report.error)
  | .serve _ channel => some (.serve channel)
  | .event .. => none
  | .broken .. => none

def refusal? : Note η → Option Error
  | .refused report => some report.error
  | _ => none

end Note

def concerning (reception : Reception η) (position : Nat) : List (Note η) :=
  reception.log.filter (·.position? = some position)

/-- What was done for a connection up to the beginning of its read loop. -/
def done (reception : Reception η) (position : Nat) : List AcceptAction :=
  (reception.concerning position).filterMap (·.action?)

def refusals (reception : Reception η) : List Error :=
  reception.log.filterMap (·.refusal?)

/-- The connections that were accepted. -/
def arrivals (reception : Reception η) : List Arrival :=
  reception.visits.map (·.peer.arrival)

/-- What a connection makes known: notes about itself, with its errors reported to the
handler of the moment. -/
inductive Tells (reception : Reception η) (position : Nat) : Note η → Prop where
  | fault (error : Error) :
      Tells reception position (.fault position (reception.sink.report error))
  | serve (channel : Channel) : Tells reception position (.serve position channel)
  | event (event : Event) : Tells reception position (.event position event)
  | broken (error : Error) :
      Tells reception position (.broken position (reception.sink.report error))

theorem tells_of_next {reception : Reception η} {position : Nat} {visit : Visit}
    {note : Note η} (told : note ∈ (reception.next position visit).1) :
    Tells reception position note := by
  obtain ⟨peer, stage⟩ := visit
  cases stage <;> simp only [next] at told <;>
    first
    | cases told
    | split at told <;>
        first
        | (obtain rfl := List.mem_singleton.mp told; constructor)
        | cases told

theorem Tells.position {reception : Reception η} {position : Nat} {note : Note η}
    (tells : Tells reception position note) : note.position? = some position := by
  cases tells <;> rfl

theorem reports_of_tells {reception : Reception η} {position : Nat}
    {notes : List (Note η)} (each : ∀ note ∈ notes, Tells reception position note) :
    ∃ errors : List Error, notes.filterMap (·.report?) =
      errors.map reception.sink.report := by
  induction notes with
  | nil => exact ⟨[], rfl⟩
  | cons note notes induction =>
      obtain ⟨first, others⟩ := List.forall_mem_cons.mp each
      obtain ⟨errors, same⟩ := induction others
      cases first with
      | fault error | broken error =>
          refine ⟨error :: errors, ?_⟩
          rw [List.map_cons, ← same]
          rfl
      | serve | event => exact ⟨errors, same⟩

theorem Tells.refusal {reception : Reception η} {position : Nat} {note : Note η}
    (tells : Tells reception position note) : note.refusal? = none := by
  cases tells <;> rfl

/-- What a step does for a connection was owed to it. -/
theorem owed_next (reception : Reception η) (position : Nat) (visit : Visit) :
    (reception.next position visit).1.filterMap (·.action?) ++
        Visit.owed { visit with stage := (reception.next position visit).2 }
          reception.maxFrameLength =
      visit.owed reception.maxFrameLength := by
  obtain ⟨peer, stage⟩ := visit
  cases stage with
  | accepted =>
      cases configured : peer.arrival.configure <;>
        cases taken : peer.arrival.takeOver <;>
          simp [next, configured, taken, Note.action?, Visit.owed,
            Arrival.actions, Arrival.opening]
  | configured =>
      cases handed : peer.arrival.handOver <;> cases halted : reception.halted <;>
        simp [next, handed, halted, Note.action?, Visit.owed, Arrival.takeOver,
          Arrival.opening] <;> rfl
  | handedOver =>
      cases registered : peer.arrival.register <;>
        simp [next, registered, Note.action?, Visit.owed, Arrival.opening] <;> rfl
  | registered =>
      cases asked : peer.arrival.localAddress <;>
        simp [next, asked, Note.action?, Visit.owed, Arrival.opening]
  | reading channel rest =>
      simp only [next]
      split <;> simp [Note.action?, Visit.owed]
  | ended => rfl
  | dropped => rfl

/-- A connection comes further with each step until its channel is read. -/
theorem rank_next (reception : Reception η) (position : Nat) (visit : Visit) :
    min 4 (visit.stage.rank + 1) ≤ (reception.next position visit).2.rank := by
  obtain ⟨peer, stage⟩ := visit
  cases stage <;> simp only [next] <;> (repeat' split) <;> simp [Visit.Stage.rank]

theorem halted_of_next {reception : Reception η} {position : Nat} {visit : Visit}
    (dropped : (reception.next position visit).2 = .dropped) :
    visit.stage = .dropped ∨ reception.halted = true := by
  obtain ⟨peer, stage⟩ := visit
  cases stage <;> simp only [next] at dropped <;> (repeat' split at dropped) <;>
    simp_all

theorem next_eq_configured_iff (reception : Reception η) (position : Nat)
    (visit : Visit) :
    (reception.next position visit).2 = .configured ↔ visit.stage = .accepted := by
  obtain ⟨peer, stage⟩ := visit
  cases stage <;> simp only [next] <;> (repeat' split) <;> simp

theorem map_modify_of_eq {α β : Type} {items : List α} {position : Nat}
    {change : α → α} {read : α → β} (keeps : ∀ item, read (change item) = read item) :
    (items.modify position change).map read = items.map read := by
  apply List.ext_getElem?
  intro other
  rw [List.getElem?_map, List.getElem?_modify, List.getElem?_map]
  cases items[other]? with
  | none => rfl
  | some item =>
      simp only [Option.map_eq_map, Option.map_some]
      split <;> simp [keeps]

/-- What a connection makes known when it goes on. -/
def news (reception : Reception η) (position : Nat) : List (Note η) :=
  reception.visits[position]?.elim [] fun visit => (reception.next position visit).1

theorem go_eq (reception : Reception η) (position : Nat) :
    reception.go position =
      { reception with
        visits := reception.visits.modify position fun visit =>
          { visit with stage := (reception.next position visit).2 }
        log := reception.log ++ reception.news position } := by
  unfold go news
  split
  · rename_i missing
    simp [missing, List.modify_eq_self (List.getElem?_eq_none_iff.mp missing)]
  · rename_i visit found
    obtain ⟨within, rfl⟩ := List.getElem?_eq_some_iff.mp found
    simp [tell, found, List.modify_eq_set_getElem?]

section Go

variable (reception : Reception η) (position other : Nat)

@[simp]
theorem loop_go : (reception.go position).loop = reception.loop := by
  rw [go_eq]

@[simp]
theorem sink_go : (reception.go position).sink = reception.sink := by
  rw [go_eq]

@[simp]
theorem maxFrameLength_go :
    (reception.go position).maxFrameLength = reception.maxFrameLength := by
  rw [go_eq]

@[simp]
theorem signalled_go : (reception.go position).signalled = reception.signalled := by
  rw [go_eq]

@[simp]
theorem halted_go : (reception.go position).halted = reception.halted := by
  rw [go_eq]

@[simp]
theorem length_go :
    (reception.go position).visits.length = reception.visits.length := by
  rw [go_eq, List.length_modify]

theorem getElem?_go :
    (reception.go position).visits[other]? =
      reception.visits[other]?.map fun visit =>
        if position = other then
          { visit with stage := (reception.next other visit).2 }
        else visit := by
  rw [go_eq, List.getElem?_modify]
  split <;> simp_all

theorem tells_of_news {note : Note η} (told : note ∈ reception.news position) :
    Tells reception position note := by
  unfold news at told
  cases found : reception.visits[position]? with
  | none => simp [found] at told
  | some visit =>
      rw [found] at told
      exact tells_of_next told

theorem reports_of_news :
    ∃ errors : List Error, (reception.news position).filterMap (·.report?) =
      errors.map reception.sink.report :=
  reports_of_tells fun _ => tells_of_news reception position

theorem concerning_go :
    (reception.go position).concerning other =
      reception.concerning other ++
        if position = other then reception.news other else [] := by
  have about (note) (told : note ∈ reception.news position) :=
    (tells_of_news reception position told).position
  simp only [go_eq, concerning, List.filter_append]
  congr 1
  split
  · rename_i same
    subst same
    exact List.filter_eq_self.mpr fun note told => by simp [about note told]
  · rename_i different
    exact List.filter_eq_nil_iff.mpr fun note told => by
      simp [about note told, different]

@[simp]
theorem refusals_go : (reception.go position).refusals = reception.refusals := by
  have silent : (reception.news position).filterMap (·.refusal?) = [] :=
    List.filterMap_eq_nil_iff.mpr fun _ told =>
      (tells_of_news reception position told).refusal
  rw [go_eq, refusals, List.filterMap_append, silent, List.append_nil, refusals]

@[simp]
theorem arrivals_go : (reception.go position).arrivals = reception.arrivals := by
  rw [go_eq]
  exact map_modify_of_eq fun _ => rfl

end Go

end Reception

end RemoteMessaging
