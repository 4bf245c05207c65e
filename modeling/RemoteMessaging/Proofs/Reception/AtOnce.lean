import RemoteMessaging.Proofs.Reception.Sound

/-!
# Serving each connection at once

A reception in which each connection is served as soon as it is accepted does what the
accept loop does that takes one accept after the other.
-/

namespace RemoteMessaging

namespace Reception

variable {η : Type}

def openings (reception : Reception η) : List AcceptAction :=
  reception.log.filterMap (·.action?)

/-- Each connection is served as soon as it is accepted. -/
def atOnce : Nat → List Accepted → List (Action η)
  | _, [] => []
  | position, .failed error :: accepts => .fail error :: atOnce position accepts
  | position, .connection _ :: accepts =>
      .accept :: .proceed :: .proceed :: .advance position :: .advance position ::
        atOnce (position + 1) accepts

/-- The connections that are accepted are those of the peers from a position on. -/
def Comes (peers : Nat → Peer) : Nat → List Accepted → Prop
  | _, [] => True
  | position, .failed _ :: accepts => Comes peers position accepts
  | position, .connection arrival :: accepts =>
      (peers position).arrival = arrival ∧ Comes peers (position + 1) accepts

theorem openings_go (reception : Reception η) (position : Nat) :
    (reception.go position).openings =
      reception.openings ++ (reception.news position).filterMap (·.action?) := by
  simp [go_eq, openings]

/-- What was done for all, with what is owed to one connection. -/
def Serving (position : Nat) (sum : List AcceptAction) (reception : Reception η) :
    Prop :=
  ∃ visit, reception.visits[position]? = some visit ∧
    reception.openings ++ visit.owed reception.maxFrameLength = sum

theorem Serving.step (peers : Nat → Peer) {reception : Reception η}
    {position : Nat} {sum : List AcceptAction}
    (serving : Serving position sum reception) {action : Action η}
    (own : action = .proceed ∧ reception.loop.visit? = some position ∨
      action = .advance position) :
    Serving position sum (step peers reception action) := by
  obtain ⟨visit, found, rfl⟩ := serving
  have passes := passes_passage peers reception action position visit
  refine ⟨_, by rw [getElem?_step, found]; rfl, ?_⟩
  rw [maxFrameLength_step, ← passes.owed found, ← List.append_assoc]
  congr 1
  rcases own with ⟨rfl, busy⟩ | rfl
  · simp only [Reception.step, proceed, moved?, busy, if_true]
    exact openings_go reception position
  · simp only [Reception.step, advance, moved?]
    split
    · simp
    · simpa using openings_go reception position

theorem loop_advance (peers : Nat → Peer) (reception : Reception η) (position : Nat) :
    (step peers reception (.advance position)).loop = reception.loop := by
  simp only [step, advance]
  split <;> simp

theorem length_step_of_ne {peers : Nat → Peer} {reception : Reception η}
    {action : Action η} (other : action ≠ .accept) :
    (step peers reception action).visits.length = reception.visits.length := by
  cases action <;>
      simp only [step, fail, proceed, leave, advance, quit, install, halt, tell] <;>
    (repeat' split) <;> simp_all

/-- A connection that is served at once has done for it what it asks for. -/
theorem serves_at_once {peers : Nat → Peer} {reception : Reception η}
    (sound : Sound peers reception) (waiting : reception.loop = .waiting)
    (awake : reception.halted = false) :
    let position := reception.visits.length
    let served := reception.run peers
      [.accept, .proceed, .proceed, .advance position, .advance position]
    served.loop = .waiting ∧ served.halted = false ∧
      served.visits.length = position + 1 ∧
      served.openings = reception.openings ++
        (peers position).arrival.actions reception.maxFrameLength := by
  intro position served
  let first := step peers reception .accept
  let second := step peers first .proceed
  let third := step peers second .proceed
  have first_eq : first = { reception with
      loop := .configuring position
      visits := reception.visits ++ [⟨peers position, .accepted⟩] } := by
    simp [first, step, accept, waiting, position]
  have found : first.visits[position]? = some ⟨peers position, .accepted⟩ := by
    simp [first_eq, position]
  have awake' : first.halted = false := by simp [first_eq, awake]
  have loop : first.loop = .configuring position := by rw [first_eq]
  have loop₂ : second.loop = .handingOver position := by
    simp [second, step, proceed, loop, Loop.visit?, Loop.next]
  have loop₃ : third.loop = .waiting := by
    simp [third, second, step, proceed, loop, awake', Loop.visit?, Loop.next]
  have serving : Serving position
      (reception.openings ++ (peers position).arrival.actions reception.maxFrameLength)
      first := ⟨_, found, by simp [first_eq, openings, Visit.owed]⟩
  have serving : Serving position _ second := 
    serving.step peers (.inl ⟨rfl, by rw [loop]; rfl⟩)
  have serving : Serving position _ third := 
    serving.step peers (.inl ⟨rfl, by rw [loop₂]; rfl⟩)
  have serving : Serving position _ served := 
    (serving.step peers (.inr rfl)).step peers (.inr rfl)
  obtain ⟨last, found₅, settled⟩ := (sound.step .accept).settles found awake'
  obtain ⟨visit, foundVisit, done⟩ := serving
  obtain rfl : last = visit := Option.some.inj (found₅.symm.trans foundVisit)
  rw [Visit.owed_of_settled settled, List.append_nil] at done
  refine ⟨?_, ?_, ?_, done⟩
  · show (third.run peers [.advance position, .advance position]).loop = .waiting
    simp [Reception.run, loop_advance, loop₃]
  · show (first.run peers [.proceed, .proceed, .advance position,
      .advance position]).halted = false
    simp [Reception.run, halted_step_of_ne, awake']
  · show (first.run peers [.proceed, .proceed, .advance position,
      .advance position]).visits.length = position + 1
    simp [Reception.run, length_step_of_ne, first_eq, position]

/-- A reception in which each connection is served at once does what the accept loop
does. -/
theorem openings_at_once {peers : Nat → Peer} {accepts : List Accepted}
    {reception : Reception η} (sound : Sound peers reception)
    (waiting : reception.loop = .waiting) (awake : reception.halted = false)
    (comes : Comes peers reception.visits.length accepts) :
    (reception.run peers (atOnce reception.visits.length accepts)).openings =
      reception.openings ++
        acceptLoop reception.maxFrameLength none accepts := by
  induction accepts generalizing reception with
  | nil => simp [atOnce, Reception.run, acceptLoop]
  | cons accepted accepts induction =>
      have split : acceptLoop reception.maxFrameLength none (accepted :: accepts) =
          accepted.actions reception.maxFrameLength ++
            acceptLoop reception.maxFrameLength none accepts := rfl
      rw [split, ← List.append_assoc]
      cases accepted with
      | failed error =>
          have failed : step peers reception (.fail error) =
              reception.tell [.refused
                (reception.sink.report (Operation.accept.failed error))] :=
            if_pos waiting
          have told : (step peers reception (.fail error)).openings =
              reception.openings ++
                (Accepted.failed error).actions reception.maxFrameLength := by
            simp [failed, tell, openings, Note.action?, Accepted.actions]
          have length : (step peers reception (.fail error)).visits.length =
              reception.visits.length := length_step_of_ne (by simp)
          have later := induction (sound.step (.fail error))
            (by rw [failed]; exact waiting) (by rw [failed]; exact awake)
            (by rw [length]; exact comes)
          rw [told, maxFrameLength_step, length] at later
          exact later
      | connection arrival =>
          obtain ⟨rfl, comes⟩ := comes
          obtain ⟨waiting', awake', length, told⟩ :=
            serves_at_once sound waiting awake
          have later := induction (sound.run _) waiting' awake' (by rwa [length])
          rw [told, maxFrameLength_run, length] at later
          exact later

end Reception

end RemoteMessaging
