import RemoteMessaging.Proofs.Reception.Connections

/-!
# Steps of a reception

What one step does to each connection, to what is known of it, and to the accept loop.
-/

namespace RemoteMessaging

namespace Reception

variable {η : Type}

def moved? (reception : Reception η) : Action η → Option Nat
  | .proceed => reception.loop.visit?
  | .advance position =>
      if reception.loop.visit? = some position then none else some position
  | _ => none

/-- Where a connection stands after a step. -/
def passage (reception : Reception η) (action : Action η) (position : Nat)
    (visit : Visit) : Visit.Stage :=
  if reception.moved? action = some position then
    (reception.next position visit).2
  else
    match action with
    | .quit quitting =>
        if reception.signalled ∧ quitting = position then visit.stage.quit
        else visit.stage
    | .halt => if reception.signalled then visit.stage.halt else visit.stage
    | _ => visit.stage

/-- What the accept loop takes in a step. -/
def taken (peers : Nat → Peer) (reception : Reception η) :
    Action η → List Accepted
  | .fail error => if reception.loop = .waiting then [.failed error] else []
  | .accept =>
      if reception.loop = .waiting then
        [.connection (peers reception.visits.length).arrival]
      else []
  | _ => []

/-- The connection that is taken in a step. -/
def newcomer? (peers : Nat → Peer) (reception : Reception η) :
    Action η → Nat → Option Visit
  | .accept, position =>
      if reception.loop = .waiting ∧ position = reception.visits.length then
        some ⟨peers position, .accepted⟩
      else none
  | _, _ => none

section Step

variable (peers : Nat → Peer) (reception : Reception η) (action : Action η)
  (position : Nat)

@[simp]
theorem maxFrameLength_step :
    (step peers reception action).maxFrameLength = reception.maxFrameLength := by
  cases action <;>
    simp only [step, fail, accept, proceed, leave, advance, quit, install, halt, tell] <;>
    (repeat' split) <;> simp

theorem getElem?_step :
    (step peers reception action).visits[position]? =
      (reception.visits[position]?.map fun visit =>
        { visit with stage := reception.passage action position visit }).or
          (newcomer? peers reception action position) := by
  cases action with
  | fail error =>
      simp only [step, fail, passage, moved?, newcomer?]
      split <;> simp [tell]
  | accept =>
      simp only [step, accept, passage, moved?, newcomer?]
      split <;> rename_i stands
      · rw [List.getElem?_append]
        rcases Nat.lt_trichotomy position reception.visits.length with
          within | rfl | beyond
        · simp [within, Nat.ne_of_lt within]
        · simp [stands]
        · simp [stands, Nat.not_lt_of_gt beyond, Nat.ne_of_gt beyond,
            Nat.sub_ne_zero_of_lt beyond]
      · simp [stands]
  | proceed =>
      simp only [step, proceed, passage, moved?, newcomer?, Option.or_none]
      split <;> rename_i stands
      · simp [stands]
      · simp only [stands, getElem?_go, Option.some.injEq]
        congr
        funext visit
        split <;> rfl
  | leave =>
      simp only [step, leave, passage, moved?, newcomer?]
      split <;> simp
  | advance goes =>
      simp only [step, advance, passage, moved?, newcomer?, Option.or_none]
      split <;> rename_i stands
      · simp
      · rw [getElem?_go]
        congr
        funext visit
        split <;> simp_all
  | quit quits =>
      simp only [step, quit, passage, moved?, newcomer?, Option.or_none]
      split <;> rename_i signalled
      · rw [List.getElem?_modify]
        simp only [signalled, true_and]
        congr
        funext visit
        split <;> simp_all
      · simp [signalled]
  | install handler => simp [step, install, passage, moved?, newcomer?]
  | signal => simp [step, passage, moved?, newcomer?]
  | halt =>
      simp only [step, halt, passage, moved?, newcomer?]
      split <;> simp_all

theorem concerning_step :
    (step peers reception action).concerning position =
      reception.concerning position ++
        if reception.moved? action = some position then reception.news position
        else [] := by
  cases action with
  | fail error =>
      simp only [step, fail, moved?]
      split <;> simp [tell, concerning, Note.position?]
  | proceed =>
      simp only [step, proceed, moved?]
      split <;> rename_i stands
      · simp [stands]
      · simp only [stands, Option.some.injEq]
        exact concerning_go reception _ position
  | advance goes =>
      simp only [step, advance, moved?]
      split
      · simp
      · simp only [Option.some.injEq]
        exact concerning_go reception goes position
  | accept | leave | quit | halt =>
      simp only [step, accept, leave, quit, halt, moved?]
      split <;> simp [concerning]
  | install | signal => simp [step, install, moved?, concerning]

theorem refusals_step :
    (step peers reception action).refusals =
      reception.refusals ++ (taken peers reception action).filterMap
        fun accepted => accepted.failure?.map Operation.accept.failed := by
  cases action with
  | fail error =>
      simp only [step, fail, taken]
      split <;> simp [tell, refusals, Note.refusal?, Accepted.failure?]
  | accept =>
      simp only [step, accept, taken]
      split <;> simp [refusals, Accepted.failure?]
  | proceed =>
      simp only [step, proceed, taken, List.filterMap_nil, List.append_nil]
      split
      · rfl
      · exact refusals_go reception _
  | advance goes =>
      simp only [step, advance, taken, List.filterMap_nil, List.append_nil]
      split
      · rfl
      · exact refusals_go reception goes
  | leave | quit | install | signal | halt =>
      simp only [step, leave, quit, install, halt, taken, List.filterMap_nil,
        List.append_nil]
      (repeat' split) <;> rfl

theorem arrivals_step :
    (step peers reception action).arrivals =
      reception.arrivals ++
        (taken peers reception action).filterMap (·.arrival?) := by
  cases action with
  | accept =>
      simp only [step, accept, taken]
      split <;> simp [arrivals, Accepted.arrival?]
  | proceed =>
      simp only [step, proceed, taken, List.filterMap_nil, List.append_nil]
      split
      · rfl
      · exact arrivals_go reception _
  | advance goes =>
      simp only [step, advance, taken, List.filterMap_nil, List.append_nil]
      split
      · rfl
      · exact arrivals_go reception goes
  | quit quits =>
      simp only [step, quit, taken, List.filterMap_nil, List.append_nil]
      split <;> simp [arrivals, map_modify_of_eq]
  | fail | leave | install | signal | halt =>
      simp only [step, fail, leave, install, halt, taken, tell]
      (repeat' split) <;> simp [arrivals, Accepted.arrival?]

/-- All errors are reported to the handler of the moment. -/
theorem reports_step :
    ∃ errors : List Error, (step peers reception action).reports =
      reception.reports ++ errors.map reception.sink.report := by
  have goes (position : Nat) : ∃ errors : List Error,
      (reception.go position).reports =
        reception.reports ++ errors.map reception.sink.report := by
    obtain ⟨errors, same⟩ := reports_of_news reception position
    exact ⟨errors, by simp [go_eq, reports, same]⟩
  cases action with
  | fail error =>
      simp only [step, fail]
      split
      · exact ⟨[Operation.accept.failed error], by simp [reports, tell, Note.report?]⟩
      · exact ⟨[], by simp⟩
  | proceed =>
      simp only [step, proceed]
      split
      · exact ⟨[], by simp⟩
      · exact goes _
  | advance position =>
      simp only [step, advance]
      split
      · exact ⟨[], by simp⟩
      · exact goes position
  | accept | leave | quit | install | signal | halt =>
      refine ⟨[], ?_⟩
      simp only [step, accept, leave, quit, install, halt]
      (repeat' split) <;> simp [reports]

theorem sink_step :
    (step peers reception action).sink =
      match action with
      | .install handler => reception.sink.install handler
      | _ => reception.sink := by
  cases action <;>
    simp only [step, fail, accept, proceed, leave, advance, quit, install, halt, tell] <;>
    (repeat' split) <;> simp

/-- What may come of a step for a connection. -/
inductive Passes (visit : Visit) : Visit.Stage → Prop where
  | next (moved : reception.moved? action = some position) :
      Passes visit (reception.next position visit).2
  | quit (still : reception.moved? action ≠ some position) :
      Passes visit visit.stage.quit
  | halt (still : reception.moved? action ≠ some position)
      (halting : (step peers reception action).halted = true) :
      Passes visit visit.stage.halt
  | rest (still : reception.moved? action ≠ some position) :
      Passes visit visit.stage

theorem passes_passage (visit : Visit) :
    Passes peers reception action position visit
      (reception.passage action position visit) := by
  unfold passage
  split
  · rename_i moved
    exact .next moved
  · rename_i still
    split
    · split
      · exact .quit still
      · exact .rest still
    · split
      · rename_i signalled
        exact .halt still (by simp [step, Reception.halt, signalled])
      · exact .rest still
    · exact .rest still

variable {peers reception action position}

theorem Passes.owed {visit : Visit} {stage : Visit.Stage}
    (passes : Passes peers reception action position visit stage)
    (found : reception.visits[position]? = some visit) :
    (if reception.moved? action = some position then reception.news position
        else []).filterMap (·.action?) ++
          Visit.owed { visit with stage := stage } reception.maxFrameLength =
      visit.owed reception.maxFrameLength := by
  cases passes with
  | next moved =>
      rw [if_pos moved, news, found]
      exact owed_next reception position visit
  | quit still =>
      rw [if_neg still]
      exact visit.owed_quit _
  | halt still =>
      rw [if_neg still]
      exact visit.owed_halt _
  | rest still =>
      rw [if_neg still]
      rfl

theorem Passes.rank {visit : Visit} {stage : Visit.Stage}
    (passes : Passes peers reception action position visit stage) :
    visit.stage.rank ≤ stage.rank := by
  cases passes with
  | next =>
      have := rank_next reception position visit
      have := visit.stage.rank_le
      omega
  | quit => exact Nat.le_of_eq visit.stage.rank_quit.symm
  | halt => exact visit.stage.rank_halt
  | rest => exact Nat.le_refl _

theorem halted_step_of_ne (other : action ≠ .halt) :
    (step peers reception action).halted = reception.halted := by
  cases action <;>
    simp only [step, fail, accept, proceed, leave, advance, quit, install, tell] <;>
    (repeat' split) <;> simp_all

theorem halted_step (halted : reception.halted = true) :
    (step peers reception action).halted = true := by
  by_cases halting : action = .halt
  · subst halting
    simp only [step, Reception.halt]
    split <;> simp [halted]
  · rw [halted_step_of_ne halting, halted]

theorem Passes.halted {visit : Visit} {stage : Visit.Stage}
    (passes : Passes peers reception action position visit stage)
    (dropped : stage = .dropped) :
    visit.stage = .dropped ∨ (step peers reception action).halted = true := by
  cases passes with
  | next => exact (halted_of_next dropped).imp_right halted_step
  | quit => exact .inl (visit.stage.quit_eq_dropped_iff.mp dropped)
  | halt still halting => exact .inr halting
  | rest => exact .inl dropped

end Step

theorem maxFrameLength_run (peers : Nat → Peer) (reception : Reception η)
    (actions : List (Action η)) :
    (reception.run peers actions).maxFrameLength = reception.maxFrameLength := by
  induction actions generalizing reception with
  | nil => rfl
  | cons action actions induction =>
      exact (induction _).trans (maxFrameLength_step peers reception action)

theorem signalled_step (peers : Nat → Peer) (reception : Reception η)
    (action : Action η) :
    (step peers reception action).signalled = true ↔
      reception.signalled = true ∨ action = .signal := by
  cases action <;>
    simp only [step, fail, accept, proceed, leave, advance, quit, install, halt, tell] <;>
    (repeat' split) <;> simp

theorem signalled_run (peers : Nat → Peer) (reception : Reception η)
    (actions : List (Action η)) :
    (reception.run peers actions).signalled = true ↔
      reception.signalled = true ∨ .signal ∈ actions := by
  induction actions generalizing reception with
  | nil => simp [run]
  | cons action actions induction =>
      refine (induction _).trans ?_
      rw [signalled_step, List.mem_cons, or_assoc, @eq_comm _ action]

end Reception

end RemoteMessaging
