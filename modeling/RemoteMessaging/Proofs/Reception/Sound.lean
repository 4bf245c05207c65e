import RemoteMessaging.Proofs.Reception.Steps

/-!
# Connections get what they are owed

Whatever steps are taken, what was done for a connection and what it is still owed is
what it asks for.  The accept loop and the task of the connection bring it to the end
of that with their next steps.
-/

namespace RemoteMessaging

namespace Reception

variable {η : Type}

/-- What is known of a connection, and where it stands. -/
structure Fits (peers : Nat → Peer) (reception : Reception η) (position : Nat)
    (visit : Visit) : Prop where
  peer : visit.peer = peers position
  /-- What is to be done for it was done or is owed to it. -/
  account : reception.done position ++ visit.owed reception.maxFrameLength =
    (peers position).arrival.actions reception.maxFrameLength
  agrees : visit.stage.Agrees reception.loop position
  dropped : visit.stage = .dropped → reception.halted = true

/-- The accept loop and all connections stand where they should. -/
structure Sound (peers : Nat → Peer) (reception : Reception η) : Prop where
  fits : ∀ {position visit}, reception.visits[position]? = some visit →
    Fits peers reception position visit
  /-- Nothing is known of connections that are still to come. -/
  fresh : ∀ {position}, reception.visits[position]? = none →
    reception.concerning position = [] ∧ reception.loop.visit? ≠ some position
  halted : reception.halted = true → reception.signalled = true
  left : reception.loop = .left → reception.signalled = true

theorem Sound.start (peers : Nat → Peer) (maxFrameLength : Nat) (sink : ErrorSink η) :
    Sound peers (start maxFrameLength sink) where
  fits found := by simp [Reception.start] at found
  fresh _ := ⟨rfl, by simp [Reception.start, Loop.visit?]⟩
  halted stopped := by simp [Reception.start] at stopped
  left gone := by simp [Reception.start] at gone

section Step

variable {peers : Nat → Peer} {reception : Reception η} {action : Action η}
  {position : Nat}

theorem taken_of_newcomer {visit : Visit}
    (taken : newcomer? peers reception action position = some visit) :
    action = .accept ∧ visit = ⟨peers position, .accepted⟩ ∧
      (step peers reception action).loop = .configuring position := by
  cases action with
  | accept =>
      simp only [newcomer?, Option.ite_none_right_eq_some, Option.some.injEq] at taken
      obtain ⟨⟨waiting, rfl⟩, rfl⟩ := taken
      simp [step, accept, waiting]
  | _ => simp [newcomer?] at taken

theorem newcomer?_of_found {visit : Visit}
    (found : reception.visits[position]? = some visit) :
    newcomer? peers reception action position = none := by
  obtain ⟨within, -⟩ := List.getElem?_eq_some_iff.mp found
  cases action <;> simp [newcomer?]
  omega

theorem Loop.visit?_of_next {halted : Bool} {loop : Loop}
    (later : (loop.next halted).visit? = some position) :
    loop.visit? = some position := by
  cases loop <;> cases halted <;> simp_all [Loop.next, Loop.visit?]

theorem visit?_step (away : reception.loop.visit? ≠ some position)
    (known : newcomer? peers reception action position = none) :
    (step peers reception action).loop.visit? ≠ some position := by
  cases action with
  | accept =>
      simp only [newcomer?] at known
      simp only [step, accept]
      split
      · rename_i waiting
        intro taken
        simp only [Loop.visit?, Option.some.injEq] at taken
        simp [waiting, taken] at known
      · exact away
  | proceed =>
      simp only [step, proceed]
      split
      · exact away
      · exact fun later => away (Loop.visit?_of_next later)
  | fail | leave | advance | quit | install | signal | halt =>
      simp only [step, fail, leave, advance, quit, install, halt, tell]
      (repeat' split) <;> simp_all [Loop.visit?]

theorem passage_of_moved {visit : Visit}
    (moved : reception.moved? action = some position) :
    reception.passage action position visit =
      (reception.next position visit).2 :=
  if_pos moved

/-- While the accept loop is at work on a connection, only its own step changes
anything for the two. -/
theorem rest_of_busy (peers : Nat → Peer) {visit : Visit}
    (busy : reception.loop.visit? = some position)
    (near : visit.stage = .accepted ∨ visit.stage = .configured)
    (other : action ≠ .proceed) :
    reception.passage action position visit = visit.stage ∧
      (step peers reception action).loop = reception.loop := by
  have working : reception.loop ≠ .waiting := by
    rintro waiting
    simp [waiting, Loop.visit?] at busy
  constructor
  · cases action <;> rcases near with near | near <;>
      simp_all [passage, moved?, Visit.Stage.quit, Visit.Stage.halt]
    all_goals intros; simp_all
  · cases action <;>
      simp only [step, fail, accept, leave, advance, quit, install, halt, tell] <;>
      (repeat' split) <;> simp_all

theorem agrees_passage {visit : Visit}
    (found : reception.visits[position]? = some visit)
    (agrees : visit.stage.Agrees reception.loop position) :
    (reception.passage action position visit).Agrees
      (step peers reception action).loop position := by
  by_cases far : 2 ≤ visit.stage.rank
  · have onward := (passes_passage peers reception action position visit).rank
    rw [Visit.Stage.agrees_of_far (Nat.le_trans far onward)]
    exact visit?_step ((Visit.Stage.agrees_of_far far _ _).mp agrees)
      (newcomer?_of_found found)
  · have near := Visit.Stage.near_of_rank far
    have busy := Visit.Stage.busy_of_agrees near agrees
    by_cases own : action = .proceed
    · subst own
      have moved : reception.moved? .proceed = some position := busy
      rw [passage_of_moved moved]
      simp only [step, proceed, busy]
      rcases near with accepted | configured
      · rw [(next_eq_configured_iff reception position visit).mpr accepted]
        rw [accepted] at agrees
        rw [show reception.loop = .configuring position from agrees]
        rfl
      · have onward := rank_next reception position visit
        rw [configured] at agrees onward
        rw [Visit.Stage.agrees_of_far onward,
          show reception.loop = .handingOver position from agrees]
        cases reception.halted <;> simp [Loop.next, Loop.visit?]
    · obtain ⟨rests, stays⟩ := rest_of_busy peers busy near own
      rw [rests, stays]
      exact agrees

theorem signalled_of_step
    (halted : reception.halted = true → reception.signalled = true)
    (left : reception.loop = .left → reception.signalled = true) :
    ((step peers reception action).halted = true →
        (step peers reception action).signalled = true) ∧
      ((step peers reception action).loop = .left →
        (step peers reception action).signalled = true) := by
  cases action with
  | proceed =>
      simp only [step, proceed]
      cases stands : reception.loop <;> simp_all [Loop.visit?, Loop.next]
  | fail | accept | leave | advance | quit | install | signal | halt =>
      simp only [step, fail, accept, leave, advance, quit, install, halt, tell]
      (repeat' split) <;> simp_all

end Step

namespace Sound

variable {peers : Nat → Peer} {reception : Reception η}

theorem step (sound : Sound peers reception) (action : Action η) :
    Sound peers (step peers reception action) where
  fits {position visit'} found' := by
    rw [getElem?_step] at found'
    cases found : reception.visits[position]? with
    | some visit =>
        have fits := sound.fits found
        have passes := passes_passage peers reception action position visit
        obtain rfl : { visit with
            stage := reception.passage action position visit } = visit' := by
          simpa [found] using found'
        refine ⟨fits.peer, ?_, agrees_passage found fits.agrees, fun dropped => ?_⟩
        · rw [done, concerning_step, List.filterMap_append, List.append_assoc,
            maxFrameLength_step, passes.owed found]
          exact fits.account
        · exact (passes.halted dropped).elim
            (fun already => halted_step (fits.dropped already)) id
    | none =>
        obtain ⟨silent, -⟩ := sound.fresh found
        rw [found, Option.map_none, Option.none_or] at found'
        obtain ⟨rfl, rfl, taken⟩ := taken_of_newcomer found'
        refine ⟨rfl, ?_, taken, nofun⟩
        simp [done, concerning_step, silent, moved?, Visit.owed]
  fresh {position} missing := by
    rw [getElem?_step, Option.or_eq_none_iff, Option.map_eq_none_iff] at missing
    obtain ⟨missing, known⟩ := missing
    obtain ⟨silent, away⟩ := sound.fresh missing
    refine ⟨?_, visit?_step away known⟩
    simp [concerning_step, silent, news, missing]
  halted := (signalled_of_step sound.halted sound.left).1
  left := (signalled_of_step sound.halted sound.left).2

theorem run (sound : Sound peers reception) (actions : List (Action η)) :
    Sound peers (reception.run peers actions) := by
  induction actions generalizing reception with
  | nil => exact sound
  | cons action actions induction => exact induction (sound.step action)

/-- The accept loop brings a connection as far as it can in two steps of its own. -/
theorem rank_proceed (sound : Sound peers reception) {position : Nat}
    {visit : Visit} (found : reception.visits[position]? = some visit) :
    ∃ visit', (Reception.step peers reception .proceed).visits[position]? =
        some visit' ∧
      min 2 (visit.stage.rank + 1) ≤ visit'.stage.rank := by
  refine ⟨_, by rw [getElem?_step, found]; rfl, ?_⟩
  have onward := (passes_passage peers reception .proceed position visit).rank
  by_cases far : 2 ≤ visit.stage.rank
  · exact Nat.le_trans (Nat.min_le_left _ _) (Nat.le_trans far onward)
  · have near := Visit.Stage.near_of_rank far
    have moved : reception.moved? .proceed = some position :=
      Visit.Stage.busy_of_agrees near (sound.fits found).agrees
    have further := rank_next reception position visit
    simp only [passage_of_moved moved]
    omega

theorem rank_advance (sound : Sound peers reception) {position : Nat}
    {visit : Visit} (found : reception.visits[position]? = some visit)
    (far : 2 ≤ visit.stage.rank) :
    ∃ visit', (Reception.step peers reception (.advance position)).visits[position]? =
        some visit' ∧
      min 4 (visit.stage.rank + 1) ≤ visit'.stage.rank := by
  refine ⟨_, by rw [getElem?_step, found]; rfl, ?_⟩
  have away := (Visit.Stage.agrees_of_far far _ _).mp (sound.fits found).agrees
  have moved : reception.moved? (.advance position) = some position := if_neg away
  simp only [passage_of_moved moved]
  exact rank_next reception position visit

/-- A connection is settled by two steps of the accept loop and two of its own task,
unless the threads have stopped. -/
theorem settles (sound : Sound peers reception) {position : Nat} {visit : Visit}
    (found : reception.visits[position]? = some visit)
    (awake : reception.halted = false) :
    ∃ visit', (reception.run peers [.proceed, .proceed, .advance position,
        .advance position]).visits[position]? = some visit' ∧
      visit'.stage.Settled := by
  obtain ⟨first, found₁, rank₁⟩ := sound.rank_proceed found
  have sound₁ := sound.step .proceed
  obtain ⟨second, found₂, rank₂⟩ := sound₁.rank_proceed found₁
  have sound₂ := sound₁.step .proceed
  obtain ⟨third, found₃, rank₃⟩ := sound₂.rank_advance found₂ (by omega)
  have sound₃ := sound₂.step (.advance position)
  obtain ⟨last, found₄, rank₄⟩ := sound₃.rank_advance found₃ (by omega)
  have sound₄ := sound₃.step (.advance position)
  refine ⟨last, found₄, Visit.Stage.settled_of_rank (by omega) fun dropped => ?_⟩
  have halted := (sound₄.fits found₄).dropped dropped
  simp [halted_step_of_ne, awake] at halted

theorem waits (sound : Sound peers reception)
    (open' : reception.signalled = false) :
    ∃ count ≤ 2, (reception.run peers
      (List.replicate count .proceed)).loop = .waiting := by
  have awake : reception.halted = false := by
    cases halted : reception.halted
    · rfl
    · exact absurd (sound.halted halted) (by simp [open'])
  cases stands : reception.loop with
  | waiting => exact ⟨0, by simp, stands⟩
  | configuring position =>
      refine ⟨2, by simp, ?_⟩
      simp [Reception.run, List.replicate, Reception.step, proceed, stands, awake,
        Loop.visit?, Loop.next]
  | handingOver position =>
      refine ⟨1, by simp, ?_⟩
      simp [Reception.run, List.replicate, Reception.step, proceed, stands, awake,
        Loop.visit?, Loop.next]
  | left => exact absurd (sound.left stands) (by simp [open'])

end Sound

end Reception

end RemoteMessaging
