import RemoteMessaging.Proofs.Notes
import RemoteMessaging.Proofs.Reception.AtOnce

/-!
# Connections that do not disturb each other

Whatever accepts and connections run into, the accept loop goes on until a shutdown
is signalled.  For each connection exactly that is done which its own calls ask for,
and what others run into makes no difference.
-/

namespace RemoteMessaging

namespace Reception

variable {η : Type}

/-- Two receptions that differ in nothing that all connections have in common. -/
structure Level (first second : Reception η) : Prop where
  maxFrameLength : first.maxFrameLength = second.maxFrameLength
  sink : first.sink = second.sink
  loop : first.loop = second.loop
  length : first.visits.length = second.visits.length
  signalled : first.signalled = second.signalled
  halted : first.halted = second.halted

/-- Two receptions in which everything is the same for one connection. -/
structure Alike (position : Nat) (first second : Reception η) : Prop
    extends Level first second where
  visit : first.visits[position]? = second.visits[position]?
  concerning : first.concerning position = second.concerning position

theorem Level.step {first second : Reception η} (level : Level first second)
    (peers others : Nat → Peer) (action : Action η) :
    Level (step peers first action) (step others second action) := by
  obtain ⟨bound, sink, loop, length, signalled, halted⟩ := level
  constructor <;> cases action <;>
    simp only [Reception.step, fail, accept, proceed, leave, advance, quit, install,
      halt, tell, loop, signalled, halted, length, bound] <;>
    (repeat' split) <;> simp_all

namespace Alike

variable {position : Nat} {first second : Reception η} {peers others : Nat → Peer}

theorem refl (position : Nat) (reception : Reception η) :
    Alike position reception reception :=
  ⟨⟨rfl, rfl, rfl, rfl, rfl, rfl⟩, rfl, rfl⟩

theorem next_eq (alike : Alike position first second) (visit : Visit) :
    first.next position visit = second.next position visit := by
  unfold next
  rw [alike.sink, alike.halted, alike.maxFrameLength]

theorem news_eq (alike : Alike position first second) :
    first.news position = second.news position := by
  unfold news
  rw [alike.visit]
  cases second.visits[position]? with
  | none => rfl
  | some visit => rw [Option.elim_some, Option.elim_some, alike.next_eq]

theorem moved?_eq (alike : Alike position first second) (action : Action η) :
    first.moved? action = second.moved? action := by
  cases action <;> simp [moved?, alike.loop]

theorem passage_eq (alike : Alike position first second) (action : Action η)
    (visit : Visit) :
    first.passage action position visit = second.passage action position visit := by
  simp only [passage, alike.moved?_eq, alike.next_eq, alike.signalled]

theorem newcomer?_eq (alike : Alike position first second)
    (same : others position = peers position) (action : Action η) :
    newcomer? others first action position =
      newcomer? peers second action position := by
  cases action <;> simp [newcomer?, alike.loop, alike.length, same]

theorem step (alike : Alike position first second)
    (same : others position = peers position) (action : Action η) :
    Alike position (step others first action) (step peers second action) where
  toLevel := alike.toLevel.step others peers action
  visit := by
    simp only [getElem?_step, alike.visit, alike.passage_eq, alike.newcomer?_eq same]
  concerning := by
    simp only [concerning_step, alike.concerning, alike.moved?_eq, alike.news_eq]

theorem run (alike : Alike position first second)
    (same : others position = peers position) (actions : List (Action η)) :
    Alike position (first.run others actions) (second.run peers actions) := by
  induction actions generalizing first second with
  | nil => exact alike
  | cons action actions induction => exact induction (alike.step same action)

end Alike

theorem refusals_run (peers : Nat → Peer) (reception : Reception η)
    (actions : List (Action η)) :
    (reception.run peers actions).refusals =
      reception.refusals ++
        (noted (step peers) (taken peers) reception actions).filterMap
          fun accepted => accepted.failure?.map Operation.accept.failed := by
  rw [← noted_filterMap]
  exact noted_of_log refusals (refusals_step peers) reception actions

theorem arrivals_run (peers : Nat → Peer) (reception : Reception η)
    (actions : List (Action η)) :
    (reception.run peers actions).arrivals =
      reception.arrivals ++
        (noted (step peers) (taken peers) reception actions).filterMap
          (·.arrival?) := by
  rw [← noted_filterMap]
  exact noted_of_log arrivals (arrivals_step peers) reception actions

/-- Whatever accepts and connections run into, however the steps of the accept loop and
of the tasks follow each other, and whenever an error handler is installed: as long as
no shutdown is signalled the accept loop is back to wait within two of its steps.  Each
accept that fails is reported once.  Each connection has done for it a part of what it
asks for, and all of it after two steps of the accept loop and two of its own, unless
the threads have stopped; the read loop then begins once if there is no fault in taking
it over, and not at all otherwise, and each fault is reported once.  If others run into
something else, all this stays the same for a connection. -/
theorem receives_each_alone (maxFrameLength : Nat) (sink : ErrorSink η)
    (peers : Nat → Peer) (actions : List (Action η)) :
    let reception := (start maxFrameLength sink).run peers actions
    let accepted := noted (step peers) (taken peers) (start maxFrameLength sink) actions
    (reception.signalled = true ↔ .signal ∈ actions) ∧
      (reception.loop = .left → reception.signalled = true) ∧
      (reception.signalled = false →
        ∃ count ≤ 2, (reception.run peers
          (List.replicate count .proceed)).loop = .waiting) ∧
      reception.refusals = (accepted.filterMap (·.failure?)).map
        Operation.accept.failed ∧
      reception.arrivals = accepted.filterMap (·.arrival?) ∧
      ∀ (position : Nat) visit, reception.visits[position]? = some visit →
        let arrival := (peers position).arrival
        visit.peer = peers position ∧
          reception.done position <+: arrival.actions maxFrameLength ∧
          (visit.stage.Settled →
            reception.done position = arrival.actions maxFrameLength ∧
              arrival.Received maxFrameLength (reception.done position)) ∧
          (visit.stage = .dropped → reception.halted = true) ∧
          (reception.halted = true → reception.signalled = true) ∧
          (reception.halted = false →
            ∃ visit', (reception.run peers [.proceed, .proceed, .advance position,
                .advance position]).visits[position]? = some visit' ∧
              visit'.stage.Settled) ∧
          ∀ others : Nat → Peer, others position = peers position →
            let elsewhere := (start maxFrameLength sink).run others actions
            elsewhere.visits[position]? = some visit ∧
              elsewhere.concerning position = reception.concerning position := by
  intro reception accepted
  have sound : Sound peers reception :=
    (Sound.start peers maxFrameLength sink).run actions
  have bound : reception.maxFrameLength = maxFrameLength :=
    maxFrameLength_run peers (start maxFrameLength sink) actions
  refine ⟨?_, sound.left, sound.waits, ?_,
    arrivals_run peers (start maxFrameLength sink) actions, ?_⟩
  · refine (signalled_run peers (start maxFrameLength sink) actions).trans ?_
    simp [start]
  · rw [List.map_filterMap]
    exact refusals_run peers (start maxFrameLength sink) actions
  · intro position visit found arrival
    have fits := sound.fits found
    have account := fits.account
    rw [bound] at account
    refine ⟨fits.peer, ⟨_, account⟩, fun settled => ?_, fits.dropped, sound.halted,
      sound.settles found, fun others same => ?_⟩
    · rw [Visit.owed_of_settled settled, List.append_nil] at account
      rw [account]
      exact ⟨rfl, arrival.received_actions maxFrameLength⟩
    · have alike := (Alike.refl position (start maxFrameLength sink)).run same actions
      exact ⟨alike.visit.trans found, alike.concerning⟩

end Reception

end RemoteMessaging
