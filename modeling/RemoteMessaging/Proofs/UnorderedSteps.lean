import RemoteMessaging.Link.UnorderedWriter
import RemoteMessaging.Proofs.OrderedSteps

/-!
# What a step of an unordered writer does

`UnorderedWriter.Steps` lists what the writer may be after a step.  A message is
handed over, waits until its task gives the socket back, and is told of after that;
what one step adds to each of these accounts or takes from it is said once here.
-/

namespace RemoteMessaging.UnorderedWriter

variable {μ : Type}

def submitted (_ : UnorderedWriter μ) : Action μ → List μ
  | .offer message => [message]
  | _ => []

/-- The messages whose sender finds the link active in a step. -/
def admitted (writer : UnorderedWriter μ) : Action μ → List μ
  | .offer message =>
      match writer.sender.offer writer.outlet.activity.active message with
      | .ok _ => [message]
      | .error _ => []
  | _ => []

def refused (writer : UnorderedWriter μ) : Action μ → List (Receipt μ)
  | .offer message =>
      match writer.sender.offer writer.outlet.activity.active message with
      | .ok _ => []
      | .error error => [.failed message error]
  | _ => []

/-- The messages that a step loses: those of the tasks that the threads drop. -/
def lost (writer : UnorderedWriter μ) (action : Action μ) : List μ :=
  if writer.halted then
    match action with
    | .start position => writer.offered[position]?.toList.map (·.message)
    | .drop position => writer.waiting[position]?.toList.map (·.message)
    | .dropCurrent =>
        match writer.current with
        | some (.busy writing) => [writing.outbound.message]
        | _ => []
    | _ => []
  else []

/-- What a task has to tell from a step on, in which it gives the socket back. -/
def owes (writer : UnorderedWriter μ) : Action μ → List (Receipt μ)
  | .release => writer.owing?.toList
  | _ => []

def tells (writer : UnorderedWriter μ) : Action μ → List (Receipt μ)
  | .tell position => (writer.errands[position]?.bind Errand.receipt?).toList
  | _ => []

/-- What a writer may be after a step. -/
inductive Steps (writer : UnorderedWriter μ) :
    Action μ → UnorderedWriter μ → Prop where
  | refused {message : μ} {error : Error}
      (refuses : writer.sender.offer writer.outlet.activity.active message =
        .error error) :
      Steps writer (.offer message)
        { writer with outlet := writer.outlet.report (.failed message error) }
  | offered {message : μ} {outbound : Outbound μ}
      (offers : writer.sender.offer writer.outlet.activity.active message =
        .ok outbound) :
      Steps writer (.offer message)
        { writer with offered := writer.offered ++ [outbound] }
  | started {position : Nat} {outbound : Outbound μ}
      (found : writer.offered[position]? = some outbound)
      (running : writer.halted = false) :
      Steps writer (.start position)
        { writer with
          offered := writer.offered.eraseIdx position
          waiting := writer.waiting ++ [outbound] }
  | stillborn {position : Nat} {outbound : Outbound μ}
      (found : writer.offered[position]? = some outbound)
      (halted : writer.halted = true) :
      Steps writer (.start position)
        { writer with offered := writer.offered.eraseIdx position }
  | acquired {position : Nat} {outbound : Outbound μ}
      (free : writer.current = none)
      (found : writer.waiting[position]? = some outbound) :
      Steps writer (.acquire position)
        { writer with
          waiting := writer.waiting.eraseIdx position
          current := some (.busy outbound.begin) }
  | wrote {answer : WriteAnswer} {writing : Writing μ}
      (current : writer.current = some (.busy writing)) :
      Steps writer (.write answer)
        { writer with
          outlet := writer.outlet.put (answer.bytes writing.rest)
          current := some (writing.advance answer) }
  | released {holder : Holder μ} {receipt : Receipt μ}
      (current : writer.current = some holder)
      (owes : holder.receipt? writer.sender = some receipt) :
      Steps writer .release
        { writer with
          current := none
          errands := writer.errands ++ [.tell receipt] }
  | told {position : Nat} {receipt : Receipt μ}
      (found : writer.errands[position]? = some (.tell receipt)) :
      Steps writer (.tell position)
        { writer with
          outlet := writer.outlet.report receipt
          errands := writer.errands.eraseIdx position ++ receipt.errands }
  | marked {position : Nat} (found : writer.errands[position]? = some .mark) :
      Steps writer (.mark position)
        { writer with
          outlet := writer.outlet.deactivate
          errands := writer.errands.eraseIdx position }
  | deactivated :
      Steps writer .deactivate { writer with outlet := writer.outlet.deactivate }
  | halted : Steps writer .halt { writer with halted := true }
  | dropped {position : Nat} (halted : writer.halted = true) :
      Steps writer (.drop position)
        { writer with waiting := writer.waiting.eraseIdx position }
  | cut {writing : Writing μ} (halted : writer.halted = true)
      (current : writer.current = some (.busy writing)) :
      Steps writer .dropCurrent { writer with current := none }
  | idle {action : Action μ} (nobody : writer.submitted action = [])
      (kept : writer.lost action = []) (quiet : writer.owes action = [])
      (silent : writer.tells action = []) (goesOn : action ≠ .halt) :
      Steps writer action writer

theorem steps_step (writer : UnorderedWriter μ) (action : Action μ) :
    Steps writer action (writer.step action) := by
  cases action with
  | offer message =>
      rw [step, offer]
      split
      · rename_i error refuses
        exact .refused refuses
      · rename_i outbound offers
        exact .offered offers
  | start position =>
      rw [step, start]
      split
      · rename_i missing
        exact .idle rfl (by simp [lost, missing]) rfl rfl nofun
      · rename_i outbound found
        cases halted : writer.halted with
        | true => simpa [halted] using Steps.stillborn found halted
        | false => simpa [halted] using Steps.started found halted
  | acquire position =>
      rw [step, acquire]
      split
      · rename_i outbound free found
        exact .acquired free found
      · exact .idle rfl (by simp [lost]) rfl rfl nofun
  | write answer =>
      rw [step, write]
      split
      · rename_i writing current
        exact .wrote current
      · exact .idle rfl (by simp [lost]) rfl rfl nofun
  | release =>
      rw [step, release]
      split
      · rename_i nothing
        exact .idle rfl (by simp [lost]) (by simp [owes, nothing]) rfl nofun
      · rename_i receipt some
        obtain ⟨holder, current, owes⟩ := Option.bind_eq_some_iff.mp some
        exact .released current owes
  | tell position =>
      rw [step, tell]
      split
      · rename_i receipt found
        exact .told found
      · rename_i other
        refine .idle rfl (by simp [lost]) rfl ?_ nofun
        cases found : writer.errands[position]? with
        | none => simp [tells, found]
        | some errand =>
            cases errand with
            | tell receipt => exact (other receipt found).elim
            | mark => simp [tells, found, Errand.receipt?]
  | mark position =>
      rw [step, mark]
      split
      · rename_i found
        exact .marked found
      · exact .idle rfl (by simp [lost]) rfl rfl nofun
  | deactivate => exact .deactivated
  | halt => exact .halted
  | drop position =>
      rw [step, drop]
      split
      · rename_i halted
        exact .dropped halted
      · rename_i running
        exact .idle rfl (if_neg running) rfl rfl nofun
  | dropCurrent =>
      rw [step, dropCurrent]
      split
      · rename_i writing halted current
        exact .cut halted current
      · rename_i other
        refine .idle rfl ?_ rfl rfl nofun
        cases halted : writer.halted with
        | false => simp [lost, halted]
        | true =>
            simp only [lost, halted, if_true]
            split
            · rename_i writing current
              exact (other writing halted current).elim
            · rfl

/-- The messages whose tasks have not given the socket back. -/
def ahead (writer : UnorderedWriter μ) : List μ :=
  (writer.offered ++ writer.waiting ++
    writer.current.toList.map Holder.outbound).map (·.message)

/-- What is still to be told. -/
def untold (writer : UnorderedWriter μ) : List (Receipt μ) :=
  writer.errands.filterMap Errand.receipt?

theorem message_of_receipt {sender : Sender μ} {holder : Holder μ}
    {receipt : Receipt μ} (owes : holder.receipt? sender = some receipt) :
    receipt.message = holder.outbound.message := by
  cases holder with
  | busy writing => cases owes
  | written outbound =>
      obtain rfl := Option.some.inj owes
      rfl
  | failed writing error =>
      obtain rfl := Option.some.inj owes
      rfl

theorem outbound_advance (writing : Writing μ) (answer : WriteAnswer) :
    (writing.advance answer).outbound = (Holder.busy writing).outbound := by
  unfold Writing.advance
  split
  · rename_i next writes
    exact Writing.outbound_of_more writes
  · rfl
  · rfl

theorem filterMap_errands (receipt : Receipt μ) :
    receipt.errands.filterMap Errand.receipt? = [] := by
  cases receipt <;> rfl

theorem perm_submitted (writer : UnorderedWriter μ) (action : Action μ) :
    (writer.admitted action ++ (writer.refused action).map Receipt.message).Perm
      (writer.submitted action) := by
  cases action with
  | offer message =>
      simp only [admitted, refused, submitted]
      cases writer.sender.offer writer.outlet.activity.active message <;>
        exact .refl _
  | _ => exact .refl _

theorem admitted_sublist (writer : UnorderedWriter μ) (action : Action μ) :
    (writer.admitted action).Sublist (writer.submitted action) := by
  cases action with
  | offer message =>
      rw [admitted]
      split
      · exact .refl _
      · exact List.nil_sublist _
  | _ => exact .refl _

namespace Steps

variable {writer next : UnorderedWriter μ} {action : Action μ}

theorem admitted_eq_nil (nobody : writer.submitted action = []) :
    writer.admitted action = [] ∧ writer.refused action = [] := by
  cases action with
  | offer message => cases nobody
  | _ => exact ⟨rfl, rfl⟩

/-- A message that is handed over stays ahead until its task gives the socket back
or is dropped. -/
theorem perm_ahead (steps : Steps writer action next) :
    (next.ahead ++ ((writer.owes action).map Receipt.message ++
      writer.lost action)).Perm (writer.ahead ++ writer.admitted action) := by
  classical
  rw [List.perm_iff_count]
  intro item
  cases steps with
  | refused refuses => simp [ahead, owes, lost, admitted, refuses]
  | offered offers =>
      simp [ahead, owes, lost, admitted, offers, Sender.message_of_offer offers,
        List.count_cons]
      omega
  | started found running =>
      have others := ((perm_cons_eraseIdx found).map (·.message)).count_eq item
      simp [ahead, owes, lost, admitted, running, List.count_cons] at others ⊢
      omega
  | stillborn found halted =>
      have others := ((perm_cons_eraseIdx found).map (·.message)).count_eq item
      simp [ahead, owes, lost, admitted, found, halted, List.count_cons]
        at others ⊢
      omega
  | acquired free found =>
      have others := ((perm_cons_eraseIdx found).map (·.message)).count_eq item
      simp [ahead, owes, lost, admitted, free, Holder.outbound, Outbound.begin,
        List.count_cons] at others ⊢
      omega
  | wrote current =>
      simp [ahead, owes, lost, admitted, current, outbound_advance]
  | released current owes =>
      simp [ahead, UnorderedWriter.owes, owing?, lost, admitted, current, owes,
        message_of_receipt owes]
  | dropped halted =>
      rename_i position
      have parts := ((perm_eraseIdx writer.waiting position).map
        (·.message)).count_eq item
      simp [ahead, owes, lost, admitted, halted] at parts ⊢
      omega
  | cut halted current =>
      simp [ahead, owes, lost, admitted, halted, current, Holder.outbound]
  | idle nobody kept quiet =>
      simp [kept, quiet, (admitted_eq_nil nobody).1]
  | _ => simp [ahead, owes, lost, admitted]

/-- A task that has given the socket back owes a receipt until it tells. -/
theorem perm_untold (steps : Steps writer action next) :
    (next.untold ++ writer.tells action).Perm
      (writer.untold ++ writer.owes action) := by
  cases steps with
  | released current owes =>
      simp [untold, tells, UnorderedWriter.owes, owing?, current, owes,
        Errand.receipt?]
  | told found =>
      have others := (perm_cons_eraseIdx found).filterMap Errand.receipt?
      simp only [untold, tells, owes, found, List.filterMap_append,
        filterMap_errands, List.append_nil, Option.bind_some, Errand.receipt?,
        Option.toList_some] at others ⊢
      exact List.perm_append_comm.trans others
  | marked found =>
      have others := (perm_cons_eraseIdx found).filterMap Errand.receipt?
      simp only [untold, tells, owes, List.append_nil, Errand.receipt?] at others ⊢
      exact others
  | idle nobody kept quiet silent => simp [quiet, silent]
  | _ => simp [untold, tells, owes]

theorem receipts (steps : Steps writer action next) :
    next.outlet.receipts = writer.outlet.receipts ++
      (writer.refused action ++ writer.tells action) := by
  cases steps with
  | refused refuses =>
      simp [UnorderedWriter.refused, refuses, tells, Outlet.report]
  | offered offers => simp [UnorderedWriter.refused, offers, tells]
  | told found =>
      simp [UnorderedWriter.refused, tells, found, Errand.receipt?, Outlet.report]
  | idle nobody kept quiet silent => simp [silent, (admitted_eq_nil nobody).2]
  | _ => simp [UnorderedWriter.refused, tells, Outlet.put, Outlet.deactivate]

theorem sender (steps : Steps writer action next) : next.sender = writer.sender := by
  cases steps <;> rfl

theorem halted_of_halted (steps : Steps writer action next)
    (stops : writer.halted = true) : next.halted = true := by
  cases steps with
  | halted => rfl
  | _ => exact stops

theorem halted_eq (steps : Steps writer action next) (other : action ≠ .halt) :
    next.halted = writer.halted := by
  cases steps with
  | halted => exact absurd rfl other
  | _ => rfl

theorem active_eq (steps : Steps writer action next)
    (other : action ≠ .deactivate) (unmarked : .mark ∉ writer.errands) :
    next.outlet.activity.active = writer.outlet.activity.active := by
  cases steps with
  | deactivated => exact absurd rfl other
  | marked found => exact absurd (List.mem_of_getElem? found) unmarked
  | _ => rfl

theorem inactive (steps : Steps writer action next)
    (inactive : writer.outlet.activity.active = false) :
    next.outlet.activity.active = false := by
  cases steps with
  | deactivated => exact Activity.active_markInactive _
  | marked => exact Activity.active_markInactive _
  | _ => exact inactive

end Steps

end RemoteMessaging.UnorderedWriter
