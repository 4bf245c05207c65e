import Mathlib.Data.List.Perm.Basic

/-!
# What the steps of a run note

A machine takes one action after the other.  Beside the state in which it ends
stands what its steps have noted on the way.  What one step adds to an account or
takes from it, a run adds to it or takes from it altogether.
-/

namespace RemoteMessaging

variable {σ α β γ : Type} {step : σ → α → σ}

/-- What the steps of a run note, in order. -/
def noted (step : σ → α → σ) (note : σ → α → List β) :
    σ → List α → List β
  | _, [] => []
  | state, action :: actions =>
      note state action ++ noted step note (step state action) actions

theorem noted_append (note : σ → α → List β) (state : σ)
    (first second : List α) :
    noted step note state (first ++ second) =
      noted step note state first ++
        noted step note (first.foldl step state) second := by
  induction first generalizing state with
  | nil => rfl
  | cons action actions induction =>
      simp only [List.cons_append, noted, List.foldl_cons, induction,
        List.append_assoc]

theorem noted_sublist {less more : σ → α → List β}
    (each : ∀ state action, (less state action).Sublist (more state action))
    (state : σ) (actions : List α) :
    (noted step less state actions).Sublist
      (noted step more state actions) := by
  induction actions generalizing state with
  | nil => exact .refl _
  | cons action actions induction =>
      exact (each state action).append (induction (step state action))

theorem perm_noted_append (step : σ → α → σ)
    (first second : σ → α → List β) (state : σ) (actions : List α) :
    (noted step (fun state action => first state action ++ second state action)
      state actions).Perm
        (noted step first state actions ++ noted step second state actions) := by
  induction actions generalizing state with
  | nil => exact .refl _
  | cons action actions induction =>
      have later := induction (step state action)
      simp only [noted, List.append_assoc]
      refine .append_left _ ?_
      exact ((later.append_left _).trans (by
        rw [← List.append_assoc, ← List.append_assoc]
        exact .append_right _ List.perm_append_comm))

theorem noted_map (change : β → γ) (note : σ → α → List β) (state : σ)
    (actions : List α) :
    noted step (fun state action => (note state action).map change) state
        actions = (noted step note state actions).map change := by
  induction actions generalizing state with
  | nil => rfl
  | cons action actions induction =>
      simp only [noted, List.map_append, induction]

theorem noted_filterMap (select : β → Option γ) (note : σ → α → List β) (state : σ)
    (actions : List α) :
    noted step (fun state action => (note state action).filterMap select) state
        actions = (noted step note state actions).filterMap select := by
  induction actions generalizing state with
  | nil => rfl
  | cons action actions induction =>
      simp only [noted, List.filterMap_append, induction]

theorem noted_of_log (log : σ → List β) {note : σ → α → List β}
    (appends : ∀ state action,
      log (step state action) = log state ++ note state action)
    (state : σ) (actions : List α) :
    log (actions.foldl step state) =
      log state ++ noted step note state actions := by
  induction actions generalizing state with
  | nil => exact (List.append_nil _).symm
  | cons action actions induction =>
      rw [List.foldl_cons, induction, appends, List.append_assoc]
      rfl

/-- An account that each step keeps up with gains and losses. -/
theorem perm_of_balance (account : σ → List β)
    {gain loss : σ → α → List β}
    (balance : ∀ state action,
      (account (step state action) ++ loss state action).Perm
        (account state ++ gain state action))
    (state : σ) (actions : List α) :
    (account (actions.foldl step state) ++
      noted step loss state actions).Perm
        (account state ++ noted step gain state actions) := by
  induction actions generalizing state with
  | nil => exact .refl _
  | cons action actions induction =>
      have now := balance state action
      have later := induction (step state action)
      simp only [List.foldl_cons, noted]
      classical
      rw [List.perm_iff_count] at now later ⊢
      intro item
      have now := now item
      have later := later item
      simp only [List.count_append] at now later ⊢
      omega

/-- What holds of all notes of steps that are taken while a state lasts. -/
theorem forall_noted {note : σ → α → List β} {holds : β → Prop}
    (lasts : σ → Prop) (allowed : α → Prop)
    (here : ∀ state action, lasts state → allowed action →
      ∀ item ∈ note state action, holds item)
    (goesOn : ∀ state action, lasts state → allowed action →
      lasts (step state action))
    (state : σ) (actions : List α) (now : lasts state)
    (each : ∀ action ∈ actions, allowed action) :
    ∀ item ∈ noted step note state actions, holds item := by
  induction actions generalizing state with
  | nil => simp [noted]
  | cons action actions induction =>
      obtain ⟨first, others⟩ := List.forall_mem_cons.mp each
      intro item member
      rcases List.mem_append.mp member with at' | later
      · exact here state action now first item at'
      · exact induction _ (goesOn state action now first) others item later

theorem noted_eq_nil {note : σ → α → List β} (lasts : σ → Prop)
    (allowed : α → Prop)
    (nothing : ∀ state action, lasts state → note state action = [])
    (goesOn : ∀ state action, lasts state → allowed action →
      lasts (step state action))
    (state : σ) (actions : List α) (now : lasts state)
    (each : ∀ action ∈ actions, allowed action) :
    noted step note state actions = [] := by
  apply List.eq_nil_iff_forall_not_mem.mpr
  refine forall_noted lasts allowed ?_ goesOn state actions now each
  intro state action now _
  simp [nothing state action now]

theorem noted_congr {first second : σ → α → List β} (lasts : σ → Prop)
    (allowed : α → Prop)
    (same : ∀ state action, lasts state → allowed action →
      first state action = second state action)
    (goesOn : ∀ state action, lasts state → allowed action →
      lasts (step state action))
    (state : σ) (actions : List α) (now : lasts state)
    (each : ∀ action ∈ actions, allowed action) :
    noted step first state actions = noted step second state actions := by
  induction actions generalizing state with
  | nil => rfl
  | cons action actions induction =>
      obtain ⟨here, others⟩ := List.forall_mem_cons.mp each
      rw [noted, noted, same state action now here,
        induction _ (goesOn state action now here) others]

theorem perm_eraseIdx (items : List β) (position : Nat) :
    (items[position]?.toList ++ items.eraseIdx position).Perm items := by
  by_cases within : position < items.length
  · rw [List.getElem?_eq_getElem within]
    exact List.getElem_cons_eraseIdx_perm within
  · rw [List.getElem?_eq_none (Nat.le_of_not_lt within),
      List.eraseIdx_of_length_le (Nat.le_of_not_lt within)]
    exact .refl _

theorem perm_cons_eraseIdx {items : List β} {position : Nat} {item : β}
    (found : items[position]? = some item) :
    (item :: items.eraseIdx position).Perm items := by
  have whole := perm_eraseIdx items position
  rwa [found] at whole

end RemoteMessaging
