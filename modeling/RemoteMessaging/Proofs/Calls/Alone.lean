import RemoteMessaging.Link.Run
import RemoteMessaging.Proofs.Calls.Sound

/-!
# A caller without others

A caller that goes on alone takes steps that it might as well take among others.
So what holds in every run of callers holds of it, too.
-/

namespace RemoteMessaging

variable {σ Λ : Type}

/-- Nobody else works on the cache while a caller connects or pauses. -/
structure Outside.Alone (outside : Outside σ Λ) : Prop where
  connect : ∀ address cache state,
    (outside.connect address cache state).2.1 = cache
  pause : ∀ delay cache state, (outside.pause delay cache state).1 = cache

namespace Calls

/-- Steps lead to a cache, and change nobody but one caller. -/
def Leads (calls : Calls Λ) (id : CallerId) (caller : Caller Λ)
    (cache : LinkCache Λ) : Prop :=
  ∃ actions, (calls.run actions).callers = calls.callers.set id caller ∧
    (calls.run actions).cache = cache

namespace Leads

variable {calls : Calls Λ} {id : CallerId} {caller last : Caller Λ}
variable {cache : LinkCache Λ}

theorem refl (found : calls.callers[id]? = some caller) :
    calls.Leads id caller calls.cache := by
  obtain ⟨below, rfl⟩ := List.getElem?_eq_some_iff.mp found
  exact ⟨[], by simp [run], rfl⟩

theorem step (found : calls.callers[id]? = some caller) (action : Action Λ)
    (next : Caller Λ)
    (moves : (calls.step action).callers = calls.callers.set id next)
    (rest : (calls.step action).callers[id]? = some next →
      (calls.step action).Leads id last cache) :
    calls.Leads id last cache := by
  obtain ⟨below, -⟩ := List.getElem?_eq_some_iff.mp found
  obtain ⟨actions, callers, reached⟩ := rest (by simp [moves, below])
  refine ⟨action :: actions, ?_, reached⟩
  rw [moves, List.set_set] at callers
  exact callers

end Leads

/-- A caller that goes on alone goes on as one of several. -/
theorem leads_run {outside : Outside σ Λ} (alone : outside.Alone)
    {calls : Calls Λ} {id : CallerId} {caller : Caller Λ} {state : σ}
    (found : calls.callers[id]? = some caller) :
    calls.Leads id (caller.run outside calls.cache state).1
      (caller.run outside calls.cache state).2.1 := by
  generalize equal : calls.cache = cache
  fun_induction Caller.run outside caller cache state generalizing calls with
  | case1 caller cache state next after warning taken =>
      rename_i induction
      subst equal
      refine .step found (.turn id) next (by simp [step, turn, found, taken]) ?_
      exact fun found' => induction found' (by simp [step, turn, found, taken])
  | case2 caller cache state next after warning taken =>
      subst equal
      refine .step found (.turn id) next (by simp [step, turn, found, taken]) ?_
      intro found'
      have reached : (calls.step (.turn id)).cache = after := by
        simp [step, turn, found, taken]
      exact reached ▸ .refl found'
  | case3 caller cache state taken attempt after state' asked _ induction =>
      have kept : after = cache := by
        simpa [asked] using alone.connect caller.address cache state
      refine .step found (.connected id attempt) (caller.connected attempt)
        (by simp [step, answer, found]) ?_
      exact fun found' => induction found'
        (by simp [step, answer, found, equal, kept])
  | case4 caller cache state delay taken after state' asked _ induction =>
      have kept : after = cache := by
        simpa [asked] using alone.pause delay cache state
      refine .step found (.resumed id) caller.resumed
        (by simp [step, answer, found]) ?_
      exact fun found' => induction found'
        (by simp [step, answer, found, equal, kept])
  | case5 caller cache state link taken live state' asked _ induction =>
      refine .step found (.judged id live) (caller.judged live)
        (by simp [step, answer, found]) ?_
      exact fun found' => induction found'
        (by simp [step, answer, found, equal])
  | case6 caller cache state taken => exact equal ▸ .refl found
  | case7 caller cache state result taken => exact equal ▸ .refl found

end Calls

end RemoteMessaging
