import RemoteMessaging.Proofs.Calls.Log

/-!
# What waiting callers are owed

A caller that waits learns that an attempt has failed only from its reference, which
is idle then, or without a link.  It comes to this by the turn of somebody else who
gives up an attempt, and never by a turn of its own.
-/

namespace RemoteMessaging

open Calls

variable {Λ : Type}

namespace Caller

/-- A caller in a phase waits for an attempt that has failed, and that it does not
know of. -/
def Phase.Owed (cache : LinkCache Λ) : Phase Λ → Prop
  | .await id | .asleep id => (cache.reference id).state = .idle
  | .reread id => (cache.reference id).stored = none
  | _ => False

theorem not_owed_advance (caller : Caller Λ) (cache : LinkCache Λ) :
    ¬ caller.advance.phase.Owed cache := by
  unfold advance
  split <;> exact not_false

theorem not_owed_obtain (caller : Caller Λ) (link : Issued Λ)
    (cache : LinkCache Λ) : ¬ (caller.obtain link).phase.Owed cache := by
  unfold obtain
  split <;> exact not_false

theorem not_owed_replace (caller : Caller Λ) (link : Issued Λ)
    (cache : LinkCache Λ) : ¬ (caller.replace link).phase.Owed cache := by
  unfold replace
  split
  · exact not_false
  · split <;> exact not_false

theorem Phase.owed_congr {cache after : LinkCache Λ}
    (same : ∀ id, after.reference id = cache.reference id) (phase : Phase Λ) :
    phase.Owed after ↔ phase.Owed cache := by
  unfold Owed
  cases phase <;> simp only [same]

/-- Nobody is owed anything by a turn of its own: who comes to wait finds an
attempt under way, or a link. -/
theorem owed_of_turn {caller next : Caller Λ} {cache after : LinkCache Λ}
    {warning : Option String}
    (taken : caller.turn cache = .step next after warning)
    (known : ∀ id, caller.phase.reference? = some id →
      id < cache.references.length)
    (established : ∀ id, (cache.reference id).state = .established →
      (cache.reference id).stored.isSome)
    (owed : next.phase.Owed after) : caller.phase.Owed cache := by
  unfold turn at taken
  cases phase : caller.phase <;> simp only [phase] at taken
  case lookup =>
    split at taken <;> obtain ⟨rfl, -, -⟩ := Turn.step.inj taken <;>
      exact False.elim owed
  case inspect id =>
    split at taken <;> obtain ⟨rfl, -, -⟩ := Turn.step.inj taken
    · exact (caller.not_owed_obtain _ _ owed).elim
    · exact False.elim owed
  case claim id =>
    obtain ⟨rfl, rfl, -⟩ := Turn.step.inj taken
    cases state : (cache.reference id).state <;>
      simp [LinkCache.claim, Reference.claim, state, enterPhase,
        Phase.Owed] at owed
  case await id =>
    obtain ⟨rfl, rfl, -⟩ := Turn.step.inj taken
    have below := known id (by simp [phase, Phase.reference?])
    cases state : (cache.reference id).state with
    | idle => exact state
    | connecting =>
        simp [LinkCache.await, Reference.await, state, enterPhase, Phase.Owed,
          LinkCache.reference_replace_self below] at owed
    | established =>
        have filled := established id state
        simp [LinkCache.await, Reference.await, state, enterPhase,
          Phase.Owed] at owed
        simp [owed] at filled
  case asleep id =>
    split at taken
    · cases taken
    · obtain ⟨rfl, rfl, -⟩ := Turn.step.inj taken
      exact owed
  case reread id =>
    split at taken <;> obtain ⟨rfl, -, -⟩ := Turn.step.inj taken
    · exact (caller.not_owed_obtain _ _ owed).elim
    · exact (caller.not_owed_advance _ owed).elim
  case publish id link =>
    obtain ⟨rfl, -, -⟩ := Turn.step.inj taken
    exact (caller.not_owed_obtain _ _ owed).elim
  case refused id =>
    obtain ⟨rfl, -, -⟩ := Turn.step.inj taken
    split at owed
    · exact False.elim owed
    · exact (caller.not_owed_advance _ owed).elim
  case discard link =>
    obtain ⟨rfl, -, -⟩ := Turn.step.inj taken
    exact (caller.not_owed_replace _ _ owed).elim
  case enter | store | failed | panicking =>
    obtain ⟨rfl, -, -⟩ := Turn.step.inj taken
    exact False.elim owed
  all_goals cases taken

/-- A reference becomes idle by an attempt that has failed. -/
theorem idle_of_turn {caller next : Caller Λ} {cache after : LinkCache Λ}
    {warning : Option String} {reference : ReferenceId}
    (taken : caller.turn cache = .step next after warning)
    (idle : (after.reference reference).state = .idle) :
    (cache.reference reference).state = .idle ∨
      ∃ round, caller.closes cache = some round ∧ round.Fails ∧
        caller.phase.reference? = some reference := by
  unfold turn at taken
  cases phase : caller.phase <;> simp only [phase] at taken
  case claim id =>
    obtain ⟨-, rfl, -⟩ := Turn.step.inj taken
    exact .inl (LinkCache.state_claim idle)
  case await id =>
    obtain ⟨-, rfl, -⟩ := Turn.step.inj taken
    exact .inl (LinkCache.state_await idle)
  case store id link =>
    obtain ⟨-, rfl, -⟩ := Turn.step.inj taken
    exact .inl (LinkCache.state_store idle)
  case publish id link =>
    obtain ⟨-, rfl, -⟩ := Turn.step.inj taken
    rcases LinkCache.state_settle idle with before | ⟨-, other⟩
    · exact .inl before
    · cases other
  case refused id =>
    obtain ⟨-, rfl, -⟩ := Turn.step.inj taken
    rcases LinkCache.state_settle idle with before | ⟨rfl, -⟩
    · exact .inl before
    · exact .inr ⟨.refused, by simp [closes, phase], trivial, rfl⟩
  case failed id error =>
    obtain ⟨-, rfl, -⟩ := Turn.step.inj taken
    rcases LinkCache.state_settle idle with before | ⟨rfl, -⟩
    · exact .inl before
    · exact .inr ⟨.failed error, by simp [closes, phase], trivial, rfl⟩
  case panicking id =>
    obtain ⟨-, rfl, -⟩ := Turn.step.inj taken
    rcases LinkCache.state_settle idle with before | ⟨rfl, -⟩
    · exact .inl before
    · exact .inr ⟨.panicked, by simp [closes, phase], trivial, rfl⟩
  case enter =>
    left
    obtain ⟨-, rfl, -⟩ := Turn.step.inj taken
    rwa [LinkCache.reference_enter] at idle
  case lookup | inspect | reread =>
    left
    split at taken <;> obtain ⟨-, rfl, -⟩ := Turn.step.inj taken <;> exact idle
  case asleep =>
    left
    split at taken
    · cases taken
    · obtain ⟨-, rfl, -⟩ := Turn.step.inj taken
      exact idle
  case discard link =>
    left
    obtain ⟨-, rfl, -⟩ := Turn.step.inj taken
    rwa [LinkCache.evict, LinkCache.reference_evictIf] at idle
  all_goals cases taken

theorem stored_of_turn {caller next : Caller Λ} {cache after : LinkCache Λ}
    {warning : Option String} {reference : ReferenceId}
    (taken : caller.turn cache = .step next after warning)
    (empty : (after.reference reference).stored = none) :
    (cache.reference reference).stored = none := by
  cases turned_of_turn taken with
  | plain continues alike pending => rwa [alike.stored] at empty
  | stored phase => exact LinkCache.stored_store empty
  | discarded phase => rwa [LinkCache.evict, LinkCache.reference_evictIf] at empty

theorem vain_of_turn {caller next : Caller Λ} {cache after : LinkCache Λ}
    {warning : Option String}
    (taken : caller.turn cache = .step next after warning)
    (vain : caller.closes cache = some (.waited none)) :
    caller.phase.Owed cache ∧ next = caller.advance := by
  unfold closes at vain
  unfold turn at taken
  cases phase : caller.phase <;> simp only [phase] at vain taken
  case inspect id =>
    obtain ⟨link, -, other⟩ := Option.map_eq_some_iff.mp vain
    cases other
  case reread id =>
    have empty := Round.waited.inj (Option.some.inj vain)
    simp only [empty] at taken
    obtain ⟨rfl, -, -⟩ := Turn.step.inj taken
    exact ⟨empty, rfl⟩
  all_goals cases vain

end Caller

end RemoteMessaging
