import RemoteMessaging.Proofs.Calls.Account
import RemoteMessaging.Proofs.Calls.Spending

/-!
# How often a caller may try

A caller for a live link counts its replacements and the rounds of each call apart.
So it may go through as many rounds as the square of its attempts, and pause once
less for each call.
-/

namespace RemoteMessaging

open Calls

variable {Λ : Type}

namespace Calls

private theorem length_flatMap_le {α β : Type} {items : List α}
    {parts : α → List β} {bound : Nat}
    (each : ∀ item ∈ items, (parts item).length ≤ bound) :
    (items.flatMap parts).length ≤ items.length * bound := by
  induction items with
  | nil => exact Nat.zero_le _
  | cons item items induction =>
      obtain ⟨first, others⟩ := List.forall_mem_cons.mp each
      have rest := induction others
      rw [List.flatMap_cons, List.length_append, List.length_cons, Nat.succ_mul]
      omega

/-- Bounds for the rounds and pauses of all calls of a caller. -/
theorem budget_of_tells {caller : Caller Λ}
    {earlier : List (List (Round Λ))} {rounds : List (Round Λ)}
    {log : List (Note Λ)} (tells : caller.Tells earlier rounds log) :
    (∀ delay ∈ delaysIn log, delay = caller.policy.backoff) ∧
      (roundsIn log).length ≤
        earlier.length * (caller.policy.retries.toNat + 1) + rounds.length ∧
      (delaysIn log).length ≤
        (earlier.length + 1) * caller.policy.retries.toNat := by
  obtain ⟨-, noDelays⟩ := nothingIn_opening caller.phase
  have delaysOf : delaysIn log = earlier.flatMap
      (fun call => delaysIn (Round.script caller.policy call)) ++
        delaysIn (Round.script caller.policy rounds) := by
    rw [tells.log, delaysIn_append, delaysIn_append, noDelays, List.append_nil,
      delaysIn, List.filterMap_flatMap]
    congr 1
    refine List.flatMap_congr fun call _ => ?_
    change delaysIn (Round.script caller.policy call ++ [.renews]) = _
    rw [delaysIn_append]
    exact List.append_nil _
  refine ⟨?_, ?_, ?_⟩
  · rw [delaysOf]
    intro delay member
    rcases List.mem_append.mp member with before | now
    · obtain ⟨call, -, among⟩ := List.mem_flatMap.mp before
      exact (Round.delaysIn_script caller.policy call).1 delay among
    · exact (Round.delaysIn_script caller.policy rounds).1 delay now
  · rw [tells.roundsIn_log, List.length_append]
    refine Nat.add_le_add_right (length_flatMap_le ?_) _
    intro call member
    obtain ⟨first, last, link, rfl, -, within, -⟩ := tells.settled call member
    rw [List.length_append, List.length_singleton]
    exact Nat.succ_le_succ within
  · rw [delaysOf, List.length_append, Nat.succ_mul]
    refine Nat.add_le_add (length_flatMap_le fun call _ => ?_) ?_
    · exact (Round.delaysIn_script caller.policy call).2.2
    · exact (Round.delaysIn_script caller.policy rounds).2.2

/-- However the steps of callers are interleaved, a caller that insists on a live
link goes through at most as many rounds as the square of its attempts, one that is
under way included, and pauses at most once less in each of its calls; one that
takes a dead link, too, has one call.  Each pause takes as long as the policy says.
Whatever the policy is, a caller may go through all these rounds and pauses before
it gets a link. -/
theorem rounds_within_budget :
    (∀ (actions : List (Action Λ)) (id : CallerId) (caller : Caller Λ),
      (start.run actions).callers[id]? = some caller →
        let log := logOf id (start.log actions)
        let retries := caller.policy.retries.toNat
        let begun :=
          (roundsIn log).length + if caller.outcome? = none then 1 else 0
        begun ≤ (retries + 1) * (retries + 1) ∧
        (delaysIn log).length ≤ (retries + 1) * retries ∧
        (∀ delay ∈ delaysIn log, delay = caller.policy.backoff) ∧
        (caller.replacements = none →
          begun ≤ retries + 1 ∧ (delaysIn log).length ≤ retries)) ∧
    (∀ (address : Address) (policy : RetryPolicy) (link : Λ),
      ∃ (actions : List (Action Λ)) (caller : Caller Λ) (serial : Nat),
        (start.run (.call address policy true :: actions)).callers =
          [caller] ∧
        caller.result? = some (.link ⟨serial, link⟩) ∧
        let log := logOf 0 (start.log (.call address policy true :: actions))
        let retries := policy.retries.toNat
        (roundsIn log).length = (retries + 1) * (retries + 1) ∧
        (delaysIn log).length = (retries + 1) * retries) := by
  constructor
  · intro actions id caller found log retries begun
    obtain ⟨earlier, rounds, tells⟩ :=
      (logged_run Caller.lasting_accounts actions).each id caller found
    obtain ⟨same, few, pauses⟩ := budget_of_tells tells
    obtain ⟨-, limit, goesOn⟩ := rounds_of_stands tells.stands
    have last : rounds.length + (if caller.outcome? = none then 1 else 0) ≤
        retries + 1 := by
      split
      · rename_i none
        exact Nat.succ_le_succ (goesOn none)
      · exact limit
    have within : begun ≤ (earlier.length + 1) * (retries + 1) := by
      have ended : (roundsIn log).length ≤
          earlier.length * (retries + 1) + rounds.length := few
      rw [Nat.succ_mul]
      omega
    have renewed := tells.renewed
    unfold Caller.Renewed at renewed
    have calls : earlier.length + 1 ≤ retries + 1 := by
      split at renewed <;> omega
    refine ⟨?_, ?_, same, ?_⟩
    · exact Nat.le_trans within (Nat.mul_le_mul_right _ calls)
    · exact Nat.le_trans pauses (Nat.mul_le_mul_right _ calls)
    · intro once
      simp only [once] at renewed
      rw [renewed, Nat.zero_add, Nat.one_mul] at within pauses
      exact ⟨within, pauses⟩
  · intro address policy link
    have missing : (LinkCache.empty : LinkCache Λ).find? address = none := rfl
    obtain ⟨last, after, -, ⟨serial, ends⟩, spends⟩ :=
      spends_calls (Caller.startLive 0 address policy) rfl rfl missing rfl link
        policy.retries.toNat rfl
    have begins : (start.call address policy true : Calls Λ).callers =
        [.startLive 0 address policy] := rfl
    obtain ⟨actions, alone, rounds, pauses⟩ := spends.exists_run begins rfl
    refine ⟨actions, last, serial, alone, ?_, rounds, pauses⟩
    simp [Caller.result?, ends]

/-- A caller with one retry: in both of its calls the first attempt is refused and
the second gets a link, the first of which is dead. -/
def retriedTwice (address : Address) (policy : RetryPolicy) :
    List (Action String) :=
  let refused : Attempt String := .failed (IoError.ofKind .connectionRefused)
  let attempts (link : String) (live : Bool) : List (Action String) :=
    List.flatten
      [List.replicate 4 (.turn 0), [.connected 0 refused, .turn 0, .resumed 0],
        List.replicate 3 (.turn 0), [.connected 0 (.connected link)],
        List.replicate 2 (.turn 0), [.judged 0 live, .turn 0]]
  .call address policy true :: (attempts "first" false ++ attempts "second" true)

theorem rounds_within_budget_of_retriedTwice :
    let address : Address := ⟨"peer", 9000⟩
    let policy : RetryPolicy := ⟨1, .ofMillis 5⟩
    let actions := retriedTwice address policy
    let caller : Caller String :=
      ⟨0, address, policy, some 0, 1, .finished (.link ⟨1, "second"⟩)⟩
    let log := logOf 0 (start.log actions)
    let retries := caller.policy.retries.toNat
    (start.run actions).callers[0]? = some caller ∧
      (roundsIn log).length = 4 ∧ delaysIn log = [.ofMillis 5, .ofMillis 5] ∧
      (delaysIn log).length ≤ (retries + 1) * retries := by
  intro address policy actions caller log retries
  have found : (start.run actions).callers[0]? = some caller := by
    decide +kernel
  obtain ⟨-, pauses, -, -⟩ := rounds_within_budget.1 actions 0 caller found
  refine ⟨found, ?_, ?_, pauses⟩
  · decide +kernel
  · decide +kernel

/-- A caller that insists on a live link may try more often than the policy of a
call allows. -/
theorem rounds_beyond_policy :
    ¬ ∀ (actions : List (Action String)) (id : CallerId)
      (caller : Caller String),
      (start.run actions).callers[id]? = some caller →
        let log := logOf id (start.log actions)
        (roundsIn log).length ≤ caller.policy.retries.toNat + 1 ∧
          (delaysIn log).length ≤ caller.policy.retries.toNat := by
  intro always
  let address : Address := ⟨"peer", 9000⟩
  let policy : RetryPolicy := ⟨1, .ofMillis 5⟩
  let caller : Caller String :=
    ⟨0, address, policy, some 0, 1, .finished (.link ⟨1, "second"⟩)⟩
  have found : (start.run (retriedTwice address policy)).callers[0]? =
      some caller := by
    decide +kernel
  obtain ⟨-, pauses⟩ := always (retriedTwice address policy) 0 caller found
  have twice : delaysIn (logOf 0
      (start.log (retriedTwice address policy))) =
        [.ofMillis 5, .ofMillis 5] := by
    decide +kernel
  rw [twice] at pauses
  exact absurd pauses (by decide)

end Calls

end RemoteMessaging
