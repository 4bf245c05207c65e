import RemoteMessaging.Proofs.Calls.Account
import RemoteMessaging.Proofs.Calls.Waiting

/-!
# What an error that counts attempts tells

A caller that wakes up without a link does not learn how the attempt of the other
one has failed, and counts the wait among its own attempts.  Each such wait is due
to a failed attempt of somebody else at the same address, which need not have been
refused.
-/

namespace RemoteMessaging

open Calls

variable {Λ : Type}

namespace Calls

/-! ## Counting -/

/-- An attempt for an address was given up as refused. -/
def Entry.refusedAt (address : Address) (entry : Entry Λ) : Bool :=
  match entry.note with
  | .ends .refused => entry.address = address
  | _ => false

/-- An attempt for an address was given up by somebody else in any other way. -/
def Entry.failedAt (address : Address) (id : CallerId) (entry : Entry Λ) :
    Bool :=
  match entry.note with
  | .ends (.failed _) | .ends .panicked =>
      entry.address = address ∧ entry.caller ≠ id
  | _ => false

def Round.isVain : Round Λ → Bool
  | .waited none => true
  | _ => false

def Round.isRefused : Round Λ → Bool
  | .refused => true
  | _ => false

theorem Round.countP_isVain {round? : Option (Round Λ)}
    (fruitful : round? ≠ some (.waited none)) :
    round?.toList.countP Round.isVain = 0 := by
  apply List.countP_eq_zero.mpr
  intro round member
  unfold Round.isVain
  split
  · exact (fruitful (Option.mem_toList.mp member)).elim
  · exact Bool.false_ne_true

def waitsOf (id : CallerId) (log : List (Entry Λ)) : Nat :=
  (roundsIn (logOf id log)).countP Round.isVain

/-- How many attempts for an address others have given up. -/
def failuresAt (address : Address) (id : CallerId) (log : List (Entry Λ)) :
    Nat :=
  log.countP fun entry => entry.caller ≠ id ∧
    (entry.refusedAt address ∨ entry.failedAt address id)

theorem waitsOf_append (id : CallerId) (first second : List (Entry Λ)) :
    waitsOf id (first ++ second) = waitsOf id first + waitsOf id second := by
  rw [waitsOf, logOf_append, roundsIn_append, List.countP_append]
  rfl

theorem failuresAt_append (address : Address) (id : CallerId)
    (first second : List (Entry Λ)) :
    failuresAt address id (first ++ second) =
      failuresAt address id first + failuresAt address id second :=
  List.countP_append

theorem waitsOf_connected (calls : Calls Λ) (id other : CallerId)
    (attempt : Attempt Λ) :
    waitsOf id (calls.entries (.connected other attempt)) = 0 := by
  simp only [entries]
  split
  · rfl
  · split
    · by_cases same : other = id <;>
        simp [waitsOf, logOf, same, roundsIn, Note.round?]
    · rfl

/-- What a caller waited for in vain is charged to the attempts that others have
given up. -/
structure Charged (address : Address) (policy : RetryPolicy) (id : CallerId)
    (calls : Calls Λ) (log : List (Entry Λ)) : Prop where
  known : id < calls.callers.length
  asks : ∀ caller, calls.callers[id]? = some caller →
    caller.address = address ∧ caller.policy = policy
  own : ∀ entry ∈ log, entry.caller = id → entry.address = address
  covered : waitsOf id log ≤ failuresAt address id log
  owed : ∀ phase, calls.phaseAt id = some phase → phase.Owed calls.cache →
    waitsOf id log < failuresAt address id log

namespace Charged

variable {address : Address} {policy : RetryPolicy} {id : CallerId}
  {calls next : Calls Λ} {log more : List (Entry Λ)} {owner : ReferenceId → Address}

theorem goesOn (charged : Charged address policy id calls log)
    (moves : Moves calls next more)
    (covered : waitsOf id log + waitsOf id more ≤
      failuresAt address id log + failuresAt address id more)
    (owed : ∀ phase, next.phaseAt id = some phase → phase.Owed next.cache →
      waitsOf id log + waitsOf id more <
        failuresAt address id log + failuresAt address id more) :
    Charged address policy id next (log ++ more) := by
  rw [← waitsOf_append, ← failuresAt_append] at covered owed
  obtain ⟨known, asks, own, -, -⟩ := charged
  cases moves with
  | still callers =>
      rw [List.append_nil] at *
      exact ⟨by rwa [callers], by rwa [callers], own, covered, owed⟩
  | begins other limits live callers =>
      rw [List.append_nil] at *
      refine ⟨?_, ?_, own, covered, owed⟩
      · rw [callers, List.length_append]
        exact Nat.lt_add_right _ known
      · rw [callers, List.getElem?_append_left known]
        exact asks
  | goes found goes callers =>
      rename_i mover caller after notes
      obtain ⟨below, -⟩ := List.getElem?_eq_some_iff.mp found
      refine ⟨?_, ?_, ?_, covered, owed⟩
      · rwa [callers, List.length_set]
      · intro caller' found'
        rw [callers] at found'
        by_cases same : mover = id
        · subst same
          rw [List.getElem?_set_self below] at found'
          obtain rfl := Option.some.inj found'
          obtain ⟨address, policy⟩ := Caller.limits_of_goes goes
          rw [address, policy]
          exact asks caller found
        · rw [List.getElem?_set_ne same] at found'
          exact asks caller' found'
      · intro entry member
        rcases List.mem_append.mp member with earlier | now
        · exact own entry earlier
        · obtain ⟨note, -, rfl⟩ := List.mem_map.mp now
          rintro rfl
          exact (asks caller found).1

theorem quiet (charged : Charged address policy id calls log)
    (moves : Moves calls next more)
    (waits : waitsOf id more = 0)
    (owed : ∀ phase, next.phaseAt id = some phase → phase.Owed next.cache →
      (∃ before, calls.phaseAt id = some before ∧ before.Owed calls.cache) ∨
        0 < failuresAt address id more) :
    Charged address policy id next (log ++ more) := by
  have covered := charged.covered
  apply charged.goesOn moves
  · omega
  intro phase found owes
  rcases owed phase found owes with ⟨before, found', owes'⟩ | paid
  · have less := charged.owed before found' owes'
    omega
  · omega

/-- Who waits is owed something after the turn of somebody else if it was before,
or if the other has given up an attempt for the same address. -/
theorem owed_of_turn_other (sound : Sound owner calls) {other : CallerId}
    {caller after : Caller Λ} {cache : LinkCache Λ} {warning : Option String}
    (found : calls.callers[other]? = some caller)
    (taken : caller.turn calls.cache = .step after cache warning)
    (different : other ≠ id) (charged : Charged address policy id calls log)
    {phase : Caller.Phase Λ} (waits : calls.phaseAt id = some phase)
    (owed : phase.Owed cache) :
    phase.Owed calls.cache ∨
      0 < failuresAt address id
        ((caller.notes calls.cache after cache).map
          (.mk other caller.address)) := by
  obtain ⟨waiting, found', rfl⟩ := phaseAt_eq_some_iff.mp waits
  have idle : ∀ reference, waiting.phase.reference? = some reference →
      (cache.reference reference).state = .idle →
        (calls.cache.reference reference).state = .idle ∨
          0 < failuresAt address id
            ((caller.notes calls.cache after cache).map
              (.mk other caller.address)) := by
    intro reference names now
    rcases Caller.idle_of_turn taken now with before | ⟨round, closes, fails, same⟩
    · exact .inl before
    · right
      obtain ⟨-, owns⟩ := (sound.fits id waiting found').known reference names
      obtain ⟨-, owns'⟩ := (sound.fits other caller found).known reference same
      have there : caller.address = address := by
        rw [← owns', owns, (charged.asks waiting found').1]
      have told : Note.ends round ∈ caller.notes calls.cache after cache := by
        simp [Caller.notes, closes]
      apply List.countP_pos_iff.mpr
      refine ⟨⟨other, caller.address, .ends round⟩,
        List.mem_map.mpr ⟨_, told, rfl⟩, ?_⟩
      cases round with
      | refused => simp [Entry.refusedAt, there, different]
      | failed error => simp [Entry.failedAt, there, different]
      | panicked => simp [Entry.failedAt, there, different]
      | _ => exact fails.elim
  cases phase : waiting.phase with
  | await reference | asleep reference =>
      rw [phase] at owed
      exact idle reference (by simp [phase, Caller.Phase.reference?]) owed
  | reread reference =>
      rw [phase] at owed
      exact .inl (Caller.stored_of_turn taken owed)
  | _ =>
      rw [phase] at owed
      exact owed.elim

theorem turn_other (sound : Sound owner calls) {other : CallerId}
    (different : other ≠ id) (charged : Charged address policy id calls log) :
    Charged address policy id (calls.turn other)
      (log ++ calls.entries (.turn other)) := by
  cases found : calls.callers[other]? with
  | none =>
      simpa [Calls.turn, entries, found] using charged
  | some caller =>
      cases taken : caller.turn calls.cache with
      | step next after warning =>
          have noted : calls.entries (.turn other) =
              (caller.notes calls.cache next after).map
                (.mk other caller.address) := by
            simp only [entries, found, taken]
          apply charged.quiet (sound.moves_turn other)
          · rw [noted, waitsOf, logOf_map, if_neg different]
            rfl
          · intro phase waits owes
            rw [phaseAt_turn_of_ne calls (Ne.symm different)] at waits
            rw [cache_turn_of_step found taken] at owes
            rw [noted]
            rcases charged.owed_of_turn_other sound found taken different waits
              owes with before | failed
            · exact .inl ⟨phase, waits, before⟩
            · exact .inr failed
      | _ => simpa [Calls.turn, entries, found, taken] using charged

theorem turn_self (sound : Sound owner calls)
    (charged : Charged address policy id calls log) :
    Charged address policy id (calls.turn id) (log ++ calls.entries (.turn id)) := by
  cases found : calls.callers[id]? with
  | none =>
      simpa [Calls.turn, entries, found] using charged
  | some caller =>
      cases taken : caller.turn calls.cache with
      | step next after warning =>
          have moves := sound.moves_turn id
          have waits : waitsOf id (calls.entries (.turn id)) =
              (caller.closes calls.cache).toList.countP Round.isVain := by
            simp only [entries, found, taken]
            rw [waitsOf, logOf_map, if_pos rfl, Caller.roundsIn_notes]
          have here : calls.phaseAt id = some caller.phase :=
            phaseAt_eq_some_iff.mpr ⟨caller, found, rfl⟩
          have there := phaseAt_turn_of_step found taken
          by_cases vain : caller.closes calls.cache = some (.waited none)
          · -- What the caller was owed is paid.
            obtain ⟨owes, rfl⟩ := Caller.vain_of_turn taken vain
            have less := charged.owed caller.phase here owes
            have one : waitsOf id (calls.entries (.turn id)) = 1 := by
              rw [waits, vain]
              rfl
            apply charged.goesOn moves
            · omega
            · intro phase found' owes'
              obtain rfl := Option.some.inj (there.symm.trans found')
              exact (caller.not_owed_advance _ owes').elim
          · -- It is owed nothing that it was not owed before.
            apply charged.quiet moves
            · rw [waits, Round.countP_isVain vain]
            · intro phase found' owes
              obtain rfl := Option.some.inj (there.symm.trans found')
              rw [cache_turn_of_step found taken] at owes
              refine .inl ⟨caller.phase, here, Caller.owed_of_turn taken ?_
                sound.established owes⟩
              intro reference names
              exact ((sound.fits id caller found).known reference names).1
      | _ => simpa [Calls.turn, entries, found, taken] using charged

theorem answer (charged : Charged address policy id calls log) {other : CallerId}
    (change : Caller Λ → Caller Λ)
    (moves : Moves calls (calls.answer other change) more)
    (waits : waitsOf id more = 0)
    (pays : ∀ caller, (change caller).phase.Owed calls.cache →
      caller.phase.Owed calls.cache) :
    Charged address policy id (calls.answer other change) (log ++ more) := by
  apply charged.quiet moves waits
  intro phase found owes
  left
  rw [cache_answer] at owes
  by_cases same : id = other
  · subst same
    cases found' : calls.callers[id]? with
    | none =>
        rw [Calls.answer, found'] at found
        exact ⟨phase, found, owes⟩
    | some caller =>
        rw [phaseAt_answer_self found'] at found
        obtain rfl := Option.some.inj found
        exact ⟨caller.phase, phaseAt_eq_some_iff.mpr ⟨caller, found', rfl⟩,
          pays caller owes⟩
  · rw [phaseAt_answer_of_ne calls same] at found
    exact ⟨phase, found, owes⟩

theorem elsewhere (charged : Charged address policy id calls log)
    (callers : next.callers = calls.callers)
    (references : ∀ reference, next.cache.reference reference =
      calls.cache.reference reference) :
    Charged address policy id next (log ++ []) := by
  refine charged.quiet (.still callers) rfl ?_
  intro phase found owes
  refine .inl ⟨phase, ?_, (Caller.Phase.owed_congr references phase).mp owes⟩
  rwa [phaseAt, callers] at found

theorem step (sound : Sound owner calls)
    (charged : Charged address policy id calls log) (action : Action Λ) :
    Charged address policy id (calls.step action)
      (log ++ calls.entries action) := by
  cases action with
  | call other limits live =>
      refine charged.quiet (sound.moves (.call other limits live)) rfl ?_
      intro phase found owes
      have different := Nat.ne_of_lt charged.known
      change (calls.call other limits live).phaseAt id = some phase at found
      rw [phaseAt_call_of_ne calls different] at found
      exact .inl ⟨phase, found, owes⟩
  | turn other =>
      by_cases same : other = id
      · subst same
        exact charged.turn_self sound
      · exact charged.turn_other sound same
  | connected other attempt =>
      refine charged.answer (·.connected attempt)
        (Sound.moves_connected calls other attempt)
        (calls.waitsOf_connected id other attempt) ?_
      intro caller owes
      unfold Caller.connected at owes
      split at owes
      · split at owes
        · exact owes.elim
        · split at owes <;> exact owes.elim
        · exact owes.elim
      · exact owes
  | resumed other =>
      refine charged.answer (·.resumed) (Sound.moves_resumed calls other) rfl ?_
      intro caller owes
      unfold Caller.resumed at owes
      split at owes
      · exact (caller.not_owed_advance _ owes).elim
      · exact owes
  | judged other live =>
      refine charged.answer (·.judged live)
        (Sound.moves_judged calls other live) rfl ?_
      intro caller owes
      unfold Caller.judged at owes
      split at owes
      · split at owes <;> exact owes.elim
      · exact owes
  | get other => exact charged.elsewhere rfl fun _ => rfl
  | evict other link =>
      exact charged.elsewhere rfl
        (LinkCache.reference_evictIf calls.cache other _)
  | evictIf other condition =>
      exact charged.elsewhere rfl
        (LinkCache.reference_evictIf calls.cache other condition)
  | clear =>
      exact charged.elsewhere rfl (LinkCache.reference_clear calls.cache)

theorem run (sound : Sound owner calls)
    (charged : Charged address policy id calls log)
    (actions : List (Action Λ)) :
    Charged address policy id (calls.run actions)
      (log ++ calls.log actions) := by
  induction actions generalizing owner calls log with
  | nil => rwa [Calls.log, noted, List.append_nil]
  | cons action actions induction =>
      obtain ⟨after, later⟩ := sound.step action
      have rest := induction later (charged.step sound action)
      rwa [List.append_assoc] at rest

theorem begins (calls : Calls Λ) (address : Address) (policy : RetryPolicy)
    (live : Bool) :
    Charged address policy calls.callers.length
      (calls.call address policy live) [] := by
  constructor
  · simp [Calls.call]
  · intro caller found
    have fresh : (calls.call address policy live).callers[calls.callers.length]? =
        some (if live then .startLive calls.callers.length address policy
          else .start calls.callers.length address policy) := by
      simp [Calls.call]
    obtain rfl := Option.some.inj (fresh.symm.trans found)
    split <;> exact ⟨rfl, rfl⟩
  · simp
  · exact Nat.le_refl 0
  · intro phase found owes
    rw [phaseAt_call_self] at found
    obtain rfl := Option.some.inj found
    exact owes.elim

end Charged

theorem Entry.charge {address : Address} {id : CallerId} (entry : Entry Λ)
    (own : entry.caller = id → entry.address = address) :
    (roundsIn (logOf id [entry])).countP Round.isRefused +
        failuresAt address id [entry] ≤
      [entry].countP (Entry.refusedAt address) +
        [entry].countP (Entry.failedAt address id) := by
  obtain ⟨caller, place, note⟩ := entry
  by_cases same : caller = id
  · obtain rfl := own same
    cases note with
    | ends round =>
        cases round <;>
          simp [logOf, roundsIn, Note.round?, failuresAt, Entry.refusedAt,
            Entry.failedAt, Round.isRefused, same]
    | _ =>
        simp [logOf, roundsIn, List.filterMap_cons, Note.round?, failuresAt,
          same]
  · by_cases refused : Entry.refusedAt address ⟨caller, place, note⟩
    · simp [logOf, failuresAt, roundsIn, same, refused]
    · simp [logOf, failuresAt, roundsIn, same, refused, List.countP_cons]

/-- A refused attempt of the caller, or of somebody else, is counted once. -/
theorem refusals_add_failures {address : Address} {id : CallerId}
    {log : List (Entry Λ)}
    (own : ∀ entry ∈ log, entry.caller = id → entry.address = address) :
    (roundsIn (logOf id log)).countP Round.isRefused +
        failuresAt address id log ≤
      log.countP (Entry.refusedAt address) +
        log.countP (Entry.failedAt address id) := by
  induction log with
  | nil => exact Nat.le_refl 0
  | cons entry log induction =>
      obtain ⟨here, others⟩ := List.forall_mem_cons.mp own
      have rest := induction others
      have first := entry.charge here
      rw [← List.singleton_append, logOf_append, roundsIn_append,
        failuresAt_append]
      simp only [List.countP_append]
      omega

theorem length_of_fruitless {rounds : List (Round Λ)}
    (fruitless : ∀ round ∈ rounds, round.Fruitless) :
    rounds.length =
      rounds.countP Round.isRefused + rounds.countP Round.isVain := by
  induction rounds with
  | nil => rfl
  | cons round rounds induction =>
      obtain ⟨first, others⟩ := List.forall_mem_cons.mp fruitless
      have rest := induction others
      rw [List.length_cons, List.countP_cons, List.countP_cons]
      cases round with
      | refused => simp [Round.isRefused, Round.isVain]; omega
      | waited found =>
          cases found with
          | none => simp [Round.isRefused, Round.isVain]; omega
          | some link => cases first
      | _ => cases first

/-- An error that counts the attempts of a call names its address.  It counts as
many as the policy allows, and no more than attempts that were given up for this
address during the call: as refused, by anybody, or in any other way by somebody
else, which the caller does not tell from a refusal. -/
theorem attempts_paid_by_failures (before during : List (Action Λ))
    (address named : Address) (policy : RetryPolicy) (live : Bool)
    (attempts : UInt32)
    (ends : (((start.run before).call address policy live).run
        during).callers[(start.run before).callers.length]?.bind
          Caller.result? = some (.error (.connect named attempts))) :
    let id := (start.run before).callers.length
    let log := ((start.run before).call address policy live).log during
    named = address ∧ attempts = policy.attempts ∧
      policy.retries.toNat + 1 ≤
        log.countP (Entry.refusedAt address) +
          log.countP (Entry.failedAt address id) := by
  intro id log
  obtain ⟨caller, found, result⟩ := Option.bind_eq_some_iff.mp ends
  obtain ⟨owner, sound⟩ := sound_run (Λ := Λ) before
  have begun := sound.call address policy live
  have charged :=
    (Charged.begins (start.run before) address policy live).run begun during
  rw [List.nil_append] at charged
  obtain ⟨rfl, rfl⟩ := charged.asks caller found
  have earlier := logged_run (Λ := Λ) Caller.lasting_accounts before
  have others : logOf id (start.log before) = [] := logOf_eq_nil earlier.named
  have accounts := ((earlier.step Caller.lasting_accounts
    (.begins caller.address caller.policy live rfl)).run
      Caller.lasting_accounts begun during).each id caller found
  rw [List.append_nil, logOf_append, others, List.nil_append] at accounts
  obtain ⟨settled, rounds, tells⟩ := accounts
  have outcome : caller.outcome? =
      some (.error (.connect named attempts)) := by
    unfold Caller.result? at result
    split at result
    · rename_i finished phase
      rw [Caller.outcome?, phase]
      exact result
    · cases result
  rcases (outcome_iff tells.stands _).mp outcome with
    ⟨last, -, fruit⟩ | ⟨count, fruitless, same⟩
  · -- No round has this error as its result.
    unfold Round.result? at fruit
    split at fruit <;> cases fruit
  · obtain ⟨rfl, rfl⟩ := Error.connect.inj (CallResult.error.inj same)
    refine ⟨rfl, rfl, ?_⟩
    have among : rounds.Sublist (roundsIn (logOf id log)) := by
      rw [tells.roundsIn_log]
      exact List.sublist_append_right _ rounds
    -- Each round was refused or a wait, and each wait is charged to a failure.
    calc caller.policy.retries.toNat + 1
      _ = rounds.countP Round.isRefused + rounds.countP Round.isVain := by
        rw [← count, length_of_fruitless fruitless]
      _ ≤ (roundsIn (logOf id log)).countP Round.isRefused + waitsOf id log :=
        Nat.add_le_add among.countP_le among.countP_le
      _ ≤ (roundsIn (logOf id log)).countP Round.isRefused +
          failuresAt caller.address id log :=
        Nat.add_le_add_left charged.covered _
      _ ≤ _ := refusals_add_failures charged.own

/-- Of two callers the first connects once while the second waits for it. -/
def waitedFor (attempt : Attempt String) : List (Action String) :=
  List.flatten
    [List.replicate 4 (.turn 0), List.replicate 4 (.turn 1),
      [.connected 0 attempt, .turn 0], List.replicate 3 (.turn 1)]

theorem attempts_paid_by_failures_of_waitedFor :
    let address : Address := ⟨"peer", 9000⟩
    let policy : RetryPolicy := ⟨0, .ofMillis 5⟩
    let denied := IoError.ofKind .permissionDenied
    let before : List (Action String) := [.call address policy false]
    let calls := (start.run before).call address policy false
    let log := calls.log (waitedFor (.failed denied))
    (calls.run (waitedFor (.failed denied))).callers.map Caller.result? =
        [some (.error (.io "connect" denied)),
          some (.error (.connect address 1))] ∧
      log.countP (Entry.refusedAt address) = 0 ∧
      policy.retries.toNat + 1 ≤
        log.countP (Entry.refusedAt address) +
          log.countP (Entry.failedAt address 1) := by
  intro address policy denied before calls log
  obtain ⟨-, -, paid⟩ := attempts_paid_by_failures before
    (waitedFor (.failed denied)) address address policy false 1
    (by decide +kernel)
  refine ⟨?_, ?_, paid⟩
  · decide +kernel
  · decide +kernel

/-- The error that counts refused attempts may be due to attempts none of which was
refused. -/
theorem connect_error_without_refusal :
    ¬ ∀ (before during : List (Action String)) (address named : Address)
      (policy : RetryPolicy) (live : Bool) (attempts : UInt32),
      let calls := (start.run before).call address policy live
      (calls.run during).callers[(start.run before).callers.length]?.bind
          Caller.result? = some (.error (.connect named attempts)) →
        ∃ entry ∈ calls.log during, entry.address = named ∧
          (entry.note = .hears .refused ∨ entry.note = .ends .refused) := by
  intro always
  let address : Address := ⟨"peer", 9000⟩
  let policy : RetryPolicy := ⟨0, .ofMillis 5⟩
  let denied : Attempt String := .failed (IoError.ofKind .permissionDenied)
  have refusal := always [.call address policy false] (waitedFor denied)
    address address policy false 1 (by decide +kernel)
  revert refusal
  decide +kernel

end Calls

end RemoteMessaging
