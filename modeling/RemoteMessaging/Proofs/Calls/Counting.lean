import RemoteMessaging.Proofs.Calls.Alone
import RemoteMessaging.Proofs.Calls.Trying
import RemoteMessaging.Proofs.Candidates

/-!
# How attempts are counted

The number of an attempt is told in each warning, and that of all attempts in the
error with which a call ends.  Both are counted in 32 bits, while a caller makes one
attempt more than the retries that these allow.  So the greatest number of retries is
the only one with which they are wrong.
-/

namespace RemoteMessaging

variable {σ Λ : Type}

/-! ## What a caller asks for and tells -/

/-- What the outside is asked for, or told. -/
inductive Outside.Event where
  | connects (address : Address)
  | warns (warning : String)
  | pauses (delay : Duration)
  deriving DecidableEq, Repr

/-- The same answers, with all that is asked for or told noted in order. -/
def Outside.recording (outside : Outside σ Λ) :
    Outside (List Outside.Event × σ) Λ where
  connect address cache state :=
    let (attempt, cache, told) := outside.connect address cache state.2
    (attempt, cache, state.1 ++ [.connects address], told)
  pause delay cache state :=
    let (cache, told) := outside.pause delay cache state.2
    (cache, state.1 ++ [.pauses delay], told)
  isLive link state :=
    let (live, told) := outside.isLive link state.2
    (live, state.1, told)
  warn warning state :=
    (state.1 ++ [.warns warning], outside.warn warning state.2)

/-- Every attempt is refused, and nobody else works on the cache meanwhile. -/
structure Outside.Refuses (outside : Outside σ Λ) : Prop where
  alone : outside.Alone
  refused : ∀ address cache state, ∃ error,
    (outside.connect address cache state).1 = .failed error ∧
      error.isConnectRefused = true

/-- Nobody listens, whatever the address. -/
def Outside.refusing : Outside Unit Λ where
  connect _ cache _ := (.failed (IoError.ofKind .connectionRefused), cache, ())
  pause _ cache _ := (cache, ())
  isLive _ _ := (true, ())
  warn _ _ := ()

theorem Outside.refuses_refusing : (Outside.refusing : Outside Unit Λ).Refuses :=
  ⟨⟨fun _ _ _ => rfl, fun _ _ _ => rfl⟩, fun _ _ _ => ⟨_, rfl, rfl⟩⟩

namespace Outside.Refuses

variable {outside : Outside σ Λ}

theorem connect_recording (refuses : outside.Refuses) (address : Address)
    (cache : LinkCache Λ) (events : List Outside.Event) (state : σ) :
    ∃ error told, outside.recording.connect address cache (events, state) =
        (.failed error, cache, events ++ [.connects address], told) ∧
      error.isConnectRefused = true := by
  obtain ⟨error, failed, refused⟩ := refuses.refused address cache state
  have kept := refuses.alone.connect address cache state
  refine ⟨error, (outside.connect address cache state).2.2, ?_, refused⟩
  rw [← failed]
  exact congrArg (fun after => (_, after, _, _)) kept

theorem pause_recording (refuses : outside.Refuses) (delay : Duration)
    (cache : LinkCache Λ) (events : List Outside.Event) (state : σ) :
    ∃ told, outside.recording.pause delay cache (events, state) =
      (cache, events ++ [.pauses delay], told) :=
  ⟨(outside.pause delay cache state).2,
    congrArg (fun after => (after, _, _)) (refuses.alone.pause delay cache state)⟩

end Outside.Refuses

namespace Caller

open Calls

/-! ## Refused attempts -/

def refusalText (number total : Nat) : String :=
  s!"connection refused, attempt {number} of {total}"

/-- What the outside is asked for and told in a refused attempt.  The number of the
attempt, which is counted from one, is told in 32 bits. -/
def refusedAttempt (address : Address) (policy : RetryPolicy) (index : Nat) :
    List Outside.Event :=
  [.connects address,
    .warns (refusalText ((index + 1) % UInt32.size) policy.attempts.toNat)] ++
    if index < policy.retries.toNat then [.pauses policy.backoff] else []

def refusedCall (address : Address) (policy : RetryPolicy) : List Outside.Event :=
  (List.range (policy.retries.toNat + 1)).flatMap (refusedAttempt address policy)

def connects (events : List Outside.Event) : Nat :=
  events.countP (· matches .connects _)

def warnings (events : List Outside.Event) : List String :=
  events.filterMap fun
    | .warns warning => some warning
    | _ => none

theorem connects_refusedAttempt (address : Address) (policy : RetryPolicy)
    (index : Nat) : connects (refusedAttempt address policy index) = 1 := by
  unfold refusedAttempt
  split <;> rfl

theorem warnings_refusedAttempt (address : Address) (policy : RetryPolicy)
    (index : Nat) :
    warnings (refusedAttempt address policy index) =
      [refusalText ((index + 1) % UInt32.size) policy.attempts.toNat] := by
  unfold refusedAttempt
  split <;> rfl

theorem connects_refusedCall (address : Address) (policy : RetryPolicy) :
    connects (refusedCall address policy) = policy.retries.toNat + 1 := by
  have each : List.countP (· matches .connects _) ∘ refusedAttempt address policy =
      fun _ => 1 :=
    funext (connects_refusedAttempt address policy)
  rw [connects, refusedCall, List.countP_flatMap, each]
  simp

theorem warnings_refusedCall (address : Address) (policy : RetryPolicy) :
    warnings (refusedCall address policy) =
      (List.range (policy.retries.toNat + 1)).map fun index =>
        refusalText ((index + 1) % UInt32.size) policy.attempts.toNat := by
  rw [warnings, refusedCall, List.filterMap_flatMap, List.map_eq_flatMap]
  exact List.flatMap_congr fun index _ => warnings_refusedAttempt address policy index

theorem refusal_eq (caller : Caller Λ) :
    caller.refusal = refusalText ((caller.attempt.toNat + 1) % UInt32.size)
      caller.policy.attempts.toNat := by
  have number : (caller.attempt + 1).toNat =
      (caller.attempt.toNat + 1) % UInt32.size := UInt32.toNat_add _ _
  rw [← number]
  rfl

section Refused

variable {outside : Outside σ Λ} {caller : Caller Λ} {cache : LinkCache Λ}
variable {id : ReferenceId}

theorem exists_passes_refused (refuses : outside.Refuses)
    (vacant : Vacant cache caller.address id)
    (more : caller.attempt < caller.policy.retries) (events : List Outside.Event) (state : σ) :
    ∃ told, Passes outside.recording (caller.enterPhase (.inspect id)) cache
      (events, state)
      { caller with attempt := caller.attempt + 1, phase := .inspect id } cache
      (events ++
        refusedAttempt caller.address caller.policy caller.attempt.toNat, told) := by
  obtain ⟨error, heard, tried, refused⟩ :=
    refuses.connect_recording caller.address (busy cache id) events state
  obtain ⟨told, waited⟩ := refuses.pause_recording caller.policy.backoff cache
    (events ++ [.connects caller.address] ++ [.warns caller.refusal])
    (outside.warn caller.refusal heard)
  have passes := passes_of_refused vacant tried refused more waited
  refine ⟨told, ?_⟩
  rw [refusedAttempt, if_pos (UInt32.lt_iff_toNat_lt.mp more), ← refusal_eq]
  simpa using passes

/-- All attempts up to the last. -/
theorem exists_passes_refusals (refuses : outside.Refuses) (count : Nat)
    (caller : Caller Λ) (vacant : Vacant cache caller.address id)
    (enough : caller.attempt.toNat + count = caller.policy.retries.toNat)
    (events : List Outside.Event) (state : σ) :
    ∃ told, Passes outside.recording (caller.enterPhase (.inspect id)) cache
      (events, state)
      { caller with attempt := caller.policy.retries, phase := .inspect id } cache
      (events ++ (List.range' caller.attempt.toNat count).flatMap
        (refusedAttempt caller.address caller.policy), told) := by
  induction count generalizing caller events state with
  | zero =>
      have last : caller.attempt = caller.policy.retries := UInt32.toNat_inj.mp enough
      refine ⟨state, ?_⟩
      rw [← last, List.range'_zero, List.flatMap_nil, List.append_nil]
      exact .here _ _ _
  | succ count induction =>
      have more : caller.attempt < caller.policy.retries :=
        UInt32.lt_iff_toNat_lt.mpr (by omega)
      have next := toNat_next_attempt more
      obtain ⟨heard, first⟩ := exists_passes_refused refuses vacant more events state
      obtain ⟨told, rest⟩ := induction { caller with attempt := caller.attempt + 1 }
        vacant (by simp only [next]; omega)
        (events ++ refusedAttempt caller.address caller.policy caller.attempt.toNat)
        heard
      refine ⟨told, first.trans ?_⟩
      rw [List.range'_succ, List.flatMap_cons, ← List.append_assoc, ← next]
      exact rest

variable {address : Address}

theorem exists_passes_last (refuses : outside.Refuses) (id : CallerId)
    (policy : RetryPolicy) (unlinked : cache.Unlinked address) (state : σ) :
    let caller : Caller Λ := start id address policy
    ∃ reference entered told, Vacant entered address reference ∧
      Passes outside.recording caller cache ([], state)
        { caller with attempt := policy.retries, phase := .inspect reference } entered
        ((List.range policy.retries.toNat).flatMap (refusedAttempt address policy),
          told) := by
  intro caller
  obtain ⟨reference, entered, vacant, -, -, -, begins⟩ :=
    exists_vacant_passes outside.recording caller unlinked
  obtain ⟨told, passes⟩ := exists_passes_refusals refuses policy.retries.toNat caller
    vacant (Nat.zero_add _) [] state
  refine ⟨reference, entered, told, vacant, (begins ([], state)).trans ?_⟩
  rw [List.range_eq_range']
  exact passes

theorem exists_passes_last_refusal (refuses : outside.Refuses) (id : CallerId)
    (policy : RetryPolicy) (unlinked : cache.Unlinked address) (state : σ) :
    ∃ place after told, Passes outside.recording (start id address policy) cache
        ([], state) place after told ∧
      (∃ reference, place.phase = .refused reference) ∧
      place.attempt = policy.retries := by
  obtain ⟨reference, entered, heard, vacant, passes⟩ :=
    exists_passes_last refuses id policy unlinked state
  obtain ⟨error, told, tried, refused⟩ :=
    refuses.connect_recording address (busy entered reference) _ heard
  let last : Caller Λ := { start id address policy with attempt := policy.retries }
  have here : Vacant entered last.address reference := vacant
  exact ⟨_, _, _, passes.trans (passes_refused here tried refused), ⟨reference, rfl⟩,
    rfl⟩

theorem exists_returns_refused (refuses : outside.Refuses) (id : CallerId)
    (policy : RetryPolicy) (unlinked : cache.Unlinked address) (state : σ) :
    ∃ after told, (start id address policy).Returns outside.recording cache
      ([], state) (.error (.connect address policy.attempts)) after
      (refusedCall address policy, told) := by
  obtain ⟨reference, entered, heard, vacant, passes⟩ :=
    exists_passes_last refuses id policy unlinked state
  obtain ⟨error, told, tried, refused⟩ :=
    refuses.connect_recording address (busy entered reference) _ heard
  let last : Caller Λ := { start id address policy with attempt := policy.retries }
  have here : Vacant entered last.address reference := vacant
  obtain ⟨final, ends, ended⟩ := returns_of_refused here tried refused rfl
  have whole : refusedCall address policy =
      (List.range policy.retries.toNat).flatMap (refusedAttempt address policy) ++
        [.connects address] ++ [.warns last.refusal] := by
    rw [refusedCall, List.range_succ, List.flatMap_append, List.flatMap_singleton,
      refusedAttempt, if_neg (Nat.lt_irrefl _), refusal_eq]
    simp [last, start]
  refine ⟨entered, outside.warn last.refusal told, final, ?_, ended⟩
  rw [whole]
  exact passes.run_eq.trans ends

end Refused

/-! ## The counter -/

/-- A caller has a policy, of which it has not exceeded the retries. -/
structure Within (policy : RetryPolicy) (caller : Caller Λ) : Prop where
  same : caller.policy = policy
  count : caller.attempt ≤ policy.retries

namespace Within

variable {policy : RetryPolicy} {caller next : Caller Λ}
variable {cache after : LinkCache Λ}

theorem enterPhase (within : Within policy caller) (phase : Phase Λ) :
    Within policy (caller.enterPhase phase) :=
  ⟨within.same, within.count⟩

theorem advance (within : Within policy caller) : Within policy caller.advance := by
  unfold Caller.advance
  split
  · exact within.enterPhase _
  · rename_i last
    have more : caller.attempt < caller.policy.retries := by
      rw [within.same] at last ⊢
      exact UInt32.lt_of_le_of_ne within.count last
    refine ⟨within.same, UInt32.le_iff_toNat_le.mpr ?_⟩
    rw [toNat_next_attempt more, ← within.same]
    exact UInt32.lt_iff_toNat_lt.mp more

theorem obtain (within : Within policy caller) (link : Issued Λ) :
    Within policy (caller.obtain link) := by
  unfold Caller.obtain
  split <;> exact within.enterPhase _

theorem replace (within : Within policy caller) (link : Issued Λ) :
    Within policy (caller.replace link) := by
  unfold Caller.replace
  split
  · exact within.enterPhase _
  · split
    · exact within.enterPhase _
    · exact ⟨within.same, UInt32.zero_le⟩

theorem turn (within : Within policy caller) {warning : Option String}
    (taken : caller.turn cache = .step next after warning) : Within policy next := by
  unfold Caller.turn at taken
  cases phase : caller.phase <;> simp only [phase] at taken
  case inspect id =>
    split at taken <;> obtain ⟨rfl, -, -⟩ := Turn.step.inj taken
    · exact within.obtain _
    · exact within.enterPhase _
  case reread id =>
    split at taken <;> obtain ⟨rfl, -, -⟩ := Turn.step.inj taken
    · exact within.obtain _
    · exact within.advance
  case publish id link =>
    obtain ⟨rfl, -, -⟩ := Turn.step.inj taken
    exact within.obtain _
  case refused id =>
    obtain ⟨rfl, -, -⟩ := Turn.step.inj taken
    split
    · exact within.enterPhase _
    · exact within.advance
  case discard link =>
    obtain ⟨rfl, -, -⟩ := Turn.step.inj taken
    exact within.replace _
  all_goals
    try split at taken
    all_goals
      cases taken
      try exact within.enterPhase _

theorem connected (within : Within policy caller) (attempt : Attempt Λ) :
    Within policy (caller.connected attempt) := by
  unfold Caller.connected
  split
  · cases attempt with
    | failed error =>
        simp only
        split <;> exact within.enterPhase _
    | _ => exact within.enterPhase _
  · exact within

theorem resumed (within : Within policy caller) : Within policy caller.resumed := by
  unfold Caller.resumed
  split
  · exact within.advance
  · exact within

theorem judged (within : Within policy caller) (live : Bool) :
    Within policy (caller.judged live) := by
  unfold Caller.judged
  split
  · split <;> exact within.enterPhase _
  · exact within

theorem passes {outside : Outside σ Λ} {place : Caller Λ} {held : LinkCache Λ}
    {state told : σ} (within : Within policy caller)
    (passes : Passes outside caller cache state place held told) :
    Within policy place := by
  induction passes with
  | here => exact within
  | turn taken _ _ induction => exact induction (within.turn taken)
  | connected _ _ _ induction => exact induction (within.connected _)
  | resumed _ _ _ induction => exact induction within.resumed
  | judged _ _ _ induction => exact induction (within.judged _)

end Within

/-! ## Exact counts -/

/-- Wherever a call goes, the number of its attempt fits the counter.  At last it fails
with an error that tells how many attempts there were, each of which has given a warning
with its own number and one that none of them exceeds. -/
structure CountsAttempts (outside : Outside σ Λ) (caller : Caller Λ)
    (cache : LinkCache Λ) (state : σ) : Prop where
  fits : ∀ place after told,
    Passes outside.recording caller cache ([], state) place after told →
      place.attempt.toNat + 1 < UInt32.size
  tells : ∃ attempts after events told total,
    caller.Returns outside.recording cache ([], state)
        (.error (.connect caller.address attempts)) after (events, told) ∧
      attempts.toNat = connects events ∧
      warnings events =
        (List.range' 1 (connects events)).map (refusalText · total) ∧
      connects events ≤ total

theorem toNat_attempts (policy : RetryPolicy) :
    policy.attempts.toNat = min (policy.retries.toNat + 1) (UInt32.size - 1) :=
  PortAllocator.toNat_saturatingAdd policy.retries 1

section Counts

variable {outside : Outside σ Λ} {cache : LinkCache Λ} {address : Address}
variable {policy : RetryPolicy}

theorem warnings_refusedCall_of_lt (below : policy.retries.toNat + 1 < UInt32.size) :
    warnings (refusedCall address policy) =
      (List.range' 1 (policy.retries.toNat + 1)).map
        (refusalText · policy.attempts.toNat) := by
  rw [warnings_refusedCall, List.range'_eq_map_range, List.map_map]
  refine List.map_congr_left fun index member => ?_
  have early := List.mem_range.mp member
  rw [Nat.mod_eq_of_lt (by omega), Nat.add_comm index 1]
  rfl

theorem countsAttempts_of_lt (refuses : outside.Refuses) (id : CallerId)
    (unlinked : cache.Unlinked address) (state : σ)
    (below : policy.retries.toNat + 1 < UInt32.size) :
    (start id address policy).CountsAttempts outside cache state := by
  have all : policy.attempts.toNat = policy.retries.toNat + 1 := by
    rw [toNat_attempts]
    omega
  constructor
  · intro place after told passes
    have begins : Within policy (start id address policy : Caller Λ) :=
      ⟨rfl, UInt32.zero_le⟩
    have count := UInt32.le_iff_toNat_le.mp (begins.passes passes).count
    omega
  · obtain ⟨after, told, returns⟩ :=
      exists_returns_refused refuses id policy unlinked state
    refine ⟨policy.attempts, after, _, told, policy.attempts.toNat, returns, ?_⟩
    rw [connects_refusedCall, warnings_refusedCall_of_lt below]
    exact ⟨all, rfl, Nat.le_of_eq all.symm⟩

/-- With the greatest number of retries, there is no number for the last attempt. -/
theorem exists_passes_overflow (refuses : outside.Refuses) (id : CallerId)
    (unlinked : cache.Unlinked address) (state : σ)
    (most : policy.retries.toNat + 1 = UInt32.size) :
    ∃ place after told, Passes outside.recording (start id address policy) cache
        ([], state) place after told ∧
      (∃ reference, place.phase = .refused reference) ∧
      place.attempt.toNat + 1 = UInt32.size := by
  obtain ⟨place, after, told, passes, refused, last⟩ :=
    exists_passes_last_refusal refuses id policy unlinked state
  exact ⟨place, after, told, passes, refused, last ▸ most⟩

theorem countsAttempts_iff (refuses : outside.Refuses) (id : CallerId)
    (unlinked : cache.Unlinked address) (state : σ) :
    (start id address policy).CountsAttempts outside cache state ↔
      policy.retries.toNat + 1 < UInt32.size := by
  constructor
  · intro counts
    apply Nat.lt_of_le_of_ne policy.retries.toNat_lt_size
    intro most
    obtain ⟨place, after, told, passes, -, last⟩ :=
      exists_passes_overflow refuses id unlinked state most
    exact Nat.ne_of_lt (counts.fits place after told passes) last
  · exact countsAttempts_of_lt refuses id unlinked state

end Counts

/-- A call at an address that refuses every attempt makes one attempt more than the
retries of its policy, and fails.  Its counts are exact unless the retries are as many
as 32 bits can tell: then the last attempt has no number, and the error tells of one
attempt less than there were.

Before that, any callers may have used the cache, if those at the address have
ended and left no link there. -/
theorem counts_attempts_below_limit (outside : Outside σ Λ)
    (refuses : outside.Refuses) (earlier : List (Calls.Action Λ)) (id : CallerId)
    (address : Address) (policy : RetryPolicy) (state : σ)
    (ended : ∀ caller ∈ (Calls.start.run earlier).callers,
      caller.address = address → caller.result?.isSome = true)
    (missing : (Calls.start.run earlier).cache.get? address = none) :
    let caller : Caller Λ := start id address policy
    let cache := (Calls.start.run earlier).cache
    (∃ after told, caller.Returns outside.recording cache ([], state)
        (.error (.connect address policy.attempts)) after
        (refusedCall address policy, told)) ∧
      connects (refusedCall address policy) = policy.retries.toNat + 1 ∧
      policy.attempts.toNat = min (policy.retries.toNat + 1) (UInt32.size - 1) ∧
      (caller.CountsAttempts outside cache state ↔
        policy.retries.toNat + 1 < UInt32.size) ∧
      (policy.retries.toNat + 1 = UInt32.size → ∃ place after told,
        Passes outside.recording caller cache ([], state) place after told ∧
          (∃ reference, place.phase = .refused reference) ∧
          place.attempt.toNat + 1 = UInt32.size) := by
  intro caller cache
  obtain ⟨owner, sound⟩ := Calls.sound_run earlier
  have unlinked : cache.Unlinked address := sound.unlinked ended missing
  exact ⟨exists_returns_refused refuses id policy unlinked state,
    connects_refusedCall address policy, toNat_attempts policy,
    countsAttempts_iff refuses id unlinked state,
    exists_passes_overflow refuses id unlinked state⟩

/-- An earlier call has timed out; now three attempts are refused. -/
theorem counts_attempts_below_limit_of_three :
    let address : Address := ⟨"peer", 9000⟩
    let policy : RetryPolicy := ⟨2, .ofMillis 10⟩
    let earlier : List (Calls.Action String) :=
      .call address policy false :: List.replicate 4 (.turn 0) ++
        [.connected 0 (.failed (IoError.ofKind .timedOut)), .turn 0]
    let caller : Caller String := start 1 address policy
    let cache := (Calls.start.run earlier).cache
    cache.find? address = some 0 ∧ caller.CountsAttempts .refusing cache () ∧
      ∃ after told, caller.Returns Outside.refusing.recording cache ([], ())
        (.error (.connect address 3)) after
        ([.connects address, .warns "connection refused, attempt 1 of 3",
            .pauses (.ofMillis 10),
            .connects address, .warns "connection refused, attempt 2 of 3",
            .pauses (.ofMillis 10),
            .connects address, .warns "connection refused, attempt 3 of 3"],
          told) := by
  intro address policy earlier caller cache
  have ended : ∀ caller ∈ (Calls.start.run earlier).callers,
      caller.address = address → caller.result?.isSome = true := by
    decide
  obtain ⟨returns, -, -, counts, -⟩ := counts_attempts_below_limit .refusing
    Outside.refuses_refusing earlier 1 address policy () ended (by decide)
  have whole : refusedCall address policy =
      [.connects address, .warns "connection refused, attempt 1 of 3",
        .pauses (.ofMillis 10),
        .connects address, .warns "connection refused, attempt 2 of 3",
        .pauses (.ofMillis 10),
        .connects address, .warns "connection refused, attempt 3 of 3"] := by
    decide +kernel
  have three : policy.attempts = 3 := rfl
  rw [whole, three] at returns
  exact ⟨by decide, counts.mpr (by decide), returns⟩

/-- With the greatest number of retries, the connector is called once more often than
the error tells, and the last attempt is said to be the one with the number zero. -/
theorem miscounts_with_most_retries :
    let address : Address := ⟨"peer", 9000⟩
    let policy : RetryPolicy := ⟨0xffffffff, .ofMillis 0⟩
    let caller : Caller String := start 0 address policy
    ¬ caller.CountsAttempts .refusing .empty () ∧
      (∃ after told, caller.Returns Outside.refusing.recording .empty ([], ())
        (.error (.connect address 0xffffffff)) after
        (refusedCall address policy, told)) ∧
      connects (refusedCall address policy) = 0xffffffff + 1 ∧
      (warnings (refusedCall address policy))[0xffffffff]? =
        some "connection refused, attempt 0 of 4294967295" := by
  intro address policy caller
  obtain ⟨owner, sound⟩ := Calls.sound_run ([] : List (Calls.Action String))
  have unlinked : (LinkCache.empty : LinkCache String).Unlinked address :=
    sound.unlinked (fun _ nobody => (List.not_mem_nil nobody).elim) rfl
  refine ⟨?_, exists_returns_refused Outside.refuses_refusing 0 policy unlinked (),
    connects_refusedCall address policy, ?_⟩
  · rw [countsAttempts_iff Outside.refuses_refusing 0 unlinked ()]
    decide
  · have number : (0xffffffff + 1) % UInt32.size = 0 := by decide
    have total : policy.attempts.toNat = 4294967295 := by decide
    rw [warnings_refusedCall, List.getElem?_map, List.getElem?_range (by decide),
      Option.map_some, number, total]
    decide +kernel

end Caller

end RemoteMessaging
