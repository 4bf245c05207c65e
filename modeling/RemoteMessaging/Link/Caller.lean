import RemoteMessaging.Config.Basic
import RemoteMessaging.Link.Cache

/-!
# Callers that establish links

A caller asks for the link to an address.  It takes the cached link, or connects
if nobody else does, or sleeps until somebody else has tried.  A refused attempt
is repeated after a pause; every other failure ends the call.  A caller may also
insist on a link that is live when it is handed over.

A caller is a machine of atomic steps, so that the steps of several callers can
be interleaved.  Steps on the cache are taken by `turn`.  Connecting, pausing and
looking whether a link is live happen outside, and their answers bring the caller
on by `connected`, `resumed` and `judged`.
-/

namespace RemoteMessaging

/-- How an attempt to connect ends. -/
inductive Attempt (Λ : Type) where
  | connected (link : Λ)
  | failed (error : IoError)
  | panicked
  deriving DecidableEq, Repr

/-- What a call ends with. -/
inductive CallResult (Λ : Type) where
  | link (link : Issued Λ)
  | error (error : Error)
  | panicked
  deriving DecidableEq, Repr

/-- Where a caller stands, mostly just before a step on the reference that it
names. -/
inductive Caller.Phase (Λ : Type) where
  /-- About to look for the entry. -/
  | lookup
  /-- There was no entry: about to make one. -/
  | enter
  /-- About to look for the link. -/
  | inspect (id : ReferenceId)
  /-- There was no link: about to try to become the one who connects. -/
  | claim (id : ReferenceId)
  /-- Somebody else connects: about to wait. -/
  | await (id : ReferenceId)
  | asleep (id : ReferenceId)
  /-- The attempt of somebody else is settled: about to look for the link. -/
  | reread (id : ReferenceId)
  | connecting (id : ReferenceId)
  /-- Connected: about to store the link. -/
  | store (id : ReferenceId) (link : Λ)
  /-- The link is stored: about to settle. -/
  | publish (id : ReferenceId) (link : Issued Λ)
  /-- Refused: about to give up the right to connect. -/
  | refused (id : ReferenceId)
  | failed (id : ReferenceId) (error : IoError)
  | panicking (id : ReferenceId)
  | pausing
  | judging (link : Issued Λ)
  /-- The link is dead: about to evict it. -/
  | discard (link : Issued Λ)
  | finished (result : CallResult Λ)
  deriving DecidableEq, Repr

/-- A call under way. -/
structure Caller (Λ : Type) where
  id : CallerId
  address : Address
  policy : RetryPolicy
  /-- How often a dead link may still be replaced; none if dead links will
  do. -/
  replacements : Option UInt32
  /-- The number of the attempt, from zero. -/
  attempt : UInt32
  phase : Caller.Phase Λ
  deriving DecidableEq, Repr

/-- What a caller does next. -/
inductive Turn (Λ : Type) where
  | step (caller : Caller Λ) (cache : LinkCache Λ) (warning : Option String)
  | connect
  | pause (delay : Duration)
  | judge (link : Issued Λ)
  | sleep
  | done (result : CallResult Λ)

namespace Caller

variable {Λ : Type}

def start (id : CallerId) (address : Address) (policy : RetryPolicy) :
    Caller Λ :=
  ⟨id, address, policy, none, 0, .lookup⟩

/-- A caller for a live link.  A dead one is replaced as often as a refused
attempt is repeated. -/
def startLive (id : CallerId) (address : Address) (policy : RetryPolicy) :
    Caller Λ :=
  ⟨id, address, policy, some policy.retries, 0, .lookup⟩

def enterPhase (caller : Caller Λ) (phase : Phase Λ) : Caller Λ :=
  { caller with phase := phase }

def finish (caller : Caller Λ) (result : CallResult Λ) : Caller Λ :=
  caller.enterPhase (.finished result)

/-- Goes on with the next attempt, or gives up after the last. -/
def advance (caller : Caller Λ) : Caller Λ :=
  if caller.attempt = caller.policy.retries then
    caller.finish (.error (.connect caller.address caller.policy.attempts))
  else { caller with attempt := caller.attempt + 1, phase := .lookup }

def obtain (caller : Caller Λ) (link : Issued Λ) : Caller Λ :=
  match caller.replacements with
  | none => caller.finish (.link link)
  | some _ => caller.enterPhase (.judging link)

/-- Goes on after a dead link has been evicted: with a new round of attempts, or
with the dead link if it may not be replaced any more. -/
def replace (caller : Caller Λ) (link : Issued Λ) : Caller Λ :=
  match caller.replacements with
  | none => caller.finish (.link link)
  | some left =>
      if left = 0 then caller.finish (.link link)
      else
        { caller with
          replacements := some (left - 1)
          attempt := 0
          phase := .lookup }

def refusal (caller : Caller Λ) : String :=
  s!"connection refused, attempt {caller.attempt + 1} of {caller.policy.attempts}"

/-- What the caller does next with the cache as it is. -/
def turn (caller : Caller Λ) (cache : LinkCache Λ) : Turn Λ :=
  let go (phase : Phase Λ) (cache : LinkCache Λ) : Turn Λ :=
    .step (caller.enterPhase phase) cache none
  match caller.phase with
  | .lookup =>
      match cache.find? caller.address with
      | some id => go (.inspect id) cache
      | none => go .enter cache
  | .enter =>
      let (id, cache) := cache.enter caller.address
      go (.inspect id) cache
  | .inspect id =>
      match (cache.reference id).stored with
      | some link => .step (caller.obtain link) cache none
      | none => go (.claim id) cache
  | .claim id =>
      let (won, cache) := cache.claim id
      go (if won then .connecting id else .await id) cache
  | .await id =>
      let (asleep, cache) := cache.await id caller.id
      go (if asleep then .asleep id else .reread id) cache
  | .asleep id =>
      if caller.id ∈ (cache.reference id).sleepers then .sleep
      else go (.await id) cache
  | .reread id =>
      match (cache.reference id).stored with
      | some link => .step (caller.obtain link) cache none
      | none => .step caller.advance cache none
  | .connecting _ => .connect
  | .store id link =>
      let (stored, cache) := cache.store id link
      go (.publish id stored) cache
  | .publish id link =>
      .step (caller.obtain link) (cache.settle id .established) none
  | .refused id =>
      let next :=
        if caller.attempt < caller.policy.retries then
          caller.enterPhase .pausing
        else caller.advance
      .step next (cache.settle id .idle) (some caller.refusal)
  | .failed id error =>
      .step (caller.finish (.error (.io "connect" error)))
        (cache.settle id .idle) none
  | .panicking id =>
      .step (caller.finish .panicked) (cache.settle id .idle) none
  | .pausing => .pause caller.policy.backoff
  | .judging link => .judge link
  | .discard link =>
      .step (caller.replace link) (cache.evict caller.address link).2 none
  | .finished result => .done result

def connected (caller : Caller Λ) (attempt : Attempt Λ) : Caller Λ :=
  match caller.phase with
  | .connecting id =>
      match attempt with
      | .connected link => caller.enterPhase (.store id link)
      | .failed error =>
          if error.isConnectRefused then caller.enterPhase (.refused id)
          else caller.enterPhase (.failed id error)
      | .panicked => caller.enterPhase (.panicking id)
  | _ => caller

def resumed (caller : Caller Λ) : Caller Λ :=
  match caller.phase with
  | .pausing => caller.advance
  | _ => caller

def judged (caller : Caller Λ) (live : Bool) : Caller Λ :=
  match caller.phase with
  | .judging link =>
      if live then caller.finish (.link link)
      else caller.enterPhase (.discard link)
  | _ => caller

def result? (caller : Caller Λ) : Option (CallResult Λ) :=
  match caller.phase with
  | .finished result => some result
  | _ => none

/-- The caller sleeps, or has been woken and has not noticed yet. -/
def isAsleep (caller : Caller Λ) : Bool :=
  match caller.phase with
  | .asleep _ => true
  | _ => false

theorem phase_of_result? {caller : Caller Λ} {result : CallResult Λ}
    (ended : caller.result? = some result) : caller.phase = .finished result := by
  unfold result? at ended
  split at ended
  · rename_i result phase
    obtain rfl := Option.some.inj ended
    exact phase
  · cases ended

theorem not_isAsleep_of_result? {caller : Caller Λ} {result : CallResult Λ}
    (ended : caller.result? = some result) : caller.isAsleep = false := by
  simp only [isAsleep, phase_of_result? ended]

/-- The place of a phase within an attempt: without a sleep, phases follow one
another in descending order. -/
def Phase.rank : Phase Λ → Nat
  | .lookup => 14
  | .enter => 13
  | .inspect _ => 12
  | .claim _ => 11
  | .asleep _ => 10
  | .await _ => 9
  | .reread _ => 8
  | .connecting _ => 7
  | .store .. => 6
  | .publish .. => 5
  | .refused _ => 4
  | .failed .. => 4
  | .panicking _ => 4
  | .pausing => 3
  | .judging _ => 2
  | .discard _ => 1
  | .finished _ => 0

def left (caller : Caller Λ) : Nat × Nat :=
  ((caller.replacements.getD 0).toNat,
    (caller.policy.retries - caller.attempt).toNat)

theorem toNat_next_attempt {caller : Caller Λ}
    (more : caller.attempt < caller.policy.retries) :
    (caller.attempt + 1).toNat = caller.attempt.toNat + 1 := by
  have less := UInt32.lt_iff_toNat_lt.mp more
  have bound := UInt32.toNat_lt caller.policy.retries
  rw [UInt32.toNat_add, UInt32.toNat_one]
  omega

/-- One caller is behind another in the same call. -/
def Precedes (next caller : Caller Λ) : Prop :=
  Prod.Lex (· < ·) (Prod.Lex (· < ·) (· < ·))
    (next.left.1, next.left.2, next.phase.rank)
    (caller.left.1, caller.left.2, caller.phase.rank)

theorem precedes_enterPhase {caller : Caller Λ} {phase : Phase Λ}
    (lower : phase.rank < caller.phase.rank) :
    Precedes (caller.enterPhase phase) caller :=
  .right _ (.right _ lower)

theorem precedes_finish {caller : Caller Λ} {result : CallResult Λ}
    (positive : 0 < caller.phase.rank) :
    Precedes (caller.finish result) caller :=
  precedes_enterPhase positive

theorem precedes_advance {caller : Caller Λ}
    (positive : 0 < caller.phase.rank) : Precedes caller.advance caller := by
  unfold advance
  split
  · exact precedes_finish positive
  · rename_i more
    refine .right _ (.left _ _ ?_)
    simp only [left]
    have apart : caller.policy.retries.toNat ≠ caller.attempt.toNat := by
      intro same
      exact more (UInt32.toNat_inj.mp same).symm
    have retries := UInt32.toNat_lt caller.policy.retries
    have attempt := UInt32.toNat_lt caller.attempt
    simp only [UInt32.toNat_sub, UInt32.toNat_add, UInt32.toNat_one]
    omega

theorem precedes_obtain {caller : Caller Λ} {link : Issued Λ}
    (above : 2 < caller.phase.rank) : Precedes (caller.obtain link) caller := by
  unfold obtain
  split
  · exact precedes_finish (by omega)
  · exact precedes_enterPhase above

theorem precedes_replace {caller : Caller Λ} {link : Issued Λ}
    (positive : 0 < caller.phase.rank) :
    Precedes (caller.replace link) caller := by
  unfold replace
  split
  · exact precedes_finish positive
  · rename_i left known
    split
    · exact precedes_finish positive
    · rename_i more
      refine .left _ _ ?_
      simp only [Caller.left, known, Option.getD_some]
      have apart : left.toNat ≠ 0 := by
        intro same
        exact more (UInt32.toNat_inj.mp same)
      have bound := UInt32.toNat_lt left
      simp only [UInt32.toNat_sub, UInt32.toNat_one]
      omega

theorem precedes_of_turn {caller next : Caller Λ} {cache after : LinkCache Λ}
    {warning : Option String}
    (taken : caller.turn cache = .step next after warning)
    (awake : next.isAsleep = false) : Precedes next caller := by
  unfold turn at taken
  split at taken
  all_goals rename_i phase
  · split at taken <;> obtain ⟨rfl, -, -⟩ := Turn.step.inj taken <;>
      exact precedes_enterPhase (by simp [phase, Phase.rank])
  · obtain ⟨rfl, -, -⟩ := Turn.step.inj taken
    exact precedes_enterPhase (by simp [phase, Phase.rank])
  · split at taken <;> obtain ⟨rfl, -, -⟩ := Turn.step.inj taken
    · exact precedes_obtain (by simp [phase, Phase.rank])
    · exact precedes_enterPhase (by simp [phase, Phase.rank])
  · obtain ⟨rfl, -, -⟩ := Turn.step.inj taken
    refine precedes_enterPhase ?_
    split <;> simp [phase, Phase.rank]
  · obtain ⟨rfl, -, -⟩ := Turn.step.inj taken
    refine precedes_enterPhase ?_
    split
    · rename_i asleep
      simp [isAsleep, enterPhase, asleep] at awake
    · simp [phase, Phase.rank]
  · split at taken
    · simp at taken
    · obtain ⟨rfl, -, -⟩ := Turn.step.inj taken
      exact precedes_enterPhase (by simp [phase, Phase.rank])
  · split at taken <;> obtain ⟨rfl, -, -⟩ := Turn.step.inj taken
    · exact precedes_obtain (by simp [phase, Phase.rank])
    · exact precedes_advance (by simp [phase, Phase.rank])
  · simp at taken
  · obtain ⟨rfl, -, -⟩ := Turn.step.inj taken
    exact precedes_enterPhase (by simp [phase, Phase.rank])
  · obtain ⟨rfl, -, -⟩ := Turn.step.inj taken
    exact precedes_obtain (by simp [phase, Phase.rank])
  · obtain ⟨rfl, -, -⟩ := Turn.step.inj taken
    split
    · exact precedes_enterPhase (by simp [phase, Phase.rank])
    · exact precedes_advance (by simp [phase, Phase.rank])
  · obtain ⟨rfl, -, -⟩ := Turn.step.inj taken
    exact precedes_finish (by simp [phase, Phase.rank])
  · obtain ⟨rfl, -, -⟩ := Turn.step.inj taken
    exact precedes_finish (by simp [phase, Phase.rank])
  · simp at taken
  · simp at taken
  · obtain ⟨rfl, -, -⟩ := Turn.step.inj taken
    exact precedes_replace (by simp [phase, Phase.rank])
  · simp at taken

theorem phase_of_connect {caller : Caller Λ} {cache : LinkCache Λ}
    (taken : caller.turn cache = .connect) :
    ∃ id, caller.phase = .connecting id := by
  unfold turn at taken
  split at taken <;> try (split at taken)
  all_goals try cases taken
  exact ⟨_, by assumption⟩

theorem phase_of_pause {caller : Caller Λ} {cache : LinkCache Λ}
    {delay : Duration} (taken : caller.turn cache = .pause delay) :
    caller.phase = .pausing := by
  unfold turn at taken
  split at taken <;> try (split at taken)
  all_goals try cases taken
  assumption

theorem phase_of_judge {caller : Caller Λ} {cache : LinkCache Λ}
    {link : Issued Λ} (taken : caller.turn cache = .judge link) :
    caller.phase = .judging link := by
  unfold turn at taken
  split at taken <;> try (split at taken)
  all_goals try cases taken
  assumption

theorem precedes_connected {caller : Caller Λ} {cache : LinkCache Λ}
    (attempt : Attempt Λ) (taken : caller.turn cache = .connect) :
    Precedes (caller.connected attempt) caller := by
  obtain ⟨id, phase⟩ := phase_of_connect taken
  unfold connected
  rw [phase]
  cases attempt with
  | connected link => exact precedes_enterPhase (by simp [phase, Phase.rank])
  | failed error =>
      simp only
      split <;> exact precedes_enterPhase (by simp [phase, Phase.rank])
  | panicked => exact precedes_enterPhase (by simp [phase, Phase.rank])

theorem precedes_resumed {caller : Caller Λ} {cache : LinkCache Λ}
    {delay : Duration} (taken : caller.turn cache = .pause delay) :
    Precedes caller.resumed caller := by
  have phase := phase_of_pause taken
  unfold resumed
  rw [phase]
  exact precedes_advance (by simp [phase, Phase.rank])

theorem precedes_judged {caller : Caller Λ} {cache : LinkCache Λ}
    {link : Issued Λ} (live : Bool)
    (taken : caller.turn cache = .judge link) :
    Precedes (caller.judged live) caller := by
  have phase := phase_of_judge taken
  unfold judged
  rw [phase]
  simp only
  split
  · exact precedes_finish (by simp [phase, Phase.rank])
  · exact precedes_enterPhase (by simp [phase, Phase.rank])

end Caller

end RemoteMessaging
