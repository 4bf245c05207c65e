import Mathlib.Data.List.Induction
import RemoteMessaging.Proofs.Calls.Changes
import RemoteMessaging.Proofs.Notes

/-!
# What callers do outside the cache

A call to establish a link goes round by round.  In a round the caller finds a
link, waits for the attempt of somebody else, or makes an attempt of its own.  The
log tells of the rounds, and of what the caller asks of its connector and of the
pause between the rounds.
-/

namespace RemoteMessaging

variable {Λ : Type}

/-- What a caller makes of the answer of its connector. -/
inductive Calls.Reply (Λ : Type) where
  | connected (link : Λ)
  | refused
  | failed (error : IoError)
  | panicked
  deriving DecidableEq, Repr

/-- How a round ends. -/
inductive Calls.Round (Λ : Type) where
  /-- The link was in the cache. -/
  | hit (link : Issued Λ)
  /-- Somebody else has tried, and perhaps there is a link now. -/
  | waited (found : Option (Issued Λ))
  | connected (link : Issued Λ)
  | refused
  | failed (error : IoError)
  | panicked
  deriving DecidableEq, Repr

inductive Calls.Note (Λ : Type) where
  | connects
  | hears (reply : Calls.Reply Λ)
  | ends (round : Calls.Round Λ)
  | pauses (delay : Duration)
  | renews
  deriving DecidableEq, Repr

/-- What is noted of a caller. -/
structure Calls.Entry (Λ : Type) where
  caller : CallerId
  address : Address
  note : Calls.Note Λ
  deriving DecidableEq, Repr

def Attempt.reply : Attempt Λ → Calls.Reply Λ
  | .connected link => .connected link
  | .failed error => if error.isConnectRefused then .refused else .failed error
  | .panicked => .panicked

namespace Calls

def Reply.notes (reply : Reply Λ) : List (Note Λ) :=
  [.connects, .hears reply]

namespace Round

@[simp] def reply? : Round Λ → Option (Reply Λ)
  | .hit _ | .waited _ => none
  | .connected link => some (.connected link.link)
  | .refused => some .refused
  | .failed error => some (.failed error)
  | .panicked => some .panicked

/-- What a caller does in a round. -/
def notes (round : Round Λ) : List (Note Λ) :=
  round.reply?.toList.flatMap Reply.notes ++ [.ends round]

@[simp] def result? : Round Λ → Option (CallResult Λ)
  | .hit link | .waited (some link) | .connected link => some (.link link)
  | .waited none | .refused => none
  | .failed error => some (.error (.io "connect" error))
  | .panicked => some .panicked

/-- After the round there may be another. -/
def Fruitless (round : Round Λ) : Prop :=
  round.result? = none

def Fails : Round Λ → Prop
  | .refused | .failed _ | .panicked => True
  | _ => False

/-- The pause after a round of a call. -/
def pause (policy : RetryPolicy) (index : Nat) : Round Λ → List (Note Λ)
  | .refused =>
      if index < policy.retries.toNat then [.pauses policy.backoff] else []
  | _ => []

def script (policy : RetryPolicy) (rounds : List (Round Λ)) :
    List (Note Λ) :=
  rounds.zipIdx.flatMap fun (round, index) =>
    round.notes ++ round.pause policy index

@[simp] theorem script_nil (policy : RetryPolicy) :
    script policy ([] : List (Round Λ)) = [] := rfl

@[simp] theorem script_append_singleton (policy : RetryPolicy)
    (rounds : List (Round Λ)) (round : Round Λ) :
    script policy (rounds ++ [round]) =
      script policy rounds ++
        (round.notes ++ round.pause policy rounds.length) := by
  simp [script, List.zipIdx_append]

theorem pause_eq_nil {round : Round Λ} {policy : RetryPolicy} {index : Nat}
    (last : round = .refused → ¬ index < policy.retries.toNat) :
    round.pause policy index = [] := by
  cases round with
  | refused => exact if_neg (last rfl)
  | _ => rfl

theorem ne_refused_of_result {round : Round Λ} {result : CallResult Λ}
    (ends : round.result? = some result) : round ≠ .refused := by
  rintro rfl
  cases ends

end Round

end Calls

namespace Caller

open Calls

/-- A round has begun, or is about to begin. -/
@[simp] def Phase.UnderWay : Phase Λ → Prop
  | .pausing | .judging _ | .discard _ | .finished _ => False
  | _ => True

/-- What a caller has done so far in a round of its own. -/
@[simp] def Phase.opening : Phase Λ → List (Note Λ)
  | .connecting _ => [.connects]
  | .store _ link => Reply.notes (.connected link)
  | .publish _ link => Reply.notes (.connected link.link)
  | .refused _ => Reply.notes .refused
  | .failed _ error => Reply.notes (.failed error)
  | .panicking _ => Reply.notes .panicked
  | _ => []

/-- The result of the last call to establish a link. -/
def outcome? (caller : Caller Λ) : Option (CallResult Λ) :=
  match caller.phase with
  | .judging link | .discard link => some (.link link)
  | .finished result => some result
  | _ => none

theorem opening_of_outcome {caller : Caller Λ} {result : CallResult Λ}
    (ends : caller.outcome? = some result) : caller.phase.opening = [] := by
  unfold outcome? at ends
  split at ends
  all_goals first | rfl | simp_all [Phase.opening]

/-! ## The log -/

/-- The round that the next step of a caller on a cache ends. -/
def closes (caller : Caller Λ) (cache : LinkCache Λ) : Option (Round Λ) :=
  match caller.phase with
  | .inspect id => (cache.reference id).stored.map .hit
  | .reread id => some (.waited (cache.reference id).stored)
  | .publish _ link => some (.connected link)
  | .refused _ => some .refused
  | .failed _ error => some (.failed error)
  | .panicking _ => some .panicked
  | _ => none

/-- What a caller asks for outside the cache. -/
def asks (caller : Caller Λ) (cache : LinkCache Λ) : List (Note Λ) :=
  match caller.turn cache with
  | .connect => [.connects]
  | .pause delay => [.pauses delay]
  | _ => []

/-- A caller begins anew after it has given up a dead link. -/
def renewal (caller next : Caller Λ) : List (Note Λ) :=
  match caller.phase, next.phase with
  | .discard _, .lookup => [.renews]
  | _, _ => []

/-- What is noted of a turn, which ends perhaps a round, and after which the
caller asks perhaps for something. -/
def notes (caller : Caller Λ) (cache : LinkCache Λ) (next : Caller Λ)
    (after : LinkCache Λ) : List (Note Λ) :=
  (caller.closes cache).toList.map .ends ++ caller.renewal next ++
    next.asks after

theorem asks_eq (caller : Caller Λ) (cache : LinkCache Λ) :
    caller.asks cache =
      match caller.phase with
      | .connecting _ => [.connects]
      | .pausing => [.pauses caller.policy.backoff]
      | _ => [] := by
  unfold asks turn
  cases caller.phase with
  | lookup => cases found : cache.find? caller.address <;> rfl
  | inspect id =>
      cases stored : (cache.reference id).stored <;> simp [stored]
  | asleep id =>
      by_cases sleeps : caller.id ∈ (cache.reference id).sleepers <;>
        simp [sleeps]
  | reread id =>
      cases stored : (cache.reference id).stored <;> simp [stored]
  | _ => rfl

/-! ## What a caller may do -/

/-- The same call goes on with the same limits. -/
structure SameCall (caller next : Caller Λ) : Prop where
  address : next.address = caller.address
  policy : next.policy = caller.policy
  replacements : next.replacements = caller.replacements

/-- How a caller goes on, and what is noted of it. -/
inductive Goes (caller : Caller Λ) : Caller Λ → List (Note Λ) → Prop where
  | proceeds {phase : Phase Λ} {notes : List (Note Λ)}
      (before : caller.phase.UnderWay) (after : phase.UnderWay)
      (opens : phase.opening = caller.phase.opening ++ notes) :
      Goes caller (caller.enterPhase phase) notes
  | ends {next : Caller Λ} {notes : List (Note Λ)} (round : Round Λ)
      {result : CallResult Λ} (before : caller.phase.UnderWay)
      (told : round.notes = caller.phase.opening ++ notes)
      (fruitful : round.result? = some result) (same : caller.SameCall next)
      (after : next.outcome? = some result) : Goes caller next notes
  /-- A round ends without a result and without a pause. -/
  | dwindles {notes : List (Note Λ)} (round : Round Λ)
      (before : caller.phase.UnderWay)
      (told : round.notes = caller.phase.opening ++ notes)
      (fruitless : round.Fruitless)
      (last : round = .refused → ¬ caller.attempt < caller.policy.retries) :
      Goes caller caller.advance notes
  | pauses {notes : List (Note Λ)} (before : caller.phase.UnderWay)
      (told : Round.refused.notes ++ [.pauses caller.policy.backoff] =
        caller.phase.opening ++ notes)
      (more : caller.attempt < caller.policy.retries) :
      Goes caller (caller.enterPhase .pausing) notes
  | resumes (before : caller.phase = .pausing) : Goes caller caller.advance []
  /-- A caller that has a result looks what it is worth. -/
  | keeps {next : Caller Λ} {result : CallResult Λ}
      (before : caller.outcome? = some result) (same : caller.SameCall next)
      (after : next.outcome? = some result) : Goes caller next []
  | renews {link : Issued Λ} {left : UInt32}
      (before : caller.phase = .discard link)
      (limit : caller.replacements = some left) (more : left ≠ 0) :
      Goes caller (caller.replace link) [.renews]

theorem sameCall_enterPhase (caller : Caller Λ) (phase : Phase Λ) :
    caller.SameCall (caller.enterPhase phase) :=
  ⟨rfl, rfl, rfl⟩

theorem sameCall_obtain (caller : Caller Λ) (link : Issued Λ) :
    caller.SameCall (caller.obtain link) := by
  unfold obtain
  split <;> exact caller.sameCall_enterPhase _

theorem outcome_obtain (caller : Caller Λ) (link : Issued Λ) :
    (caller.obtain link).outcome? = some (.link link) := by
  unfold obtain
  split <;> rfl

theorem asks_of_phase {caller : Caller Λ}
    (cache : LinkCache Λ) (inside : ∀ id, caller.phase ≠ .connecting id)
    (awake : caller.phase ≠ .pausing) : caller.asks cache = [] := by
  rw [asks_eq]
  split
  · rename_i id phase
    exact (inside id phase).elim
  · rename_i phase
    exact (awake phase).elim
  · rfl

theorem asks_of_outcome {caller : Caller Λ} {result : CallResult Λ}
    (cache : LinkCache Λ) (ends : caller.outcome? = some result) :
    caller.asks cache = [] := by
  apply asks_of_phase
  · intro id phase
    simp [outcome?, phase] at ends
  · intro phase
    simp [outcome?, phase] at ends

theorem asks_advance (caller : Caller Λ) (cache : LinkCache Λ) :
    caller.advance.asks cache = [] := by
  unfold advance
  split
  · exact asks_of_outcome cache rfl
  · exact asks_of_phase cache (by simp) (by simp)

theorem renewal_of_phase {caller : Caller Λ} (next : Caller Λ)
    (holds : ∀ link, caller.phase ≠ .discard link) :
    caller.renewal next = [] := by
  unfold renewal
  split
  · rename_i link phase _
    exact (holds link phase).elim
  · rfl

theorem goes_within {caller : Caller Λ} {cache : LinkCache Λ}
    {target : Phase Λ} (after : LinkCache Λ)
    (before : caller.phase.UnderWay) (later : target.UnderWay)
    (quiet : caller.closes cache = none)
    (opens : target.opening =
      caller.phase.opening ++ (caller.enterPhase target).asks after) :
    caller.Goes (caller.enterPhase target)
      (caller.notes cache (caller.enterPhase target) after) := by
  have holds : ∀ link, caller.phase ≠ .discard link := by
    intro link phase
    simp [phase] at before
  refine .proceeds before later ?_
  rw [notes, quiet, renewal_of_phase _ holds, opens]
  rfl

theorem notes_of_closes {caller next : Caller Λ} {cache after : LinkCache Λ}
    {round : Round Λ} (before : caller.phase.UnderWay)
    (closes : caller.closes cache = some round) :
    caller.notes cache next after = .ends round :: next.asks after := by
  have holds : ∀ link, caller.phase ≠ .discard link := by
    intro link phase
    simp [phase] at before
  rw [notes, closes, renewal_of_phase _ holds]
  rfl

/-! ### Turns -/

section Turns

variable {caller : Caller Λ} {cache : LinkCache Λ}

theorem goes_of_link (round : Round Λ) (after : LinkCache Λ) {link : Issued Λ}
    (before : caller.phase.UnderWay) (closes : caller.closes cache = some round)
    (told : round.notes = caller.phase.opening ++ [.ends round])
    (fruitful : round.result? = some (.link link)) :
    caller.Goes (caller.obtain link)
      (caller.notes cache (caller.obtain link) after) := by
  have result := caller.outcome_obtain link
  rw [notes_of_closes before closes, asks_of_outcome after result]
  exact .ends round before told fruitful (caller.sameCall_obtain link) result

theorem goes_of_failure (round : Round Λ) (after : LinkCache Λ)
    {result : CallResult Λ}
    (before : caller.phase.UnderWay) (closes : caller.closes cache = some round)
    (told : round.notes = caller.phase.opening ++ [.ends round])
    (fruitful : round.result? = some result) :
    caller.Goes (caller.finish result)
      (caller.notes cache (caller.finish result) after) := by
  rw [notes_of_closes before closes, asks_of_outcome after rfl]
  exact .ends round before told fruitful (caller.sameCall_enterPhase _) rfl

theorem goes_of_fruitless (round : Round Λ) (after : LinkCache Λ)
    (before : caller.phase.UnderWay) (closes : caller.closes cache = some round)
    (told : round.notes = caller.phase.opening ++ [.ends round])
    (fruitless : round.Fruitless)
    (last : round = .refused → ¬ caller.attempt < caller.policy.retries) :
    caller.Goes caller.advance (caller.notes cache caller.advance after) := by
  rw [notes_of_closes before closes, asks_advance]
  exact .dwindles round before told fruitless last

theorem goes_of_refused (after : LinkCache Λ) {id : ReferenceId}
    (phase : caller.phase = .refused id) :
    let next :=
      if caller.attempt < caller.policy.retries then
        caller.enterPhase .pausing
      else caller.advance
    caller.Goes next (caller.notes cache next after) := by
  have before : caller.phase.UnderWay := by simp [phase]
  have closes : caller.closes cache = some .refused := by
    simp [Caller.closes, phase]
  simp only
  split
  · rename_i more
    rw [notes_of_closes before closes]
    refine .pauses before ?_ more
    simp [phase, Round.notes, asks_eq, enterPhase]
  · rename_i last
    apply goes_of_fruitless .refused after before closes
    · simp [phase, Round.notes]
    · rfl
    · exact fun _ => last

/-- A dead link stays the result of the call if it may not be replaced any
more. -/
theorem goes_of_discard (after : LinkCache Λ) {link : Issued Λ}
    (phase : caller.phase = .discard link) :
    caller.Goes (caller.replace link)
      (caller.notes cache (caller.replace link) after) := by
  have has : caller.outcome? = some (.link link) := by simp [outcome?, phase]
  have quiet : caller.closes cache = none := by simp [closes, phase]
  have stays : caller.Goes (caller.finish (.link link))
      (caller.notes cache (caller.finish (.link link)) after) := by
    rw [notes, quiet, asks_of_outcome _ rfl]
    simp only [renewal, phase]
    exact .keeps has (caller.sameCall_enterPhase _) rfl
  cases limit : caller.replacements with
  | none =>
      have ends : caller.replace link = caller.finish (.link link) := by
        simp [replace, limit]
      exact ends ▸ stays
  | some left =>
      by_cases last : left = 0
      · have ends : caller.replace link = caller.finish (.link link) := by
          simp [replace, limit, last]
        exact ends ▸ stays
      · have begins : (caller.replace link).phase = .lookup := by
          simp [replace, limit, last]
        rw [notes, quiet, asks_of_phase _ (by simp [begins]) (by simp [begins])]
        simp only [renewal, phase, begins]
        exact .renews phase limit last

/-- A turn of a caller.  The link that it stores is the one that it got. -/
theorem goes_of_turn {next : Caller Λ} {after : LinkCache Λ}
    {warning : Option String}
    (taken : caller.turn cache = .step next after warning)
    (empty : ∀ id link, caller.phase = .store id link →
      (cache.reference id).stored = none) :
    caller.Goes next (caller.notes cache next after) := by
  unfold turn at taken
  cases phase : caller.phase <;> simp only [phase] at taken
  case lookup =>
    split at taken <;> obtain ⟨rfl, rfl, -⟩ := Turn.step.inj taken <;>
      apply goes_within <;>
        simp [phase, closes, asks_eq, enterPhase]
  case enter =>
    obtain ⟨rfl, rfl, -⟩ := Turn.step.inj taken
    apply goes_within <;>
      simp [phase, closes, asks_eq, enterPhase]
  case inspect id =>
    split at taken <;> obtain ⟨rfl, rfl, -⟩ := Turn.step.inj taken
    · rename_i link stored
      apply goes_of_link (.hit link) <;>
        simp [phase, closes, stored, Round.notes]
    · rename_i stored
      apply goes_within <;>
        simp [phase, closes, stored, asks_eq, enterPhase]
  case claim id =>
    obtain ⟨rfl, rfl, -⟩ := Turn.step.inj taken
    cases won : (cache.claim id).1 <;> apply goes_within <;>
      simp [phase, closes, asks_eq, enterPhase]
  case await id =>
    obtain ⟨rfl, rfl, -⟩ := Turn.step.inj taken
    cases sleeps : (cache.await id caller.id).1 <;> apply goes_within <;>
      simp [phase, closes, asks_eq, enterPhase]
  case asleep id =>
    split at taken
    · cases taken
    · obtain ⟨rfl, rfl, -⟩ := Turn.step.inj taken
      apply goes_within <;>
        simp [phase, closes, asks_eq, enterPhase]
  case reread id =>
    split at taken <;> obtain ⟨rfl, rfl, -⟩ := Turn.step.inj taken
    · rename_i link stored
      apply goes_of_link (.waited (some link)) <;>
        simp [phase, closes, stored, Round.notes]
    · rename_i stored
      apply goes_of_fruitless (.waited none) <;>
        simp [phase, closes, stored, Round.notes, Round.Fruitless]
  case connecting id => cases taken
  case store id link =>
    obtain ⟨rfl, rfl, -⟩ := Turn.step.inj taken
    obtain ⟨stored, -⟩ := LinkCache.store_of_empty (empty id link phase) link
    apply goes_within <;>
      simp [phase, closes, stored, asks_eq, enterPhase]
  case publish id link =>
    obtain ⟨rfl, rfl, -⟩ := Turn.step.inj taken
    apply goes_of_link (.connected link) <;>
      simp [phase, closes, Round.notes]
  case refused id =>
    obtain ⟨rfl, rfl, -⟩ := Turn.step.inj taken
    exact goes_of_refused _ phase
  case failed id error =>
    obtain ⟨rfl, rfl, -⟩ := Turn.step.inj taken
    apply goes_of_failure (.failed error) <;>
      simp [phase, closes, Round.notes]
  case panicking id =>
    obtain ⟨rfl, rfl, -⟩ := Turn.step.inj taken
    apply goes_of_failure .panicked <;>
      simp [phase, closes, Round.notes]
  case pausing => cases taken
  case judging link => cases taken
  case discard link =>
    obtain ⟨rfl, rfl, -⟩ := Turn.step.inj taken
    exact goes_of_discard _ phase
  case finished result => cases taken

end Turns

/-! ### Answers from outside -/

theorem goes_of_connected {caller : Caller Λ} {id : ReferenceId}
    (phase : caller.phase = .connecting id) (attempt : Attempt Λ) :
    caller.Goes (caller.connected attempt) [.hears attempt.reply] := by
  have before : caller.phase.UnderWay := by simp [phase]
  unfold connected
  simp only [phase]
  cases attempt with
  | connected link =>
      refine .proceeds before trivial ?_
      simp [phase, Reply.notes, Attempt.reply]
  | failed error =>
      simp only
      by_cases refused : error.isConnectRefused = true
      · rw [if_pos refused]
        refine .proceeds before trivial ?_
        simp [phase, Reply.notes, Attempt.reply, refused]
      · rw [if_neg refused]
        refine .proceeds before trivial ?_
        simp [phase, Reply.notes, Attempt.reply, refused]
  | panicked =>
      refine .proceeds before trivial ?_
      simp [phase, Reply.notes, Attempt.reply]

theorem goes_of_resumed {caller : Caller Λ} (phase : caller.phase = .pausing) :
    caller.Goes caller.resumed [] := by
  unfold resumed
  simp only [phase]
  exact .resumes phase

theorem goes_of_judged {caller : Caller Λ} {link : Issued Λ}
    (phase : caller.phase = .judging link) (live : Bool) :
    caller.Goes (caller.judged live) [] := by
  have has : caller.outcome? = some (.link link) := by simp [outcome?, phase]
  unfold judged
  simp only [phase]
  split
  · exact .keeps has (caller.sameCall_enterPhase _) rfl
  · exact .keeps has (caller.sameCall_enterPhase _) rfl

end Caller

namespace Calls

/-! ## Several callers -/

/-- What is noted in a step. -/
def entries (calls : Calls Λ) : Action Λ → List (Entry Λ)
  | .turn id =>
      match calls.callers[id]? with
      | none => []
      | some caller =>
          match caller.turn calls.cache with
          | .step next after _ =>
              (caller.notes calls.cache next after).map
                (.mk id caller.address)
          | _ => []
  | .connected id attempt =>
      match calls.callers[id]? with
      | none => []
      | some caller =>
          if caller.phase matches .connecting _ then
            [⟨id, caller.address, .hears attempt.reply⟩]
          else []
  | _ => []

def log (calls : Calls Λ) (actions : List (Action Λ)) : List (Entry Λ) :=
  noted step entries calls actions

theorem log_cons (calls : Calls Λ) (action : Action Λ)
    (actions : List (Action Λ)) :
    calls.log (action :: actions) =
      calls.entries action ++ (calls.step action).log actions := rfl

def logOf (id : CallerId) (log : List (Entry Λ)) : List (Note Λ) :=
  log.filterMap fun entry => if entry.caller = id then some entry.note else none

/-- What a step does with the callers, and what is noted in it. -/
inductive Moves (calls next : Calls Λ) : List (Entry Λ) → Prop where
  | still (callers : next.callers = calls.callers) : Moves calls next []
  | begins (address : Address) (policy : RetryPolicy) (live : Bool)
      (callers : next.callers = calls.callers ++
        [if live then .startLive calls.callers.length address policy
          else .start calls.callers.length address policy]) :
      Moves calls next []
  | goes {id : CallerId} {caller after : Caller Λ} {notes : List (Note Λ)}
      (found : calls.callers[id]? = some caller)
      (goes : caller.Goes after notes)
      (callers : next.callers = calls.callers.set id after) :
      Moves calls next (notes.map (.mk id caller.address))

theorem moves_answer {calls : Calls Λ} {id : CallerId}
    (change : Caller Λ → Caller Λ) {caller : Caller Λ}
    {notes : List (Note Λ)} (found : calls.callers[id]? = some caller)
    (goes : caller.Goes (change caller) notes) :
    Moves calls (calls.answer id change)
      (notes.map (.mk id caller.address)) := by
  refine .goes found goes ?_
  simp only [answer, found]

theorem moves_ignored {calls : Calls Λ} {id : CallerId}
    {change : Caller Λ → Caller Λ}
    (ignores : ∀ caller, calls.callers[id]? = some caller →
      change caller = caller) : Moves calls (calls.answer id change) [] := by
  refine .still ?_
  unfold answer
  split
  · rfl
  · rename_i caller found
    obtain ⟨below, rfl⟩ := List.getElem?_eq_some_iff.mp found
    rw [ignores _ found]
    exact List.set_getElem_self below

namespace Sound

variable {owner : ReferenceId → Address} {calls : Calls Λ}

theorem moves_turn (sound : Sound owner calls) (id : CallerId) :
    Moves calls (calls.turn id) (calls.entries (.turn id)) := by
  cases found : calls.callers[id]? with
  | none =>
      simp only [Calls.turn, entries, found]
      exact .still rfl
  | some caller =>
      cases taken : caller.turn calls.cache with
      | step next cache warning =>
          simp only [Calls.turn, entries, found, taken]
          refine .goes found (Caller.goes_of_turn taken ?_) rfl
          intro reference link phase
          exact (sound.fits id caller found).content reference none
            (by simp [phase, Caller.Phase.permit?])
      | _ =>
          simp only [Calls.turn, entries, found, taken]
          exact .still rfl

theorem moves_connected (calls : Calls Λ) (id : CallerId)
    (attempt : Attempt Λ) :
    Moves calls (calls.answer id (·.connected attempt))
      (calls.entries (.connected id attempt)) := by
  cases found : calls.callers[id]? with
  | none =>
      simp only [entries, found]
      exact moves_ignored (by simp [found])
  | some caller =>
      simp only [entries, found]
      cases phase : caller.phase with
      | connecting reference =>
          exact moves_answer (·.connected attempt) found
            (Caller.goes_of_connected phase attempt)
      | _ =>
          refine moves_ignored ?_
          intro other found'
          obtain rfl := Option.some.inj (found.symm.trans found')
          simp [Caller.connected, phase]

theorem moves_resumed (calls : Calls Λ) (id : CallerId) :
    Moves calls (calls.answer id (·.resumed)) [] := by
  by_cases pausing : ∃ caller, calls.callers[id]? = some caller ∧
      caller.phase = .pausing
  · obtain ⟨caller, found, phase⟩ := pausing
    exact moves_answer (·.resumed) found (Caller.goes_of_resumed phase)
  · refine moves_ignored ?_
    intro caller found
    unfold Caller.resumed
    split
    · rename_i phase
      exact (pausing ⟨caller, found, phase⟩).elim
    · rfl

theorem moves_judged (calls : Calls Λ) (id : CallerId) (live : Bool) :
    Moves calls (calls.answer id (·.judged live)) [] := by
  by_cases judging : ∃ caller link, calls.callers[id]? = some caller ∧
      caller.phase = .judging link
  · obtain ⟨caller, link, found, phase⟩ := judging
    exact moves_answer (·.judged live) found
      (Caller.goes_of_judged phase live)
  · refine moves_ignored ?_
    intro caller found
    unfold Caller.judged
    split
    · rename_i link phase
      exact (judging ⟨caller, link, found, phase⟩).elim
    · rfl

theorem moves (sound : Sound owner calls) (action : Action Λ) :
    Moves calls (calls.step action) (calls.entries action) := by
  cases action with
  | call address policy live => exact .begins address policy live rfl
  | turn id => exact sound.moves_turn id
  | connected id attempt => exact moves_connected calls id attempt
  | resumed id => exact moves_resumed calls id
  | judged id live => exact moves_judged calls id live
  | _ => exact .still rfl

end Sound

/-! ## Runs -/

@[simp] theorem logOf_append (id : CallerId) (first second : List (Entry Λ)) :
    logOf id (first ++ second) = logOf id first ++ logOf id second :=
  List.filterMap_append

theorem logOf_map (id : CallerId) (other : CallerId) (address : Address)
    (notes : List (Note Λ)) :
    logOf id (notes.map (.mk other address)) =
      if other = id then notes else [] := by
  simp only [logOf, List.filterMap_map, Function.comp_def]
  split
  · exact List.filterMap_some
  · exact List.filterMap_none notes

theorem logOf_eq_nil {id : CallerId} {log : List (Entry Λ)}
    (others : ∀ entry ∈ log, entry.caller < id) : logOf id log = [] := by
  apply List.filterMap_eq_nil_iff.mpr
  intro entry member
  exact if_neg (Nat.ne_of_lt (others entry member))

/-- Each caller has a property together with what is noted of it. -/
structure Logged (holds : Caller Λ → List (Note Λ) → Prop) (calls : Calls Λ)
    (log : List (Entry Λ)) : Prop where
  named : ∀ entry ∈ log, entry.caller < calls.callers.length
  each : ∀ (id : CallerId) caller, calls.callers[id]? = some caller →
    holds caller (logOf id log)

/-- A property that callers have when they begin, and keep as they go. -/
structure Lasting (holds : Caller Λ → List (Note Λ) → Prop) : Prop where
  start : ∀ id address policy, holds (.start id address policy) []
  startLive : ∀ id address policy, holds (.startLive id address policy) []
  goes : ∀ {caller next log notes}, holds caller log →
    Caller.Goes caller next notes → holds next (log ++ notes)

theorem Logged.step {holds : Caller Λ → List (Note Λ) → Prop}
    (lasting : Lasting holds) {calls next : Calls Λ} {log more : List (Entry Λ)}
    (logged : Logged holds calls log) (moves : Moves calls next more) :
    Logged holds next (log ++ more) := by
  obtain ⟨named, each⟩ := logged
  cases moves with
  | still callers =>
      rw [List.append_nil]
      exact ⟨by rwa [callers], by rwa [callers]⟩
  | begins address policy live callers =>
      rw [List.append_nil]
      constructor
      · intro entry member
        rw [callers, List.length_append]
        exact Nat.lt_add_right _ (named entry member)
      · intro id caller found
        rw [callers] at found
        rcases Nat.lt_or_ge id calls.callers.length with old | new
        · rw [List.getElem?_append_left old] at found
          exact each id caller found
        · rw [List.getElem?_append_right new] at found
          have fresh := List.mem_singleton.mp (List.mem_of_getElem? found)
          have nothing : logOf id log = [] := by
            refine logOf_eq_nil fun entry member => ?_
            exact Nat.lt_of_lt_of_le (named entry member) new
          rw [nothing, fresh]
          split
          · exact lasting.startLive _ _ _
          · exact lasting.start _ _ _
  | goes found goes callers =>
      rename_i mover caller after notes
      obtain ⟨below, -⟩ := List.getElem?_eq_some_iff.mp found
      constructor
      · intro entry member
        rw [callers, List.length_set]
        rcases List.mem_append.mp member with earlier | now
        · exact named entry earlier
        · obtain ⟨note, -, rfl⟩ := List.mem_map.mp now
          exact below
      · intro id other found'
        rw [callers] at found'
        rw [logOf_append, logOf_map]
        by_cases same : mover = id
        · subst same
          rw [List.getElem?_set_self below] at found'
          obtain rfl := Option.some.inj found'
          rw [if_pos rfl]
          exact lasting.goes (each mover caller found) goes
        · rw [List.getElem?_set_ne same] at found'
          rw [if_neg same, List.append_nil]
          exact each id other found'

theorem Logged.run {holds : Caller Λ → List (Note Λ) → Prop}
    (lasting : Lasting holds) {owner : ReferenceId → Address}
    {calls : Calls Λ} {log : List (Entry Λ)} (sound : Sound owner calls)
    (logged : Logged holds calls log) (actions : List (Action Λ)) :
    Logged holds (calls.run actions) (log ++ calls.log actions) := by
  induction actions generalizing owner calls log with
  | nil => rwa [Calls.log, noted, List.append_nil]
  | cons action actions induction =>
      obtain ⟨after, later⟩ := sound.step action
      have rest := induction later (logged.step lasting (sound.moves action))
      rwa [List.append_assoc] at rest

/-- What callers have when they begin and keep as they go, they have in every
run. -/
theorem logged_run {holds : Caller Λ → List (Note Λ) → Prop}
    (lasting : Lasting holds) (actions : List (Action Λ)) :
    Logged holds (start.run actions) (start.log actions) := by
  have begins : Logged holds (start : Calls Λ) [] :=
    ⟨by simp, by simp [start]⟩
  exact begins.run lasting (sound_start fun _ => ⟨"", 0⟩) actions

/-! ## Rounds and pauses -/

def Note.round? : Note Λ → Option (Round Λ)
  | .ends round => some round
  | _ => none

def Note.delay? : Note Λ → Option Duration
  | .pauses delay => some delay
  | _ => none

def roundsIn (log : List (Note Λ)) : List (Round Λ) :=
  log.filterMap Note.round?

def delaysIn (log : List (Note Λ)) : List Duration :=
  log.filterMap Note.delay?

@[simp] theorem roundsIn_append (first second : List (Note Λ)) :
    roundsIn (first ++ second) = roundsIn first ++ roundsIn second :=
  List.filterMap_append

@[simp] theorem delaysIn_append (first second : List (Note Λ)) :
    delaysIn (first ++ second) = delaysIn first ++ delaysIn second :=
  List.filterMap_append

theorem roundsIn_map_ends (rounds : List (Round Λ)) :
    roundsIn (rounds.map .ends) = rounds := by
  rw [roundsIn, List.filterMap_map]
  exact List.filterMap_some

namespace Round

variable {policy : RetryPolicy} {rounds : List (Round Λ)}

theorem roundsIn_notes (round : Round Λ) : roundsIn round.notes = [round] := by
  cases round <;> rfl

theorem delaysIn_notes (round : Round Λ) : delaysIn round.notes = [] := by
  cases round <;> rfl

theorem pause_cases (round : Round Λ) (policy : RetryPolicy) (index : Nat) :
    round.pause policy index = [] ∨
      index < policy.retries.toNat ∧
        round.pause policy index = [.pauses policy.backoff] := by
  cases round with
  | refused =>
      by_cases more : index < policy.retries.toNat
      · exact .inr ⟨more, if_pos more⟩
      · exact .inl (if_neg more)
  | _ => exact .inl rfl

theorem roundsIn_script (policy : RetryPolicy) (rounds : List (Round Λ)) :
    roundsIn (script policy rounds) = rounds := by
  induction rounds using List.reverseRecOn with
  | nil => rfl
  | append_singleton rounds round induction =>
      rw [script_append_singleton, roundsIn_append, roundsIn_append, induction,
        roundsIn_notes]
      rcases round.pause_cases policy rounds.length with none | ⟨-, one⟩
      · rw [none]
        rfl
      · rw [one]
        rfl

/-- There are at most as many pauses in a script as there are rounds and as there
may be retries. -/
theorem delaysIn_script (policy : RetryPolicy) (rounds : List (Round Λ)) :
    (∀ delay ∈ delaysIn (script policy rounds), delay = policy.backoff) ∧
      (delaysIn (script policy rounds)).length ≤ rounds.length ∧
        (delaysIn (script policy rounds)).length ≤ policy.retries.toNat := by
  induction rounds using List.reverseRecOn with
  | nil => exact ⟨by simp [delaysIn], Nat.le_refl 0, Nat.zero_le _⟩
  | append_singleton rounds round induction =>
      obtain ⟨same, few, within⟩ := induction
      rw [script_append_singleton, delaysIn_append, delaysIn_append,
        delaysIn_notes, List.nil_append, List.length_append, List.length_append,
        List.length_singleton]
      rcases round.pause_cases policy rounds.length with none | ⟨more, one⟩
      · rw [none]
        exact ⟨by simpa [delaysIn] using same, Nat.le_succ_of_le few, within⟩
      · rw [one]
        refine ⟨?_, Nat.succ_le_succ few, ?_⟩
        · exact List.forall_mem_append.mpr
            ⟨same, List.forall_mem_singleton.mpr rfl⟩
        · exact Nat.le_trans (Nat.succ_le_succ few) more

end Round

theorem nothingIn_opening (phase : Caller.Phase Λ) :
    roundsIn phase.opening = [] ∧ delaysIn phase.opening = [] := by
  cases phase <;> exact ⟨rfl, rfl⟩

end Calls

namespace Caller

open Calls

theorem roundsIn_notes (caller next : Caller Λ) (cache after : LinkCache Λ) :
    roundsIn (caller.notes cache next after) =
      (caller.closes cache).toList := by
  have renewal : roundsIn (caller.renewal next) = [] := by
    unfold renewal
    split <;> rfl
  have asks : roundsIn (next.asks after) = [] := by
    rw [asks_eq]
    split <;> rfl
  rw [notes, roundsIn_append, roundsIn_append, roundsIn_map_ends, renewal, asks,
    List.append_nil, List.append_nil]

end Caller

end RemoteMessaging
