import RemoteMessaging.Link.Caller

/-!
# Running a caller

One caller on a cache, with answers from outside, until it has its result or
falls asleep.  Connecting and pausing take time, in which others may work on the
cache.
-/

namespace RemoteMessaging

/-- What a caller needs from outside.  The type `σ` holds whatever the answers
depend on and leave behind. -/
structure Outside (σ Λ : Type) where
  connect : Address → LinkCache Λ → σ → Attempt Λ × LinkCache Λ × σ
  pause : Duration → LinkCache Λ → σ → LinkCache Λ × σ
  isLive : Issued Λ → σ → Bool × σ
  warn : String → σ → σ

/-- The same answers, with the attempts to connect noted in order. -/
def Outside.noting {σ Λ : Type} (outside : Outside σ Λ) :
    Outside (List (Attempt Λ) × σ) Λ where
  connect address cache state :=
    let (attempt, cache, told) := outside.connect address cache state.2
    (attempt, cache, state.1 ++ [attempt], told)
  pause delay cache state :=
    let (cache, told) := outside.pause delay cache state.2
    (cache, state.1, told)
  isLive link state :=
    let (live, told) := outside.isLive link state.2
    (live, state.1, told)
  warn warning state := (state.1, outside.warn warning state.2)

/-- How a cache and the policy of those who establish its links show
themselves. -/
def RetryPolicy.describeEstablisher {Λ : Type} (policy : RetryPolicy)
    (cache : LinkCache Λ) : String :=
  Text.record "ConnectionEstablisher"
    [("cache", cache.describe), ("policy", policy.describe)]

namespace Caller

variable {σ Λ : Type}

/-- Lets a caller go on alone until it has ended or sleeps. -/
def run (outside : Outside σ Λ) (caller : Caller Λ) (cache : LinkCache Λ)
    (state : σ) : Caller Λ × LinkCache Λ × σ :=
  match taken : caller.turn cache with
  | .step next after warning =>
      let state := warning.elim state (outside.warn · state)
      if awake : next.isAsleep = false then
        have := precedes_of_turn taken awake
        run outside next after state
      else (next, after, state)
  | .connect =>
      let (attempt, after, state) := outside.connect caller.address cache state
      have := precedes_connected attempt taken
      run outside (caller.connected attempt) after state
  | .pause delay =>
      let (after, state) := outside.pause delay cache state
      have := precedes_resumed taken
      run outside caller.resumed after state
  | .judge link =>
      let (live, state) := outside.isLive link state
      have := precedes_judged live taken
      run outside (caller.judged live) cache state
  | .sleep => (caller, cache, state)
  | .done _ => (caller, cache, state)
  termination_by (caller.left.1, caller.left.2, caller.phase.rank)
  decreasing_by all_goals exact this

def attempts (outside : Outside σ Λ) (caller : Caller Λ) (cache : LinkCache Λ)
    (state : σ) : List (Attempt Λ) :=
  (caller.run outside.noting cache ([], state)).2.2.1

/-- Lets each of several callers go on in turn until it has ended or sleeps. -/
def runAll (outside : Outside σ Λ) :
    List (Caller Λ) → LinkCache Λ → σ → List (Caller Λ) × LinkCache Λ × σ
  | [], cache, state => ([], cache, state)
  | caller :: rest, cache, state =>
      let (caller, cache, state) := caller.run outside cache state
      let (rest, cache, state) := runAll outside rest cache state
      (caller :: rest, cache, state)

end Caller

end RemoteMessaging
