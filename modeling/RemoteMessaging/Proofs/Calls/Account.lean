import RemoteMessaging.Proofs.Calls.Log

/-!
# The account of a caller

Whatever the others do, a caller goes through the rounds of its call one by one,
until a round gives a result or the limit is reached.  Its log is the script of the
rounds, and then what it has begun.
-/

namespace RemoteMessaging

open Calls

variable {Λ : Type}

namespace Caller

/-- Where a caller stands after some rounds. -/
inductive Stands (caller : Caller Λ) : List (Round Λ) → Prop where
  | underWay {rounds : List (Round Λ)} (phase : caller.phase.UnderWay)
      (fruitless : ∀ round ∈ rounds, round.Fruitless)
      (count : rounds.length = caller.attempt.toNat)
      (within : caller.attempt ≤ caller.policy.retries) : Stands caller rounds
  | pausing {rounds : List (Round Λ)} (phase : caller.phase = .pausing)
      (fruitless : ∀ round ∈ rounds, round.Fruitless)
      (count : rounds.length = caller.attempt.toNat + 1)
      (more : caller.attempt < caller.policy.retries) : Stands caller rounds
  | ended {rounds : List (Round Λ)} (last : Round Λ) {result : CallResult Λ}
      (fruitless : ∀ round ∈ rounds, round.Fruitless)
      (within : rounds.length ≤ caller.policy.retries.toNat)
      (fruitful : last.result? = some result)
      (outcome : caller.outcome? = some result) :
      Stands caller (rounds ++ [last])
  | spent {rounds : List (Round Λ)}
      (fruitless : ∀ round ∈ rounds, round.Fruitless)
      (count : rounds.length = caller.policy.retries.toNat + 1)
      (outcome : caller.outcome? =
        some (.error (.connect caller.address caller.policy.attempts))) :
      Stands caller rounds

/-- A call ended with a link. -/
def Settles (policy : RetryPolicy) (rounds : List (Round Λ)) : Prop :=
  ∃ first last link, rounds = first ++ [last] ∧
    (∀ round ∈ first, round.Fruitless) ∧
    first.length ≤ policy.retries.toNat ∧
    last.result? = some (.link link)

/-- So many calls have been renewed of those that may be. -/
def Renewed (caller : Caller Λ) (count : Nat) : Prop :=
  match caller.replacements with
  | none => count = 0
  | some left => count + left.toNat = caller.policy.retries.toNat

/-- What a caller has done in all its calls, the last of which may go on. -/
structure Tells (caller : Caller Λ) (earlier : List (List (Round Λ)))
    (rounds : List (Round Λ)) (log : List (Note Λ)) : Prop where
  log : log = earlier.flatMap
      (fun rounds => Round.script caller.policy rounds ++ [.renews]) ++
    (Round.script caller.policy rounds ++ caller.phase.opening)
  settled : ∀ rounds ∈ earlier, Settles caller.policy rounds
  renewed : caller.Renewed earlier.length
  stands : caller.Stands rounds

/-- What is noted of a caller are the rounds of its calls. -/
def Accounts (caller : Caller Λ) (log : List (Note Λ)) : Prop :=
  ∃ earlier rounds, caller.Tells earlier rounds log

theorem outcome_of_underWay {caller : Caller Λ}
    (phase : caller.phase.UnderWay) : caller.outcome? = none := by
  unfold outcome?
  split <;> simp_all [Phase.UnderWay]

namespace Stands

variable {caller next : Caller Λ} {rounds : List (Round Λ)}

theorem of_underWay (stands : caller.Stands rounds)
    (phase : caller.phase.UnderWay) :
    (∀ round ∈ rounds, round.Fruitless) ∧
      rounds.length = caller.attempt.toNat ∧
        caller.attempt ≤ caller.policy.retries := by
  have nothing := outcome_of_underWay phase
  cases stands with
  | underWay _ fruitless count within => exact ⟨fruitless, count, within⟩
  | pausing pauses => simp [pauses] at phase
  | ended last _ _ _ outcome => simp [nothing] at outcome
  | spent _ _ outcome => simp [nothing] at outcome

theorem of_pausing (stands : caller.Stands rounds)
    (phase : caller.phase = .pausing) :
    (∀ round ∈ rounds, round.Fruitless) ∧
      rounds.length = caller.attempt.toNat + 1 ∧
        caller.attempt < caller.policy.retries := by
  have nothing : caller.outcome? = none := by simp [outcome?, phase]
  cases stands with
  | underWay goesOn => simp [phase] at goesOn
  | pausing _ fruitless count more => exact ⟨fruitless, count, more⟩
  | ended last _ _ _ outcome => simp [nothing] at outcome
  | spent _ _ outcome => simp [nothing] at outcome

theorem keeps (stands : caller.Stands rounds) {result : CallResult Λ}
    (before : caller.outcome? = some result) (same : caller.SameCall next)
    (after : next.outcome? = some result) : next.Stands rounds := by
  cases stands with
  | underWay phase => simp [outcome_of_underWay phase] at before
  | pausing phase => simp [outcome?, phase] at before
  | ended last fruitless within fruitful outcome =>
      rw [← same.policy] at within
      exact .ended last fruitless within fruitful
        (after.trans (before.symm.trans outcome))
  | spent fruitless count outcome =>
      rw [← same.policy] at count
      refine .spent fruitless count (after.trans (before.symm.trans ?_))
      rw [same.address, same.policy]
      exact outcome

theorem settles (stands : caller.Stands rounds) {link : Issued Λ}
    (outcome : caller.outcome? = some (.link link)) :
    Settles caller.policy rounds := by
  cases stands with
  | underWay phase => simp [outcome_of_underWay phase] at outcome
  | pausing phase => simp [outcome?, phase] at outcome
  | ended last fruitless within fruitful ends =>
      obtain rfl := Option.some.inj (outcome.symm.trans ends)
      exact ⟨_, last, link, rfl, fruitless, within, fruitful⟩
  | spent _ _ ends => simp [outcome] at ends

theorem advance (fruitless : ∀ round ∈ rounds, round.Fruitless)
    (count : rounds.length = caller.attempt.toNat + 1)
    (within : caller.attempt ≤ caller.policy.retries) :
    caller.advance.Stands rounds := by
  unfold Caller.advance
  split
  · rename_i last
    refine .spent fruitless ?_ rfl
    rw [count, last]
    rfl
  · rename_i last
    have more := UInt32.lt_of_le_of_ne within last
    have next := toNat_next_attempt more
    refine .underWay trivial fruitless (count.trans next.symm) ?_
    apply UInt32.le_iff_toNat_le.mpr
    rw [next]
    exact UInt32.lt_iff_toNat_lt.mp more

end Stands

theorem sameCall_advance (caller : Caller Λ) :
    caller.SameCall caller.advance := by
  unfold advance
  split <;> exact ⟨rfl, rfl, rfl⟩

theorem limits_of_goes {caller next : Caller Λ} {notes : List (Note Λ)}
    (goes : caller.Goes next notes) :
    next.address = caller.address ∧ next.policy = caller.policy := by
  cases goes with
  | proceeds => exact ⟨rfl, rfl⟩
  | ends round before told fruitful same => exact ⟨same.address, same.policy⟩
  | dwindles =>
      exact ⟨caller.sameCall_advance.address, caller.sameCall_advance.policy⟩
  | pauses => exact ⟨rfl, rfl⟩
  | resumes =>
      exact ⟨caller.sameCall_advance.address, caller.sameCall_advance.policy⟩
  | keeps before same => exact ⟨same.address, same.policy⟩
  | renews before limit more =>
      rw [replace, limit]
      simp only [if_neg more, and_self]

theorem opening_advance (caller : Caller Λ) :
    caller.advance.phase.opening = [] := by
  unfold advance
  split <;> rfl

theorem Renewed.sameCall {caller next : Caller Λ} {count : Nat}
    (renewed : caller.Renewed count) (same : caller.SameCall next) :
    next.Renewed count := by
  unfold Renewed at *
  rwa [same.replacements, same.policy]

namespace Tells

variable {caller next : Caller Λ} {earlier : List (List (Round Λ))}
  {rounds : List (Round Λ)} {log notes : List (Note Λ)}

theorem next_rounds (tells : caller.Tells earlier rounds log)
    (same : caller.SameCall next) {rounds' : List (Round Λ)}
    (script : Round.script caller.policy rounds ++
      (caller.phase.opening ++ notes) =
        Round.script caller.policy rounds' ++ next.phase.opening)
    (stands : next.Stands rounds') :
    next.Tells earlier rounds' (log ++ notes) := by
  constructor
  · rw [tells.log, same.policy, ← script]
    simp only [List.append_assoc]
  · rw [same.policy]
    exact tells.settled
  · exact tells.renewed.sameCall same
  · exact stands

theorem stay (tells : caller.Tells earlier rounds log)
    (same : caller.SameCall next)
    (opens : next.phase.opening = caller.phase.opening ++ notes)
    (stands : next.Stands rounds) :
    next.Tells earlier rounds (log ++ notes) :=
  tells.next_rounds same (by rw [opens]) stands

theorem close (tells : caller.Tells earlier rounds log)
    (same : caller.SameCall next) (round : Round Λ)
    (told : round.notes ++ round.pause caller.policy rounds.length =
      caller.phase.opening ++ notes)
    (settled : next.phase.opening = [])
    (stands : next.Stands (rounds ++ [round])) :
    next.Tells earlier (rounds ++ [round]) (log ++ notes) := by
  refine tells.next_rounds same ?_ stands
  rw [Round.script_append_singleton, told, settled, List.append_nil]

theorem renew (tells : caller.Tells earlier rounds log) {link : Issued Λ}
    {left : UInt32} (before : caller.phase = .discard link)
    (limit : caller.replacements = some left) (more : left ≠ 0) :
    (caller.replace link).Tells (earlier ++ [rounds]) []
      (log ++ [.renews]) := by
  have next : caller.replace link =
      { caller with
        replacements := some (left - 1)
        attempt := 0
        phase := .lookup } := by
    simp [replace, limit, more]
  rw [next]
  constructor
  · rw [tells.log]
    simp [before]
  · intro call member
    rcases List.mem_append.mp member with old | now
    · exact tells.settled call old
    · rw [List.mem_singleton.mp now]
      have outcome : caller.outcome? = some (.link link) := by
        simp [outcome?, before]
      exact tells.stands.settles outcome
  · have renewed := tells.renewed
    simp only [Renewed, limit] at renewed ⊢
    have apart : left.toNat ≠ 0 := by
      intro same
      exact more (UInt32.toNat_inj.mp same)
    have bound := UInt32.toNat_lt left
    rw [List.length_append, List.length_singleton, UInt32.toNat_sub,
      UInt32.toNat_one]
    omega
  · exact .underWay trivial (by simp) rfl
      (UInt32.le_iff_toNat_le.mpr (Nat.zero_le _))

theorem goes (tells : caller.Tells earlier rounds log)
    (goes : caller.Goes next notes) : next.Accounts (log ++ notes) := by
  cases goes with
  | proceeds before after opens =>
      obtain ⟨fruitless, count, within⟩ := tells.stands.of_underWay before
      exact ⟨earlier, rounds, tells.stay (caller.sameCall_enterPhase _) opens
        (.underWay after fruitless count within)⟩
  | ends round before told fruitful same after =>
      obtain ⟨fruitless, count, within⟩ := tells.stands.of_underWay before
      refine ⟨earlier, rounds ++ [round], tells.close same round ?_
        (opening_of_outcome after) ?_⟩
      · have other := Round.ne_refused_of_result fruitful
        rw [Round.pause_eq_nil fun refused => (other refused).elim,
          List.append_nil, told]
      · refine .ended round fruitless ?_ fruitful after
        rw [count, same.policy]
        exact UInt32.le_iff_toNat_le.mp within
  | dwindles round before told fruitless last =>
      obtain ⟨others, count, within⟩ := tells.stands.of_underWay before
      refine ⟨earlier, rounds ++ [round], tells.close caller.sameCall_advance
        round ?_ caller.opening_advance (.advance ?_ ?_ within)⟩
      · rw [Round.pause_eq_nil, List.append_nil, told]
        rw [count, ← UInt32.lt_iff_toNat_lt]
        exact last
      · exact List.forall_mem_append.mpr
          ⟨others, List.forall_mem_singleton.mpr fruitless⟩
      · rw [List.length_append, count, List.length_singleton]
  | pauses before told more =>
      obtain ⟨others, count, within⟩ := tells.stands.of_underWay before
      refine ⟨earlier, rounds ++ [.refused], tells.close
        (caller.sameCall_enterPhase _) .refused ?_ rfl
          (.pausing rfl ?_ ?_ more)⟩
      · rw [← told, count, Round.pause, if_pos (UInt32.lt_iff_toNat_lt.mp more)]
      · exact List.forall_mem_append.mpr
          ⟨others, List.forall_mem_singleton.mpr rfl⟩
      · rw [List.length_append, count, List.length_singleton]
        rfl
  | resumes before =>
      obtain ⟨fruitless, count, more⟩ := tells.stands.of_pausing before
      refine ⟨earlier, rounds, tells.stay caller.sameCall_advance ?_
        (.advance fruitless count (UInt32.le_of_lt more))⟩
      rw [caller.opening_advance, before]
      rfl
  | keeps before same after =>
      refine ⟨earlier, rounds, tells.stay same ?_
        (tells.stands.keeps before same after)⟩
      rw [opening_of_outcome before, opening_of_outcome after]
      rfl
  | renews before limit more =>
      exact ⟨_, _, tells.renew before limit more⟩

theorem roundsIn_log (tells : caller.Tells earlier rounds log) :
    roundsIn log = earlier.flatMap (fun call => call) ++ rounds := by
  obtain ⟨noRounds, -⟩ := nothingIn_opening caller.phase
  rw [tells.log, roundsIn_append, roundsIn_append, noRounds,
    Round.roundsIn_script, List.append_nil, roundsIn, List.filterMap_flatMap]
  congr 1
  refine List.flatMap_congr fun call _ => ?_
  change roundsIn (Round.script caller.policy call ++ [.renews]) = call
  rw [roundsIn_append, Round.roundsIn_script]
  exact List.append_nil call

end Tells

theorem lasting_accounts : Lasting (Accounts (Λ := Λ)) where
  start id address policy :=
    ⟨[], [], rfl, by simp, rfl, .underWay trivial (by simp) rfl
      (UInt32.le_iff_toNat_le.mpr (Nat.zero_le _))⟩
  startLive id address policy :=
    ⟨[], [], rfl, by simp, Nat.zero_add _, .underWay trivial (by simp) rfl
      (UInt32.le_iff_toNat_le.mpr (Nat.zero_le _))⟩
  goes := by
    rintro caller next log notes ⟨earlier, rounds, tells⟩ goes
    exact tells.goes goes

/-! ## Attempts -/

theorem closes_of_mem_notes {caller next : Caller Λ}
    {cache after : LinkCache Λ} {round : Round Λ}
    (member : .ends round ∈ caller.notes cache next after) :
    caller.closes cache = some round := by
  simp only [notes, List.mem_append, List.mem_map, Option.mem_toList] at member
  rcases member with (⟨other, closes, same⟩ | renews) | asks
  · obtain rfl := Note.ends.inj same
    exact closes
  · unfold renewal at renews
    split at renews <;> simp at renews
  · rw [asks_eq] at asks
    split at asks <;> simp at asks

/-- An attempt that has failed leaves its reference as if nobody had tried. -/
theorem phase_of_fails {caller next : Caller Λ} {cache after : LinkCache Λ}
    {warning : Option String} {round : Round Λ}
    (taken : caller.turn cache = .step next after warning)
    (closes : caller.closes cache = some round) (fails : round.Fails) :
    ∃ id, caller.phase.permit? = some (id, none) ∧
      after = cache.settle id .idle := by
  unfold Caller.closes at closes
  unfold turn at taken
  cases phase : caller.phase <;> simp only [phase] at closes taken
  case inspect id =>
    obtain ⟨link, -, rfl⟩ := Option.map_eq_some_iff.mp closes
    exact fails.elim
  case reread id =>
    obtain rfl := Option.some.inj closes
    exact fails.elim
  case publish id link =>
    obtain rfl := Option.some.inj closes
    exact fails.elim
  case refused id =>
    obtain ⟨-, rfl, -⟩ := Turn.step.inj taken
    exact ⟨id, rfl, rfl⟩
  case failed id error =>
    obtain ⟨-, rfl, -⟩ := Turn.step.inj taken
    exact ⟨id, rfl, rfl⟩
  case panicking id =>
    obtain ⟨-, rfl, -⟩ := Turn.step.inj taken
    exact ⟨id, rfl, rfl⟩
  all_goals cases closes

end Caller

namespace Calls

namespace Sound

variable {owner : ReferenceId → Address} {calls : Calls Λ} {id : CallerId}

theorem idle_of_fails (sound : Sound owner calls) {address : Address}
    {round : Round Λ}
    (member : ⟨id, address, .ends round⟩ ∈ calls.entries (.turn id))
    (fails : round.Fails) :
    ∃ caller reference, calls.callers[id]? = some caller ∧
      caller.phase.permit? = some (reference, none) ∧
      (calls.turn id).cache.reference reference = .new := by
  unfold entries at member
  cases found : calls.callers[id]? with
  | none => simp [found] at member
  | some caller =>
      cases taken : caller.turn calls.cache with
      | step next cache warning =>
          simp only [found, taken] at member
          obtain ⟨note, among, same⟩ := List.mem_map.mp member
          obtain ⟨-, -, rfl⟩ := Entry.mk.inj same
          obtain ⟨reference, permit, rfl⟩ := Caller.phase_of_fails taken
            (Caller.closes_of_mem_notes among) fails
          obtain ⟨known, -⟩ := (sound.fits id caller found).known reference
            (Caller.Phase.reference?_of_permit? permit)
          have empty := (sound.fits id caller found).content reference none
            permit
          refine ⟨caller, reference, rfl, permit, ?_⟩
          rw [cache_turn_of_step found taken, LinkCache.settle,
            LinkCache.reference_replace_self known, Reference.settle, empty]
          rfl
      | _ => simp [found, taken] at member

/-- Who comes to wait has found somebody else who may connect, or the link. -/
theorem lost_claim (sound : Sound owner calls) {reference : ReferenceId}
    (before : calls.phaseAt id = some (.claim reference))
    (after : (calls.turn id).phaseAt id = some (.await reference)) :
    (∃ other, other ≠ id ∧ (reference, other) ∈ calls.permits) ∨
      (calls.cache.reference reference).stored.isSome := by
  obtain ⟨caller, found, phase⟩ := phaseAt_eq_some_iff.mp before
  have busy : (calls.cache.reference reference).state ≠ .idle := by
    intro idle
    obtain ⟨below, -⟩ := List.getElem?_eq_some_iff.mp found
    have won : (calls.cache.claim reference).1 = true := by
      simp [LinkCache.claim, Reference.claim, idle]
    have taken : caller.turn calls.cache =
        .step (caller.enterPhase (.connecting reference))
          (calls.cache.claim reference).2 none := by
      simp [Caller.turn, phase, won]
    simp only [phaseAt, Calls.turn, found, taken,
      List.getElem?_set_self below, Option.map_some] at after
    cases after
  cases state : (calls.cache.reference reference).state with
  | idle => exact (busy state).elim
  | connecting =>
      obtain ⟨other, holds⟩ := (sound.connecting reference).mp state
      refine .inl ⟨other, ?_, holds⟩
      rintro rfl
      obtain ⟨content, permit⟩ := sound.permit_of_mem found holds
      simp [phase, Caller.Phase.permit?] at permit
  | established => exact .inr (sound.established reference state)

end Sound

/-! ## Runs -/

/-- The result of a call after its rounds: that of the last round, an error if
there were as many as there may be, or none yet. -/
theorem outcome_iff {caller : Caller Λ} {rounds : List (Round Λ)}
    (stands : caller.Stands rounds) (result : CallResult Λ) :
    caller.outcome? = some result ↔
      (∃ last, rounds.getLast? = some last ∧ last.result? = some result) ∨
        rounds.length = caller.policy.retries.toNat + 1 ∧
          (∀ round ∈ rounds, round.Fruitless) ∧
            result =
              .error (.connect caller.address caller.policy.attempts) := by
  have nothing : ∀ {rounds : List (Round Λ)},
      (∀ round ∈ rounds, round.Fruitless) →
        ¬ ∃ last, rounds.getLast? = some last ∧ last.result? = some result := by
    rintro rounds fruitless ⟨last, isLast, fruitful⟩
    rw [fruitless last (List.mem_of_getLast? isLast)] at fruitful
    cases fruitful
  cases stands with
  | underWay phase fruitless count within =>
      have within := UInt32.le_iff_toNat_le.mp within
      rw [Caller.outcome_of_underWay phase]
      constructor
      · rintro ⟨⟩
      · rintro (last | ⟨all, -⟩)
        · exact (nothing fruitless last).elim
        · omega
  | pausing phase fruitless count more =>
      have more := UInt32.lt_iff_toNat_lt.mp more
      have none : caller.outcome? = none := by simp [Caller.outcome?, phase]
      rw [none]
      constructor
      · rintro ⟨⟩
      · rintro (last | ⟨all, -⟩)
        · exact (nothing fruitless last).elim
        · omega
  | ended last fruitless within fruitful outcome =>
      rw [outcome, ← fruitful]
      constructor
      · intro same
        exact .inl ⟨last, List.getLast?_concat, same⟩
      · rintro (⟨other, isLast, same⟩ | ⟨-, all, -⟩)
        · rw [List.getLast?_concat] at isLast
          exact Option.some.inj isLast ▸ same
        · have none : last.result? = none := all last (by simp)
          rw [none] at fruitful
          cases fruitful
  | spent fruitless count outcome =>
      rw [outcome]
      constructor
      · intro same
        exact .inr ⟨count, fruitless, (Option.some.inj same).symm⟩
      · rintro (last | ⟨-, -, rfl⟩)
        · exact (nothing fruitless last).elim
        · rfl

theorem attempts_toNat {policy : RetryPolicy}
    (bounded : policy.retries.toNat + 1 < UInt32.size) :
    policy.attempts.toNat = policy.retries.toNat + 1 := by
  have fits : policy.retries.toNat + UInt32.toNat 1 < UInt32.size := bounded
  rw [RetryPolicy.attempts, PortAllocator.saturatingAdd, if_pos fits,
    UInt32.toNat_add, UInt32.toNat_one]
  exact Nat.mod_eq_of_lt bounded

/-- Rounds before the last are fruitless, and there are not more than the policy
allows. -/
theorem rounds_of_stands {caller : Caller Λ} {rounds : List (Round Λ)}
    (stands : caller.Stands rounds) :
    (∀ round ∈ rounds.dropLast, round.Fruitless) ∧
      rounds.length ≤ caller.policy.retries.toNat + 1 ∧
        (caller.outcome? = none →
          rounds.length ≤ caller.policy.retries.toNat) := by
  have dropped : ∀ {rounds : List (Round Λ)},
      (∀ round ∈ rounds, round.Fruitless) →
        ∀ round ∈ rounds.dropLast, round.Fruitless :=
    fun fruitless round member =>
      fruitless round (List.dropLast_subset _ member)
  cases stands with
  | underWay phase fruitless count within =>
      have within := UInt32.le_iff_toNat_le.mp within
      exact ⟨dropped fruitless, by omega, fun _ => by omega⟩
  | pausing phase fruitless count more =>
      have more := UInt32.lt_iff_toNat_lt.mp more
      exact ⟨dropped fruitless, by omega, fun _ => by omega⟩
  | ended last fruitless within fruitful outcome =>
      rw [List.dropLast_concat, List.length_append, List.length_singleton]
      exact ⟨fruitless, by omega, fun none => by simp [none] at outcome⟩
  | spent fruitless count outcome =>
      exact ⟨dropped fruitless, by omega, fun none => by simp [none] at outcome⟩

/-- What a caller has done in its calls to establish a link.  All but the last
have ended with one that was dead. -/
structure Account (caller : Caller Λ) (earlier : List (List (Round Λ)))
    (rounds : List (Round Λ)) (log : List (Note Λ)) : Prop where
  log : log = earlier.flatMap
      (fun call => Round.script caller.policy call ++ [.renews]) ++
    (Round.script caller.policy rounds ++ caller.phase.opening)
  settled : ∀ call ∈ earlier, Caller.Settles caller.policy call
  fruitless : ∀ round ∈ rounds.dropLast, round.Fruitless
  limit : rounds.length ≤ caller.policy.retries.toNat + 1
  goesOn : caller.outcome? = none →
    rounds.length ≤ caller.policy.retries.toNat
  /-- The first round with a result ends the call. -/
  fruitful : ∀ last result, rounds.getLast? = some last →
    last.result? = some result → caller.outcome? = some result
  /-- A call ends in no other way but by an error that counts its attempts. -/
  ends : ∀ result, caller.outcome? = some result →
    (∃ last, rounds.getLast? = some last ∧ last.result? = some result) ∨
      ∃ attempts, result = .error (.connect caller.address attempts)
  spent : ∀ address attempts,
    caller.outcome? = some (.error (.connect address attempts)) ↔
      (address = caller.address ∧
        attempts.toNat = caller.policy.retries.toNat + 1) ∧
      rounds.length = caller.policy.retries.toNat + 1 ∧
        ∀ round ∈ rounds, round.Fruitless

theorem account_of_tells {caller : Caller Λ}
    {earlier : List (List (Round Λ))} {rounds : List (Round Λ)}
    {log : List (Note Λ)} (tells : caller.Tells earlier rounds log)
    (bounded : caller.policy.retries.toNat + 1 < UInt32.size) :
    Account caller earlier rounds log := by
  obtain ⟨fruitless, limit, goesOn⟩ := rounds_of_stands tells.stands
  have outcome := outcome_iff tells.stands
  have attempts := attempts_toNat bounded
  refine ⟨tells.log, tells.settled, fruitless, limit, goesOn, ?_, ?_, ?_⟩
  · intro last result isLast fruitful
    exact (outcome result).mpr (.inl ⟨last, isLast, fruitful⟩)
  · intro result ends
    rcases (outcome result).mp ends with fruit | ⟨-, -, same⟩
    · exact .inl fruit
    · exact .inr ⟨_, same⟩
  · intro address count
    rw [outcome]
    constructor
    · rintro (⟨last, -, fruit⟩ | ⟨all, none, same⟩)
      · -- No round has this error as its result.
        unfold Round.result? at fruit
        split at fruit <;> cases fruit
      · obtain ⟨rfl, rfl⟩ := Error.connect.inj (CallResult.error.inj same)
        exact ⟨⟨rfl, attempts⟩, all, none⟩
    · rintro ⟨⟨rfl, same⟩, all, none⟩
      refine .inr ⟨all, none, ?_⟩
      rw [UInt32.toNat_inj.mp (same.trans attempts.symm)]

/-- However the steps of callers are interleaved, a caller goes through its calls
round by round, and what is noted of it is the script of their rounds: in each it
finds a link, or waits, or calls its connector once, and it pauses after a refused
attempt unless that was in the last round that there may be.  A call ends at the
first round with a result, or with an error after as many fruitless rounds as there
may be.  An attempt that fails leaves its reference idle and without a link, and
whoever is to wait has found another one who may connect, or the link. -/
theorem establishes_in_rounds (actions : List (Action Λ)) {id : CallerId}
    {caller : Caller Λ} (found : (start.run actions).callers[id]? = some caller)
    (bounded : caller.policy.retries.toNat + 1 < UInt32.size) :
    (∃ earlier rounds,
      Account caller earlier rounds (logOf id (start.log actions))) ∧
    (∀ before after address round, actions = before ++ .turn id :: after →
      ⟨id, address, .ends round⟩ ∈ (start.run before).entries (.turn id) →
        round.Fails → ∃ trying reference,
          (start.run before).callers[id]? = some trying ∧
          trying.phase.permit? = some (reference, none) ∧
          ((start.run before).turn id).cache.reference reference = .new) ∧
    (∀ before after reference, actions = before ++ .turn id :: after →
      (start.run before).phaseAt id = some (.claim reference) →
        ((start.run before).turn id).phaseAt id = some (.await reference) →
          (∃ other, other ≠ id ∧
            (reference, other) ∈ (start.run before).permits) ∨
          ((start.run before).cache.reference reference).stored.isSome) := by
  refine ⟨?_, ?_, ?_⟩
  · obtain ⟨earlier, rounds, tells⟩ :=
      (logged_run Caller.lasting_accounts actions).each id caller found
    exact ⟨earlier, rounds, account_of_tells tells bounded⟩
  · rintro before after address round - member fails
    obtain ⟨owner, sound⟩ := sound_run (Λ := Λ) before
    exact sound.idle_of_fails member fails
  · rintro before after reference - phase next
    obtain ⟨owner, sound⟩ := sound_run (Λ := Λ) before
    exact sound.lost_claim phase next

/-- Two callers with one retry each.  The first is refused and pauses; the second
has waited for it, tries in its turn and is refused, while the first waits. -/
theorem establishes_in_rounds_of_two :
    let address : Address := ⟨"peer", 9000⟩
    let policy : RetryPolicy := ⟨1, .ofMillis 5⟩
    let refused : Attempt String := .failed (IoError.ofKind .connectionRefused)
    let actions : List (Action String) := List.flatten
      [[.call address policy false, .call address policy false],
        List.replicate 4 (.turn 0), List.replicate 4 (.turn 1),
        [.connected 0 refused, .turn 0], List.replicate 6 (.turn 1),
        [.resumed 0], List.replicate 4 (.turn 0),
        [.connected 1 refused, .turn 1], List.replicate 3 (.turn 0)]
    let calls := start.run actions
    let first : Caller String :=
      ⟨0, address, policy, none, 1, .finished (.error (.connect address 2))⟩
    calls.callers.map Caller.result? =
        List.replicate 2 (some (.error (.connect address 2))) ∧
      logOf 0 (start.log actions) =
        Round.script policy [.refused, .waited none] ∧
      logOf 1 (start.log actions) =
        Round.script policy [.waited none, .refused] ∧
      calls.callers[0]? = some first ∧ policy.retries.toNat + 1 < UInt32.size ∧
      ∃ earlier rounds,
        Account first earlier rounds (logOf 0 (start.log actions)) := by
  intro address policy refused actions calls first
  have found : calls.callers[0]? = some first := by decide +kernel
  have bounded : policy.retries.toNat + 1 < UInt32.size := by decide
  obtain ⟨account, -, -⟩ := establishes_in_rounds actions found bounded
  refine ⟨?_, ?_, ?_, found, bounded, account⟩
  · decide +kernel
  · decide +kernel
  · decide +kernel

end Calls

end RemoteMessaging
