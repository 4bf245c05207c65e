import RemoteMessaging.Link.Run

/-!
# Insisting on a live link

A caller that insists on a live link first goes on like one that takes any link.
When that one has its link, the caller looks whether the link is live; a dead one
it evicts, to begin again.  So a call for a live link is a row of calls for any
link, all of which but the last have got a dead one.
-/

namespace RemoteMessaging

variable {σ Λ : Type}

namespace Caller

section Run

variable {outside : Outside σ Λ} {caller next : Caller Λ}
variable {cache after : LinkCache Λ} {state : σ}

theorem run_of_step {warning : Option String}
    (taken : caller.turn cache = .step next after warning)
    (awake : next.isAsleep = false) :
    caller.run outside cache state =
      next.run outside after (warning.elim state (outside.warn · state)) := by
  rw [run]
  split
  all_goals
    rename_i taken'
    cases taken.symm.trans taken'
  simp [awake]

theorem run_of_connect (taken : caller.turn cache = .connect) :
    caller.run outside cache state =
      let (attempt, after, state) := outside.connect caller.address cache state
      (caller.connected attempt).run outside after state := by
  rw [run]
  split
  all_goals
    rename_i taken'
    cases taken.symm.trans taken'
  rfl

theorem run_of_pause {delay : Duration}
    (taken : caller.turn cache = .pause delay) :
    caller.run outside cache state =
      let (after, state) := outside.pause delay cache state
      caller.resumed.run outside after state := by
  rw [run]
  split
  all_goals
    rename_i taken'
    cases taken.symm.trans taken'
  rfl

theorem run_of_judge {link : Issued Λ}
    (taken : caller.turn cache = .judge link) :
    caller.run outside cache state =
      let (live, state) := outside.isLive link state
      (caller.judged live).run outside cache state := by
  rw [run]
  split
  all_goals
    rename_i taken'
    cases taken.symm.trans taken'
  rfl

theorem run_of_done {result : CallResult Λ}
    (ended : caller.phase = .finished result) :
    caller.run outside cache state = (caller, cache, state) := by
  have taken : caller.turn cache = .done result := by
    simp only [turn, ended]
  rw [run]
  split
  all_goals
    rename_i taken'
    cases taken.symm.trans taken'
  rfl

end Run

def Phase.Searches : Phase Λ → Prop
  | .judging _ | .discard _ => False
  | _ => True

/-- A call for any link is under way. -/
structure Plain (id : CallerId) (address : Address) (policy : RetryPolicy)
    (caller : Caller Λ) : Prop where
  id : caller.id = id
  address : caller.address = address
  policy : caller.policy = policy
  content : caller.replacements = none
  searches : caller.phase.Searches

/-- The same caller, if it insists on a live link and may still replace so many
dead ones. -/
def insisting (caller : Caller Λ) (left : UInt32) : Caller Λ :=
  match caller.phase with
  | .finished (.link link) =>
      { caller with replacements := some left, phase := .judging link }
  | _ => { caller with replacements := some left }

theorem plain_start (id : CallerId) (address : Address) (policy : RetryPolicy) :
    (start id address policy : Caller Λ).Plain id address policy :=
  ⟨rfl, rfl, rfl, rfl, trivial⟩

section Plain

variable {id : CallerId} {address : Address} {policy : RetryPolicy}
variable {caller next : Caller Λ} {cache after : LinkCache Λ} {left : UInt32}

theorem Plain.enterPhase (plain : caller.Plain id address policy)
    {phase : Phase Λ} (searches : phase.Searches) :
    (caller.enterPhase phase).Plain id address policy :=
  { plain with searches := searches }

theorem Plain.advance (plain : caller.Plain id address policy) :
    caller.advance.Plain id address policy := by
  unfold Caller.advance
  split
  · exact plain.enterPhase trivial
  · exact { plain with searches := trivial }

theorem insisting_enterPhase (caller : Caller Λ) {phase : Phase Λ}
    (none : ∀ link, phase ≠ .finished (.link link)) :
    (caller.enterPhase phase).insisting left =
      { caller with replacements := some left, phase := phase } := by
  unfold insisting enterPhase
  split
  · rename_i link found
    exact (none link found).elim
  · rfl

theorem insisting_of_searching {phase : Phase Λ} (here : caller.phase = phase)
    (none : ∀ link, phase ≠ .finished (.link link)) :
    caller.insisting left = { caller with replacements := some left } := by
  unfold insisting
  split
  · rename_i link found
    exact (none link (here ▸ found)).elim
  · rfl

theorem insisting_advance (caller : Caller Λ) :
    caller.advance.insisting left =
      { caller with replacements := some left }.advance := by
  unfold advance
  split
  · exact insisting_enterPhase caller (by simp)
  · rfl

theorem insisting_obtain (plain : caller.Plain id address policy) (left : UInt32)
    (link : Issued Λ) :
    (caller.obtain link).Plain id address policy ∧
      (caller.obtain link).insisting left =
        { caller with replacements := some left }.obtain link := by
  have ends : caller.obtain link = caller.finish (.link link) := by
    simp only [obtain, plain.content]
  rw [ends]
  exact ⟨plain.enterPhase trivial, rfl⟩

/-- Both callers take the same turn. -/
theorem turn_insisting (plain : caller.Plain id address policy)
    {warning : Option String}
    (taken : caller.turn cache = .step next after warning) (left : UInt32) :
    next.Plain id address policy ∧
      (caller.insisting left).turn cache =
        .step (next.insisting left) after warning := by
  have searching : ∀ {phase : Phase Λ}, caller.phase = phase →
      (∀ link, phase ≠ .finished (.link link)) →
      caller.insisting left = { caller with replacements := some left } :=
    insisting_of_searching
  -- One case for each phase.  The callers differ where they obtain a link, and a
  -- plain one has nothing to judge or to discard.
  unfold turn at taken
  split at taken
  all_goals rename_i phase
  · rw [searching phase (by simp)]
    split at taken <;> rename_i found <;>
      obtain ⟨rfl, rfl, rfl⟩ := Turn.step.inj taken <;>
      exact ⟨plain.enterPhase trivial, by simp only [turn, phase, found]; rfl⟩
  · obtain ⟨rfl, rfl, rfl⟩ := Turn.step.inj taken
    rw [searching phase (by simp)]
    exact ⟨plain.enterPhase trivial, by simp only [turn, phase]; rfl⟩
  · rw [searching phase (by simp)]
    split at taken <;> rename_i found <;>
      obtain ⟨rfl, rfl, rfl⟩ := Turn.step.inj taken
    · obtain ⟨goes, same⟩ := insisting_obtain plain left _
      exact ⟨goes, by simp only [turn, phase, found, same]⟩
    · exact ⟨plain.enterPhase trivial, by simp only [turn, phase, found]; rfl⟩
  · obtain ⟨rfl, rfl, rfl⟩ := Turn.step.inj taken
    rw [searching phase (by simp)]
    refine ⟨plain.enterPhase ?_, ?_⟩
    · split <;> trivial
    · rw [insisting_enterPhase caller (by split <;> simp)]
      simp only [turn, phase]
      rfl
  · obtain ⟨rfl, rfl, rfl⟩ := Turn.step.inj taken
    rw [searching phase (by simp)]
    refine ⟨plain.enterPhase ?_, ?_⟩
    · split <;> trivial
    · rw [insisting_enterPhase caller (by split <;> simp)]
      simp only [turn, phase]
      rfl
  · rw [searching phase (by simp)]
    split at taken
    · cases taken
    · rename_i found
      obtain ⟨rfl, rfl, rfl⟩ := Turn.step.inj taken
      exact ⟨plain.enterPhase trivial,
        by simp only [turn, phase, if_neg found]; rfl⟩
  · rw [searching phase (by simp)]
    split at taken <;> rename_i found <;>
      obtain ⟨rfl, rfl, rfl⟩ := Turn.step.inj taken
    · obtain ⟨goes, same⟩ := insisting_obtain plain left _
      exact ⟨goes, by simp only [turn, phase, found, same]⟩
    · exact ⟨plain.advance,
        by simp only [turn, phase, found, insisting_advance]⟩
  · cases taken
  · obtain ⟨rfl, rfl, rfl⟩ := Turn.step.inj taken
    rw [searching phase (by simp)]
    exact ⟨plain.enterPhase trivial, by simp only [turn, phase]; rfl⟩
  · obtain ⟨rfl, rfl, rfl⟩ := Turn.step.inj taken
    obtain ⟨goes, same⟩ := insisting_obtain plain left _
    rw [searching phase (by simp)]
    exact ⟨goes, by simp only [turn, phase, same]⟩
  · obtain ⟨rfl, rfl, rfl⟩ := Turn.step.inj taken
    rw [searching phase (by simp)]
    simp only [turn, phase]
    split
    · exact ⟨plain.enterPhase trivial, rfl⟩
    · exact ⟨plain.advance, by rw [insisting_advance]; rfl⟩
  · obtain ⟨rfl, rfl, rfl⟩ := Turn.step.inj taken
    rw [searching phase (by simp)]
    exact ⟨plain.enterPhase trivial, by simp only [turn, phase]; rfl⟩
  · obtain ⟨rfl, rfl, rfl⟩ := Turn.step.inj taken
    rw [searching phase (by simp)]
    exact ⟨plain.enterPhase trivial, by simp only [turn, phase]; rfl⟩
  · cases taken
  · cases taken
  · have searches := plain.searches
    simp [phase, Phase.Searches] at searches
  · cases taken

theorem connected_insisting (plain : caller.Plain id address policy)
    (attempt : Attempt Λ) (left : UInt32) :
    (caller.connected attempt).Plain id address policy ∧
      (caller.insisting left).connected attempt =
        (caller.connected attempt).insisting left := by
  cases phase : caller.phase with
  | connecting reference =>
      rw [insisting_of_searching phase (by simp)]
      simp only [connected, phase]
      cases attempt with
      | connected link => exact ⟨plain.enterPhase trivial, rfl⟩
      | failed error =>
          simp only
          split <;> exact ⟨plain.enterPhase trivial, rfl⟩
      | panicked => exact ⟨plain.enterPhase trivial, rfl⟩
  | finished result =>
      have stays : caller.connected attempt = caller := by
        simp only [connected, phase]
      rw [stays]
      refine ⟨plain, ?_⟩
      cases result <;> simp only [insisting, phase, connected]
  | _ =>
      have stays : caller.connected attempt = caller := by
        simp only [connected, phase]
      rw [stays, insisting_of_searching phase (by simp)]
      exact ⟨plain, by simp only [connected, phase]⟩

theorem resumed_insisting (plain : caller.Plain id address policy)
    (left : UInt32) :
    caller.resumed.Plain id address policy ∧
      (caller.insisting left).resumed = caller.resumed.insisting left := by
  cases phase : caller.phase with
  | pausing =>
      rw [insisting_of_searching phase (by simp)]
      simp only [resumed, phase]
      exact ⟨plain.advance, (insisting_advance caller).symm⟩
  | finished result =>
      have stays : caller.resumed = caller := by simp only [resumed, phase]
      rw [stays]
      refine ⟨plain, ?_⟩
      cases result <;> simp only [insisting, phase, resumed]
  | _ =>
      have stays : caller.resumed = caller := by simp only [resumed, phase]
      rw [stays, insisting_of_searching phase (by simp)]
      exact ⟨plain, by simp only [resumed, phase]⟩

@[simp] theorem address_insisting (caller : Caller Λ) (left : UInt32) :
    (caller.insisting left).address = caller.address := by
  unfold insisting
  split <;> rfl

@[simp] theorem isAsleep_insisting (caller : Caller Λ) (left : UInt32) :
    (caller.insisting left).isAsleep = caller.isAsleep := by
  unfold insisting
  split
  · rename_i link ended
    simp only [isAsleep, ended]
  · rfl

/-- The caller that insists goes on like the one that takes any link, until that
has ended. -/
theorem run_insisting {outside : Outside σ Λ} {state : σ}
    (plain : caller.Plain id address policy) {last : Caller Λ}
    {final : LinkCache Λ} {state' : σ}
    (ends : caller.run outside cache state = (last, final, state'))
    {result : CallResult Λ} (ended : last.result? = some result)
    (left : UInt32) :
    last.Plain id address policy ∧
      (caller.insisting left).run outside cache state =
        (last.insisting left).run outside final state' := by
  fun_induction Caller.run outside caller cache state with
  | case1 caller cache state next after warning taken told awake _ induction =>
      obtain ⟨plain', taken'⟩ := turn_insisting plain taken left
      obtain ⟨ended', same⟩ := induction plain' ends
      refine ⟨ended', ?_⟩
      rw [run_of_step taken' ((isAsleep_insisting next left).trans awake)]
      exact same
  | case2 caller cache state next after warning taken told asleep =>
      obtain ⟨rfl, -⟩ := Prod.mk.inj ends
      exact (asleep (not_isAsleep_of_result? ended)).elim
  | case3 caller cache state taken attempt after told asked _ induction =>
      obtain ⟨reference, phase⟩ := phase_of_connect taken
      obtain ⟨plain', next⟩ := connected_insisting plain attempt left
      obtain ⟨ended', same⟩ := induction plain' ends
      refine ⟨ended', ?_⟩
      rw [run_of_connect (by
        rw [insisting_of_searching phase (by simp)]
        simp only [turn, phase])]
      simp only [address_insisting, asked, next, same]
  | case4 caller cache state delay taken after told asked _ induction =>
      have phase := phase_of_pause taken
      obtain ⟨plain', next⟩ := resumed_insisting plain left
      obtain ⟨ended', same⟩ := induction plain' ends
      refine ⟨ended', ?_⟩
      have taken' : (caller.insisting left).turn cache = .pause delay := by
        rw [← taken, insisting_of_searching phase (by simp)]
        simp only [turn, phase]
      rw [run_of_pause taken']
      simp only [asked, next, same]
  | case5 caller cache state link taken live told asked _ induction =>
      have searches := plain.searches
      simp [phase_of_judge taken, Phase.Searches] at searches
  | case6 caller cache state taken =>
      obtain ⟨rfl, -⟩ := Prod.mk.inj ends
      simp [turn, phase_of_result? ended] at taken
  | case7 caller cache state taken =>
      obtain ⟨rfl, rest⟩ := Prod.mk.inj ends
      obtain ⟨rfl, rfl⟩ := Prod.mk.inj rest
      exact ⟨plain, rfl⟩

end Plain

/-- A caller on a cache ends with a result, and leaves a cache behind. -/
def Returns (outside : Outside σ Λ) (caller : Caller Λ) (cache : LinkCache Λ)
    (state : σ) (result : CallResult Λ) (after : LinkCache Λ) (told : σ) : Prop :=
  ∃ last, caller.run outside cache state = (last, after, told) ∧
    last.result? = some result

/-- Calls for any link, one after another, each of which gets a link that is dead
and evicted. -/
inductive Replaces (outside : Outside σ Λ) (caller : Caller Λ) :
    LinkCache Λ → σ → List (Issued Λ) → LinkCache Λ → σ → Prop where
  | none (cache : LinkCache Λ) (state : σ) :
      Replaces outside caller cache state [] cache state
  | more {cache after final : LinkCache Λ} {state told judged last : σ}
      {link : Issued Λ} {links : List (Issued Λ)}
      (returns : caller.Returns outside cache state (.link link) after told)
      (dead : outside.isLive link told = (false, judged))
      (rest : Replaces outside caller (after.evict caller.address link).2 judged
        links final last) :
      Replaces outside caller cache state (link :: links) final last

section Returns

variable {outside : Outside σ Λ} {id : CallerId} {address : Address}
variable {policy : RetryPolicy} {cache after final : LinkCache Λ}
variable {state told judged last : σ} {link : Issued Λ} {result : CallResult Λ}

/-- A call for a live link fails if its first call for any link does. -/
theorem returns_of_failure
    (returns : (start id address policy).Returns outside cache state result
      after told)
    (failure : ∀ link, result ≠ .link link) (left : UInt32) :
    ((start id address policy).insisting left).Returns outside cache state result
      after told := by
  obtain ⟨caller, ends, ended⟩ := returns
  obtain ⟨-, same⟩ := run_insisting (plain_start id address policy) ends ended left
  have phase := phase_of_result? ended
  have stays : caller.insisting left = { caller with replacements := some left } :=
    insisting_of_searching phase (by simpa using failure)
  have phase' : (caller.insisting left).phase = .finished result := by
    rw [stays]
    exact phase
  refine ⟨_, same.trans (run_of_done phase'), ?_⟩
  rw [stays]
  exact ended

theorem run_of_link
    (returns : (start id address policy).Returns outside cache state (.link link)
      after told)
    (left : UInt32) :
    ∃ attempt, ((start id address policy).insisting left).run outside cache state =
      let caller : Caller Λ :=
        ⟨id, address, policy, some left, attempt, .judging link⟩
      let (live, judged) := outside.isLive link told
      (caller.judged live).run outside after judged := by
  obtain ⟨⟨_, _, _, _, attempt, _⟩, ends, ended⟩ := returns
  obtain ⟨⟨rfl, rfl, rfl, rfl, -⟩, same⟩ :=
    run_insisting (plain_start id address policy) ends ended left
  obtain rfl := phase_of_result? ended
  exact ⟨attempt, same.trans (run_of_judge rfl)⟩

theorem returns_of_live
    (returns : (start id address policy).Returns outside cache state (.link link)
      after told)
    (live : outside.isLive link told = (true, judged)) (left : UInt32) :
    ((start id address policy).insisting left).Returns outside cache state
      (.link link) after judged := by
  obtain ⟨attempt, same⟩ := run_of_link returns left
  rw [live] at same
  exact ⟨_, same.trans (run_of_done rfl), rfl⟩

theorem returns_of_dead
    (returns : (start id address policy).Returns outside cache state (.link link)
      after told)
    (dead : outside.isLive link told = (false, judged)) :
    ((start id address policy).insisting 0).Returns outside cache state
      (.link link) (after.evict address link).2 judged := by
  obtain ⟨attempt, same⟩ := run_of_link returns 0
  rw [dead] at same
  exact ⟨_, same.trans ((run_of_step rfl rfl).trans (run_of_done rfl)), rfl⟩

/-- A dead link that may be replaced is evicted, and the call begins again. -/
theorem returns_of_replaced
    (returns : (start id address policy).Returns outside cache state (.link link)
      after told)
    (dead : outside.isLive link told = (false, judged)) {left : UInt32}
    (more : left ≠ 0)
    (rest : ((start id address policy).insisting (left - 1)).Returns outside
      (after.evict address link).2 judged result final last) :
    ((start id address policy).insisting left).Returns outside cache state result
      final last := by
  obtain ⟨attempt, same⟩ := run_of_link returns left
  rw [dead] at same
  obtain ⟨caller, ends, ended⟩ := rest
  have renews : (⟨id, address, policy, some left, attempt, .discard link⟩ :
      Caller Λ).replace link = (start id address policy).insisting (left - 1) := by
    simp only [replace, if_neg more]
    rfl
  have discards : (⟨id, address, policy, some left, attempt, .discard link⟩ :
      Caller Λ).turn after =
        .step ((start id address policy).insisting (left - 1))
          (after.evict address link).2 none :=
    congrArg (Turn.step · (after.evict address link).2 none) renews
  exact ⟨caller, same.trans ((run_of_step discards rfl).trans ends), ended⟩

end Returns

end Caller

end RemoteMessaging
