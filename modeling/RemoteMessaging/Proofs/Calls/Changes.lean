import RemoteMessaging.Proofs.Calls.Entries

/-!
# What steps change for others

Seen from outside, a cache has links that were established and, for each address,
perhaps one of them.  A step establishes at most one more link, and takes links
from their addresses only if it evicts them.  A caller changes by its own steps
alone.
-/

namespace RemoteMessaging

variable {Λ : Type}

namespace LinkCache

theorem get?_evictIf {cache : LinkCache Λ} {other : Address}
    {link : Issued Λ} (address : Address) (condition : Issued Λ → Bool)
    (has : cache.get? other = some link) :
    (cache.evictIf address condition).2.get? other = some link ∨
      condition link = true := by
  obtain ⟨id, found, stored⟩ := get?_eq_some_iff.mp has
  by_cases same : other = address
  · subst same
    by_cases evicted : (cache.evictIf other condition).1 = true
    · obtain ⟨link', has', holds⟩ := get?_of_evictIf evicted
      obtain rfl := Option.some.inj (has.symm.trans has')
      exact .inr holds
    · left
      apply get?_eq_some_iff.mpr
      refine ⟨id, ?_, by simpa using stored⟩
      rw [find?_evictIf_self, if_neg evicted, found]
  · left
    apply get?_eq_some_iff.mpr
    refine ⟨id, ?_, by simpa using stored⟩
    rw [find?_evictIf_of_ne cache same, found]

theorem store_of_empty {cache : LinkCache Λ} {id : ReferenceId}
    (empty : (cache.reference id).stored = none) (link : Λ) :
    (cache.store id link).1 = ⟨cache.issued, link⟩ ∧
      (cache.store id link).2.issued = cache.issued + 1 := by
  have empty' : ((cache.issue link).2.reference id).stored = none := empty
  simp only [store, Reference.store, empty']
  exact ⟨rfl, rfl⟩

end LinkCache

namespace Caller

/-- A phase that answers from outside lead to. -/
def Phase.Answered : Phase Λ → Prop
  | .store _ _ | .discard _ => True
  | _ => False

theorem not_answered_advance (caller : Caller Λ) :
    ¬ caller.advance.phase.Answered := by
  unfold advance
  split <;> simp [finish, enterPhase, Phase.Answered]

theorem not_answered_obtain (caller : Caller Λ) (link : Issued Λ) :
    ¬ (caller.obtain link).phase.Answered := by
  unfold obtain
  split <;> simp [finish, enterPhase, Phase.Answered]

theorem not_answered_replace (caller : Caller Λ) (link : Issued Λ) :
    ¬ (caller.replace link).phase.Answered := by
  unfold replace
  split
  · simp [finish, enterPhase, Phase.Answered]
  · split <;> simp [finish, enterPhase, Phase.Answered]

/-- Nobody takes a turn who waits for its connector, or comes to a phase by it
that needs an answer from outside. -/
theorem phase_of_turn {caller next : Caller Λ} {cache after : LinkCache Λ}
    {warning : Option String}
    (taken : caller.turn cache = .step next after warning) :
    ¬ next.phase.Answered ∧
      ∀ reference, caller.phase ≠ .connecting reference := by
  unfold turn at taken
  split at taken
  all_goals rename_i phase
  · split at taken <;> obtain ⟨rfl, -, -⟩ := Turn.step.inj taken <;>
      simp [phase, enterPhase, Phase.Answered]
  · obtain ⟨rfl, -, -⟩ := Turn.step.inj taken
    simp [phase, enterPhase, Phase.Answered]
  · split at taken <;> obtain ⟨rfl, -, -⟩ := Turn.step.inj taken
    · exact ⟨not_answered_obtain _ _, by simp [phase]⟩
    · simp [phase, enterPhase, Phase.Answered]
  · obtain ⟨rfl, -, -⟩ := Turn.step.inj taken
    refine ⟨?_, by simp [phase]⟩
    simp only [enterPhase]
    split <;> simp [Phase.Answered]
  · obtain ⟨rfl, -, -⟩ := Turn.step.inj taken
    refine ⟨?_, by simp [phase]⟩
    simp only [enterPhase]
    split <;> simp [Phase.Answered]
  · split at taken
    · simp at taken
    · obtain ⟨rfl, -, -⟩ := Turn.step.inj taken
      simp [phase, enterPhase, Phase.Answered]
  · split at taken <;> obtain ⟨rfl, -, -⟩ := Turn.step.inj taken
    · exact ⟨not_answered_obtain _ _, by simp [phase]⟩
    · exact ⟨not_answered_advance _, by simp [phase]⟩
  · simp at taken
  · obtain ⟨rfl, -, -⟩ := Turn.step.inj taken
    simp [phase, enterPhase, Phase.Answered]
  · obtain ⟨rfl, -, -⟩ := Turn.step.inj taken
    exact ⟨not_answered_obtain _ _, by simp [phase]⟩
  · obtain ⟨rfl, -, -⟩ := Turn.step.inj taken
    refine ⟨?_, by simp [phase]⟩
    split
    · simp [enterPhase, Phase.Answered]
    · exact not_answered_advance _
  · obtain ⟨rfl, -, -⟩ := Turn.step.inj taken
    simp [phase, finish, enterPhase, Phase.Answered]
  · obtain ⟨rfl, -, -⟩ := Turn.step.inj taken
    simp [phase, finish, enterPhase, Phase.Answered]
  · simp at taken
  · simp at taken
  · obtain ⟨rfl, -, -⟩ := Turn.step.inj taken
    exact ⟨not_answered_replace _ _, by simp [phase]⟩
  · simp at taken

end Caller

namespace Calls

def Established (calls : Calls Λ) (link : Issued Λ) : Prop :=
  ∃ id, (calls.cache.reference id).stored = some link

/-- How a step changes the established links and those of the addresses: it may
store one link, and evict links that satisfy a condition. -/
structure Changes (calls next : Calls Λ) (stored : Option (Issued Λ))
    (evicted : Issued Λ → Prop) : Prop where
  established : ∀ link, next.Established link ↔
    calls.Established link ∨ stored = some link
  issued : next.cache.issued = calls.cache.issued + stored.toList.length
  numbered : ∀ link, stored = some link → link.serial = calls.cache.issued
  kept : ∀ address link, calls.cache.get? address = some link →
    next.cache.get? address = some link ∨ evicted link

def phaseAt (calls : Calls Λ) (id : CallerId) : Option (Caller.Phase Λ) :=
  calls.callers[id]?.map Caller.phase

namespace Changes

theorem of_stored {calls next : Calls Λ} {evicted : Issued Λ → Prop}
    (stored : ∀ id, (next.cache.reference id).stored =
      (calls.cache.reference id).stored)
    (issued : next.cache.issued = calls.cache.issued)
    (kept : ∀ address link, calls.cache.get? address = some link →
      next.cache.get? address = some link ∨ evicted link) :
    Changes calls next none evicted := by
  refine ⟨?_, by simpa using issued, by simp, kept⟩
  intro link
  simp [Established, stored]

theorem of_cache {calls next : Calls Λ} {evicted : Issued Λ → Prop}
    (same : next.cache = calls.cache) : Changes calls next none evicted := by
  apply of_stored
  · simp [same]
  · rw [same]
  · intro address link has
    rw [same]
    exact .inl has

theorem of_evictIf {calls next : Calls Λ} {address : Address}
    {condition : Issued Λ → Bool}
    (evicts : next.cache = (calls.cache.evictIf address condition).2) :
    Changes calls next none fun link => condition link = true := by
  apply of_stored
  · simp [evicts]
  · simp [evicts]
  · intro other link has
    rw [evicts]
    exact LinkCache.get?_evictIf address condition has

end Changes

/-- Each link that was stored has a serial number of its own, one of those that
have been issued. -/
structure Numbered (calls : Calls Λ) : Prop where
  below : ∀ link, calls.Established link → link.serial < calls.cache.issued
  distinct : ∀ first second, calls.Established first →
    calls.Established second → first.serial = second.serial → first = second

theorem Numbered.changes {calls next : Calls Λ} {stored : Option (Issued Λ)}
    {evicted : Issued Λ → Prop} (numbered : Numbered calls)
    (changes : Changes calls next stored evicted) : Numbered next := by
  have grows : calls.cache.issued ≤ next.cache.issued := by
    rw [changes.issued]
    exact Nat.le_add_right _ _
  have apart : ∀ first second, calls.Established first →
      stored = some second → first.serial ≠ second.serial := by
    intro first second before now
    rw [changes.numbered second now]
    exact Nat.ne_of_lt (numbered.below first before)
  constructor
  · intro link established
    rcases (changes.established link).mp established with before | now
    · exact Nat.lt_of_lt_of_le (numbered.below link before) grows
    · rw [changes.issued, changes.numbered link now, now]
      exact Nat.lt_succ_self _
  · intro first second established established' equal
    rcases (changes.established first).mp established with before | now <;>
      rcases (changes.established second).mp established' with before' | now'
    · exact numbered.distinct first second before before' equal
    · exact (apart first second before now' equal).elim
    · exact (apart second first before' now equal.symm).elim
    · exact Option.some.inj (now.symm.trans now')

namespace Sound

variable {owner : ReferenceId → Address} {calls : Calls Λ} {id : CallerId}

theorem changes_store (sound : Sound owner calls) {caller : Caller Λ}
    (found : calls.callers[id]? = some caller) {reference : ReferenceId}
    {link : Λ} (phase : caller.phase = .store reference link)
    (next : Calls Λ) (stores : next.cache = (calls.cache.store reference link).2) :
    Changes calls next (some ⟨calls.cache.issued, link⟩) (fun _ => False) ∧
      (.cleared ∉ calls.history →
        next.cache.get? caller.address = some ⟨calls.cache.issued, link⟩) := by
  obtain ⟨known, owned⟩ := (sound.fits id caller found).known reference
    (by simp [phase, Caller.Phase.reference?])
  have empty : (calls.cache.reference reference).stored = none :=
    (sound.fits id caller found).content reference none
      (by simp [phase, Caller.Phase.permit?])
  obtain ⟨first, second⟩ := LinkCache.store_of_empty empty link
  have here := LinkCache.reference_store_self known empty link
  rw [first] at here
  have elsewhere : ∀ other, other ≠ reference →
      (calls.cache.store reference link).2.reference other =
        calls.cache.reference other := fun other different =>
    LinkCache.reference_store_of_ne calls.cache different link
  constructor
  · refine ⟨?_, by simpa [stores] using second, by rintro _ ⟨⟩; rfl, ?_⟩
    · intro other
      simp only [Established, stores, Option.some.injEq]
      constructor
      · rintro ⟨place, has⟩
        by_cases same : place = reference
        · subst same
          rw [here] at has
          exact .inr (Option.some.inj has)
        · rw [elsewhere place same] at has
          exact .inl ⟨place, has⟩
      · rintro (⟨place, has⟩ | rfl)
        · have different : place ≠ reference := by
            intro same
            simp [same, empty] at has
          exact ⟨place, by rw [elsewhere place different, has]⟩
        · exact ⟨reference, by rw [here]⟩
    · intro address other has
      left
      obtain ⟨place, entry, stored⟩ := LinkCache.get?_eq_some_iff.mp has
      have different : place ≠ reference := by
        intro same
        simp [same, empty] at stored
      rw [stores]
      exact LinkCache.get?_eq_some_iff.mpr
        ⟨place, entry, by rw [elsewhere place different, stored]⟩
  · intro whole
    have entry := (sound.tracked whole).current reference known empty
    rw [owned] at entry
    rw [stores]
    exact LinkCache.get?_eq_some_iff.mpr ⟨reference, entry, by rw [here]⟩

/-- A turn leaves all links alone, or it stores one, or it discards one. -/
theorem turn_changes (sound : Sound owner calls) (id : CallerId) :
    Changes calls (calls.turn id) none (fun _ => False) ∨
      (∃ caller reference link, calls.callers[id]? = some caller ∧
        caller.phase = .store reference link ∧
        Changes calls (calls.turn id) (some ⟨calls.cache.issued, link⟩)
          (fun _ => False) ∧
        (.cleared ∉ calls.history →
          (calls.turn id).cache.get? caller.address =
            some ⟨calls.cache.issued, link⟩)) ∨
      ∃ caller link, calls.callers[id]? = some caller ∧
        caller.phase = .discard link ∧
        Changes calls (calls.turn id) none
          fun cached => cached.serial = link.serial := by
  obtain same | ⟨caller, next, found, ⟨warning, taken⟩, -⟩ :=
    calls.turn_cases id
  · exact .inl (.of_cache (by rw [same]))
  · have turned := Caller.turned_of_turn taken
    generalize after : (calls.turn id).cache = cache at turned
    cases turned with
    | plain continues alike pending =>
        left
        apply Changes.of_stored
        · rw [after]
          exact alike.stored
        · rw [after]
          exact alike.issued
        · intro address link has
          left
          rw [after, alike.links, has]
    | stored phase =>
        right; left
        obtain ⟨changes, cached⟩ :=
          sound.changes_store found phase (calls.turn id) after
        rw [after] at cached
        exact ⟨caller, _, _, found, phase, changes, cached⟩
    | discarded phase =>
        right; right
        have changes := Changes.of_evictIf after
        exact ⟨caller, _, found, phase, by simpa using changes⟩

end Sound

@[simp] theorem phaseAt_eq_some_iff {calls : Calls Λ} {id : CallerId}
    {phase : Caller.Phase Λ} : calls.phaseAt id = some phase ↔
      ∃ caller, calls.callers[id]? = some caller ∧ caller.phase = phase := by
  simp [phaseAt]

theorem phaseAt_turn_of_ne (calls : Calls Λ) {id other : CallerId}
    (different : other ≠ id) :
    (calls.turn id).phaseAt other = calls.phaseAt other := by
  unfold phaseAt turn
  split
  · rfl
  · split
    · simp [List.getElem?_set_ne (Ne.symm different)]
    · rfl

theorem phaseAt_turn_self (calls : Calls Λ) (id : CallerId) :
    (calls.turn id).phaseAt id = calls.phaseAt id ∨
      ∃ caller next cache warning, calls.callers[id]? = some caller ∧
        caller.turn calls.cache = .step next cache warning ∧
        (calls.turn id).phaseAt id = some next.phase := by
  unfold phaseAt turn
  cases found : calls.callers[id]? with
  | none => exact .inl (by simp [found])
  | some caller =>
      obtain ⟨below, -⟩ := List.getElem?_eq_some_iff.mp found
      cases taken : caller.turn calls.cache with
      | step next cache warning =>
          exact .inr ⟨caller, next, cache, warning, rfl, taken,
            by simp [taken, below]⟩
      | _ => exact .inl (by simp [taken, found])

theorem phaseAt_turn_of_step {calls : Calls Λ} {id : CallerId}
    {caller next : Caller Λ} {cache : LinkCache Λ} {warning : Option String}
    (found : calls.callers[id]? = some caller)
    (taken : caller.turn calls.cache = .step next cache warning) :
    (calls.turn id).phaseAt id = some next.phase := by
  obtain ⟨below, -⟩ := List.getElem?_eq_some_iff.mp found
  simp only [phaseAt, turn, found, taken, List.getElem?_set_self below,
    Option.map_some]

theorem phaseAt_call_of_ne (calls : Calls Λ) {id : CallerId}
    (different : id ≠ calls.callers.length) (address : Address)
    (policy : RetryPolicy) (live : Bool) :
    (calls.call address policy live).phaseAt id = calls.phaseAt id := by
  have elsewhere : (calls.callers ++
      [if live then Caller.startLive calls.callers.length address policy
        else .start calls.callers.length address policy])[id]? =
      calls.callers[id]? := by
    obtain below | beyond := Nat.lt_or_gt_of_ne different
    · exact List.getElem?_append_left below
    · rw [List.getElem?_append_right (Nat.le_of_lt beyond),
        List.getElem?_eq_none (Nat.le_of_lt beyond)]
      exact List.getElem?_eq_none (Nat.sub_pos_of_lt beyond)
  simp only [phaseAt, call, elsewhere]

theorem phaseAt_call_self (calls : Calls Λ) (address : Address)
    (policy : RetryPolicy) (live : Bool) :
    (calls.call address policy live).phaseAt calls.callers.length =
      some .lookup := by
  cases live <;> simp [phaseAt, call, Caller.start, Caller.startLive]

theorem phaseAt_length (calls : Calls Λ) :
    calls.phaseAt calls.callers.length = none := by
  simp [phaseAt]

@[simp] theorem cache_answer (calls : Calls Λ) (id : CallerId)
    (change : Caller Λ → Caller Λ) :
    (calls.answer id change).cache = calls.cache := by
  unfold answer
  split <;> rfl

theorem phaseAt_answer_of_ne (calls : Calls Λ) {id other : CallerId}
    (different : other ≠ id) (change : Caller Λ → Caller Λ) :
    (calls.answer id change).phaseAt other = calls.phaseAt other := by
  unfold phaseAt answer
  split
  · rfl
  · simp [List.getElem?_set_ne (Ne.symm different)]

theorem phaseAt_answer_self {calls : Calls Λ} {id : CallerId}
    {caller : Caller Λ} (found : calls.callers[id]? = some caller)
    (change : Caller Λ → Caller Λ) :
    (calls.answer id change).phaseAt id = some (change caller).phase := by
  obtain ⟨below, rfl⟩ := List.getElem?_eq_some_iff.mp found
  simp [phaseAt, answer, below]

theorem Numbered.of_cache {calls next : Calls Λ} (numbered : Numbered calls)
    (same : next.cache = calls.cache) : Numbered next := by
  have changes : Changes calls next none fun _ => False := .of_cache same
  exact numbered.changes changes

theorem Numbered.step {calls : Calls Λ} {owner : ReferenceId → Address}
    (numbered : Numbered calls) (sound : Sound owner calls)
    (action : Action Λ) : Numbered (calls.step action) := by
  cases action with
  | turn id =>
      rcases sound.turn_changes id with changes |
          ⟨_, _, link, -, -, changes, -⟩ | ⟨_, link, -, -, changes⟩ <;>
        exact numbered.changes changes
  | connected id attempt | resumed id | judged id live =>
      exact numbered.of_cache (cache_answer calls id _)
  | call address policy live | get address => exact numbered.of_cache rfl
  | evict address link | evictIf address condition =>
      exact numbered.changes (.of_evictIf rfl)
  | clear =>
      have changes : Changes calls (calls.step .clear) none fun _ => True :=
        .of_stored (fun _ => rfl) rfl fun _ _ _ => .inr trivial
      exact numbered.changes changes

theorem numbered_run (actions : List (Action Λ)) :
    Numbered ((start : Calls Λ).run actions) := by
  have all : ∀ (actions : List (Action Λ)) {calls : Calls Λ}
      {owner : ReferenceId → Address}, Sound owner calls → Numbered calls →
      Numbered (calls.run actions) := by
    intro actions
    induction actions with
    | nil => exact fun _ numbered => numbered
    | cons action actions induction =>
        intro calls owner sound numbered
        obtain ⟨_, after⟩ := sound.step action
        exact induction after (numbered.step sound action)
  apply all actions (sound_start fun _ => ⟨"", 0⟩)
  constructor
  · rintro link ⟨id, stored⟩
    simp [start, LinkCache.empty, LinkCache.reference, Reference.new] at stored
  · rintro first - ⟨id, stored⟩
    simp [start, LinkCache.empty, LinkCache.reference, Reference.new] at stored

end Calls

end RemoteMessaging
