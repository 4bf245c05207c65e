import RemoteMessaging.Proofs.Calls.Run

/-!
# What a turn does to the entries

A turn of a caller stores a link, or evicts one, or leaves all entries and their
links as they are.  A caller that insists on a live link goes on with the one that
it has stored or found until it knows whether that is live.
-/

namespace RemoteMessaging

variable {Λ : Type}

namespace LinkCache

@[simp] theorem issued_enter (cache : LinkCache Λ) (address : Address) :
    (cache.enter address).2.issued = cache.issued := by
  unfold enter
  split <;> rfl

@[simp] theorem issued_evictIf (cache : LinkCache Λ) (address : Address)
    (condition : Issued Λ → Bool) :
    (cache.evictIf address condition).2.issued = cache.issued := by
  unfold evictIf
  split <;> rfl

/-- One cache has the entries of another, and perhaps new ones, and the same
links. -/
structure Alike (cache next : LinkCache Λ) : Prop where
  entries : ∀ address id, cache.find? address = some id →
    next.find? address = some id
  fresh : ∀ address id, next.find? address = some id →
    cache.find? address = some id ∨ cache.references.length ≤ id
  links : ∀ address, next.get? address = cache.get? address
  stored : ∀ id, (next.reference id).stored = (cache.reference id).stored
  issued : next.issued = cache.issued

theorem Alike.refl (cache : LinkCache Λ) : cache.Alike cache :=
  ⟨fun _ _ found => found, fun _ _ found => .inl found, fun _ => rfl,
    fun _ => rfl, rfl⟩

theorem alike_replace {cache : LinkCache Λ} {id : ReferenceId}
    {reference : Reference Λ}
    (same : reference.stored = (cache.reference id).stored) :
    cache.Alike (cache.replace id reference) :=
  ⟨fun _ _ found => found, fun _ _ found => .inl found, fun address =>
    get?_congr cache _ address rfl fun other _ => stored_replace same other,
    stored_replace same, rfl⟩

theorem alike_enter (cache : LinkCache Λ) (address : Address) :
    cache.Alike (cache.enter address).2 := by
  obtain ⟨id, -, same⟩ | ⟨missing, made, -⟩ := cache.enter_cases address
  · rw [same]
    exact .refl cache
  · have elsewhere : ∀ {other}, other ≠ address →
        (cache.enter address).2.find? other = cache.find? other :=
      cache.find?_enter_of_ne
    refine ⟨?_, ?_, ?_, fun id => by simp, by simp⟩
    · intro other id found
      have different : other ≠ address := by
        rintro rfl
        simp [missing] at found
      rw [elsewhere different, found]
    · intro other id found
      by_cases same : other = address
      · subst same
        rw [find?_enter_self, made] at found
        exact .inr (Nat.le_of_eq (Option.some.inj found))
      · rw [elsewhere same] at found
        exact .inl found
    · intro other
      by_cases same : other = address
      · subst same
        have before : cache.get? other = none := by simp [get?, missing]
        have fresh : (cache.reference cache.references.length).stored = none := by
          simp [LinkCache.reference, Reference.new]
        rw [before, get?, find?_enter_self, made]
        simpa using fresh
      · exact get?_congr cache _ other (elsewhere same) fun id _ => by simp

theorem evicted_of_find? {cache : LinkCache Λ} {address other : Address}
    {condition : Issued Λ → Bool} {id : ReferenceId}
    (found : cache.find? other = some id)
    (gone : (cache.evictIf address condition).2.find? other ≠ some id) :
    ∃ link, (cache.reference id).stored = some link ∧
      condition link = true := by
  by_cases same : other = address
  · subst same
    rw [find?_evictIf_self] at gone
    split at gone
    · rename_i evicted
      obtain ⟨link, has, holds⟩ := get?_of_evictIf evicted
      obtain ⟨id', found', stored⟩ := get?_eq_some_iff.mp has
      obtain rfl := Option.some.inj (found.symm.trans found')
      exact ⟨link, stored, holds⟩
    · exact (gone found).elim
  · rw [find?_evictIf_of_ne cache same] at gone
    exact (gone found).elim

/-- A link that stays at its address when others are evicted does not satisfy the
condition there. -/
theorem get?_of_evictIf_snd {cache : LinkCache Λ} {address other : Address}
    {condition : Issued Λ → Bool} {link : Issued Λ}
    (has : (cache.evictIf address condition).2.get? other = some link) :
    cache.get? other = some link ∧
      (other = address → condition link = false) := by
  obtain ⟨id, found, stored⟩ := get?_eq_some_iff.mp has
  rw [reference_evictIf] at stored
  by_cases same : other = address
  · subst same
    rw [find?_evictIf_self] at found
    split at found
    · simp at found
    · rename_i stays
      have before := get?_eq_some_iff.mpr ⟨id, found, stored⟩
      refine ⟨before, fun _ => ?_⟩
      cases holds : condition link with
      | false => rfl
      | true =>
          refine (stays ?_).elim
          simp [evictIf, before, holds]
  · rw [find?_evictIf_of_ne cache same] at found
    exact ⟨get?_eq_some_iff.mpr ⟨id, found, stored⟩,
      fun equal => (same equal).elim⟩

end LinkCache

namespace Caller

/-- The link that a caller has stored or found, if it does not know yet whether
that is live, or is about to evict it. -/
def pending? (caller : Caller Λ) : Option (Issued Λ) :=
  match caller.phase with
  | .publish _ link | .judging link | .discard link => some link
  | _ => none

/-- The same call goes on. -/
structure Continues (caller next : Caller Λ) : Prop where
  address : next.address = caller.address
  insists : caller.replacements.isSome = true →
    next.replacements.isSome = true

theorem continues_enterPhase (caller : Caller Λ) (phase : Phase Λ) :
    caller.Continues (caller.enterPhase phase) :=
  ⟨rfl, fun insists => insists⟩

theorem continues_advance (caller : Caller Λ) :
    caller.Continues caller.advance := by
  unfold advance
  split
  · exact caller.continues_enterPhase _
  · exact ⟨rfl, fun insists => insists⟩

theorem continues_obtain (caller : Caller Λ) (link : Issued Λ) :
    caller.Continues (caller.obtain link) := by
  unfold obtain
  split <;> exact caller.continues_enterPhase _

theorem continues_replace (caller : Caller Λ) (link : Issued Λ) :
    caller.Continues (caller.replace link) := by
  unfold replace
  split
  · exact caller.continues_enterPhase _
  · split
    · exact caller.continues_enterPhase _
    · exact ⟨rfl, fun _ => rfl⟩

/-- What a turn of a caller may do. -/
inductive Turned (caller : Caller Λ) (cache : LinkCache Λ) :
    Caller Λ → LinkCache Λ → Prop where
  | plain {next : Caller Λ} {after : LinkCache Λ}
      (continues : caller.Continues next) (alike : cache.Alike after)
      (pending : caller.replacements.isSome = true →
        ∀ link, caller.pending? = some link → next.pending? = some link) :
      Turned caller cache next after
  | stored {reference : ReferenceId} {link : Λ}
      (phase : caller.phase = .store reference link) :
      Turned caller cache
        (caller.enterPhase (.publish reference (cache.store reference link).1))
        (cache.store reference link).2
  | discarded {link : Issued Λ} (phase : caller.phase = .discard link) :
      Turned caller cache (caller.replace link)
        (cache.evict caller.address link).2

theorem turned_of_turn {caller next : Caller Λ} {cache after : LinkCache Λ}
    {warning : Option String}
    (taken : caller.turn cache = .step next after warning) :
    Turned caller cache next after := by
  have settles : ∀ {next : Caller Λ} (reference : ReferenceId)
      (state : LinkState), caller.Continues next → caller.pending? = none →
        Turned caller cache next (cache.settle reference state) := by
    intro next reference state continues free
    exact .plain continues (LinkCache.alike_replace rfl) (by simp [free])
  have stays : ∀ {next : Caller Λ}, caller.Continues next →
      caller.pending? = none → Turned caller cache next cache :=
    fun continues free => .plain continues (.refl cache) (by simp [free])
  unfold turn at taken
  split at taken
  all_goals rename_i phase
  · split at taken <;> obtain ⟨rfl, rfl, -⟩ := Turn.step.inj taken <;>
      exact stays (caller.continues_enterPhase _) (by simp [pending?, phase])
  · obtain ⟨rfl, rfl, -⟩ := Turn.step.inj taken
    exact .plain (caller.continues_enterPhase _) (cache.alike_enter _)
      (by simp [pending?, phase])
  · split at taken <;> obtain ⟨rfl, rfl, -⟩ := Turn.step.inj taken
    · exact stays (caller.continues_obtain _) (by simp [pending?, phase])
    · exact stays (caller.continues_enterPhase _) (by simp [pending?, phase])
  · rename_i reference
    obtain ⟨rfl, rfl, -⟩ := Turn.step.inj taken
    exact .plain (caller.continues_enterPhase _)
      (LinkCache.alike_replace (Reference.stored_claim _))
      (by simp [pending?, phase])
  · rename_i reference
    obtain ⟨rfl, rfl, -⟩ := Turn.step.inj taken
    exact .plain (caller.continues_enterPhase _)
      (LinkCache.alike_replace (Reference.stored_await _ _))
      (by simp [pending?, phase])
  · split at taken
    · simp at taken
    · obtain ⟨rfl, rfl, -⟩ := Turn.step.inj taken
      exact stays (caller.continues_enterPhase _) (by simp [pending?, phase])
  · split at taken <;> obtain ⟨rfl, rfl, -⟩ := Turn.step.inj taken
    · exact stays (caller.continues_obtain _) (by simp [pending?, phase])
    · exact stays caller.continues_advance (by simp [pending?, phase])
  · simp at taken
  · obtain ⟨rfl, rfl, -⟩ := Turn.step.inj taken
    exact .stored phase
  · obtain ⟨rfl, rfl, -⟩ := Turn.step.inj taken
    refine .plain (caller.continues_obtain _) (LinkCache.alike_replace rfl) ?_
    intro insists link pending
    obtain ⟨left, known⟩ := Option.isSome_iff_exists.mp insists
    simpa [pending?, phase, obtain, known, enterPhase] using pending
  · obtain ⟨rfl, rfl, -⟩ := Turn.step.inj taken
    refine settles _ _ ?_ (by simp [pending?, phase])
    split
    · exact caller.continues_enterPhase _
    · exact caller.continues_advance
  · obtain ⟨rfl, rfl, -⟩ := Turn.step.inj taken
    exact settles _ _ (caller.continues_enterPhase _)
      (by simp [pending?, phase])
  · obtain ⟨rfl, rfl, -⟩ := Turn.step.inj taken
    exact settles _ _ (caller.continues_enterPhase _)
      (by simp [pending?, phase])
  · simp at taken
  · simp at taken
  · obtain ⟨rfl, rfl, -⟩ := Turn.step.inj taken
    exact .discarded phase
  · simp at taken

end Caller

namespace Calls

theorem cache_turn_of_step {calls : Calls Λ} {id : CallerId}
    {caller next : Caller Λ} {cache : LinkCache Λ} {warning : Option String}
    (found : calls.callers[id]? = some caller)
    (taken : caller.turn calls.cache = .step next cache warning) :
    (calls.turn id).cache = cache := by
  simp only [turn, found, taken]

theorem turn_cases (calls : Calls Λ) (id : CallerId) :
    calls.turn id = calls ∨
      ∃ caller next, calls.callers[id]? = some caller ∧
        (∃ warning,
          caller.turn calls.cache = .step next (calls.turn id).cache warning) ∧
        (calls.turn id).callers = calls.callers.set id next := by
  cases found : calls.callers[id]? with
  | none => exact .inl (by simp only [turn, found])
  | some caller =>
      cases taken : caller.turn calls.cache with
      | step next cache warning =>
          refine .inr ⟨caller, next, rfl, ⟨warning, ?_⟩, ?_⟩
          · rw [cache_turn_of_step found taken, taken]
          · simp only [turn, found, taken]
      | _ => exact .inl (by simp only [turn, found, taken])

end Calls

end RemoteMessaging
