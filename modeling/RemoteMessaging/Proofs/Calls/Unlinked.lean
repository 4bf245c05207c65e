import RemoteMessaging.Proofs.Calls.Run

/-!
# Addresses without a link

Where all callers have ended without a link, an address has no entry or one whose
reference nobody has tried.
-/

namespace RemoteMessaging

variable {Λ : Type}

namespace LinkCache

/-- Each entry has a reference of its own. -/
structure Tidy (cache : LinkCache Λ) : Prop where
  known : ∀ address id, cache.find? address = some id →
    id < cache.references.length
  apart : ∀ address other id, cache.find? address = some id →
    cache.find? other = some id → address = other

/-- An address has no link, and nobody connects for it. -/
structure Unlinked (cache : LinkCache Λ) (address : Address) : Prop where
  tidy : cache.Tidy
  free : ∀ id, cache.find? address = some id → cache.reference id = .new

variable {cache next : LinkCache Λ} {address : Address}

theorem Tidy.congr (tidy : cache.Tidy)
    (entries : ∀ address id, next.find? address = some id →
      cache.find? address = some id)
    (length : cache.references.length ≤ next.references.length) :
    next.Tidy := by
  constructor
  · intro address id found
    exact Nat.lt_of_lt_of_le (tidy.known address id (entries address id found))
      length
  · intro address other id found found'
    exact tidy.apart address other id (entries address id found)
      (entries other id found')

theorem Tidy.evict (tidy : cache.Tidy) (address : Address) (link : Issued Λ) :
    (cache.evict address link).2.Tidy := by
  apply tidy.congr
  · intro other id found
    exact find?_of_evictIf found
  · exact Nat.le_of_eq (length_evictIf cache address _).symm

theorem Tidy.enter (tidy : cache.Tidy) (address : Address) :
    (cache.enter address).2.Tidy := by
  rcases cache.enter_cases address with ⟨id, -, same⟩ | ⟨missing, made, length⟩
  · rw [same]
    exact tidy
  · -- The new reference is beyond those of all other entries.
    have entries : ∀ other id, (cache.enter address).2.find? other = some id →
        other = address ∧ id = cache.references.length ∨
          cache.find? other = some id := by
      intro other id found
      by_cases same : other = address
      · subst same
        rw [find?_enter_self, made] at found
        exact .inl ⟨rfl, (Option.some.inj found).symm⟩
      · rw [find?_enter_of_ne cache same] at found
        exact .inr found
    constructor
    · intro other id found
      rw [length]
      rcases entries other id found with ⟨-, rfl⟩ | before
      · exact Nat.lt_succ_self _
      · exact Nat.lt_succ_of_lt (tidy.known other id before)
    · intro first second id found found'
      rcases entries first id found with ⟨rfl, rfl⟩ | before <;>
        rcases entries second _ found' with ⟨rfl, same⟩ | before'
      · rfl
      · exact absurd (tidy.known second _ before') (Nat.lt_irrefl _)
      · exact absurd (tidy.known first id before)
          (Nat.not_lt_of_le (Nat.le_of_eq same.symm))
      · exact tidy.apart first second id before before'

theorem Unlinked.get? (unlinked : cache.Unlinked address) :
    cache.get? address = none := by
  cases found : cache.find? address with
  | none => simp [LinkCache.get?, found]
  | some id => simp [LinkCache.get?, found, unlinked.free id found, Reference.new]

end LinkCache

namespace Calls

variable {calls : Calls Λ} {owner : ReferenceId → Address}

theorem Sound.tidy (sound : Sound owner calls) : calls.cache.Tidy := by
  constructor
  · intro address id found
    exact (sound.entered address id found).1
  · intro address other id found found'
    exact (sound.entered address id found).2.symm.trans
      (sound.entered other id found').2

/-- Where every call has ended without a link, nobody connects. -/
theorem Sound.unlinked (sound : Sound owner calls) {address : Address}
    (ended : ∀ caller ∈ calls.callers, caller.address = address →
      caller.result?.isSome = true)
    (missing : calls.cache.get? address = none) :
    calls.cache.Unlinked address := by
  refine ⟨sound.tidy, fun id found => ?_⟩
  have empty : (calls.cache.reference id).stored = none := by
    simpa [LinkCache.get?, found] using missing
  have free : (calls.cache.reference id).state ≠ .connecting := by
    intro connecting
    obtain ⟨holder, member⟩ := (sound.connecting id).mp connecting
    obtain ⟨caller, content, found', permit⟩ := (sound.held id holder).mp member
    obtain ⟨-, owned⟩ := (sound.fits holder caller found').known id
      (Caller.Phase.reference?_of_permit? permit)
    have here : caller.address = address :=
      owned.symm.trans (sound.entered address id found).2
    obtain ⟨result, has⟩ := Option.isSome_iff_exists.mp
      (ended caller (List.mem_of_getElem? found') here)
    rw [Caller.phase_of_result? has] at permit
    cases permit
  have idle : (calls.cache.reference id).state = .idle := by
    cases state : (calls.cache.reference id).state with
    | idle => rfl
    | connecting => exact (free state).elim
    | established =>
        have stored := sound.established id state
        simp [empty] at stored
  have awake : (calls.cache.reference id).sleepers = [] := by
    apply List.eq_nil_iff_forall_not_mem.mpr
    intro sleeper member
    exact free (sound.asleep id sleeper member).1
  generalize calls.cache.reference id = reference at empty idle awake
  obtain ⟨state, stored, sleepers⟩ := reference
  cases empty
  cases idle
  cases awake
  rfl

end Calls

end RemoteMessaging
