import RemoteMessaging.Link.Calls
import RemoteMessaging.Proofs.LinkCache

/-!
# What holds among callers that share a cache

`Calls.Sound` relates the phases of all callers to the references, the entries,
the permits and the history.  It is stated for an owner of each reference: the
address for which it was made.  Every step keeps it, where a new reference gets
an owner, so it holds in every run.
-/

namespace RemoteMessaging

variable {Λ : Type}

namespace Caller

def Phase.reference? : Phase Λ → Option ReferenceId
  | .inspect id | .claim id | .await id | .asleep id | .reread id => some id
  | .connecting id | .store id _ | .publish id _ => some id
  | .refused id | .failed id _ | .panicking id => some id
  | _ => none

/-- The reference for which a caller in a phase has the permit, and the link
that it has put there. -/
def Phase.permit? : Phase Λ → Option (ReferenceId × Option (Issued Λ))
  | .connecting id | .store id _ => some (id, none)
  | .publish id link => some (id, some link)
  | .refused id | .failed id _ | .panicking id => some (id, none)
  | _ => none

theorem Phase.reference?_of_permit? {phase : Phase Λ} {id : ReferenceId}
    {content : Option (Issued Λ)} (permit : phase.permit? = some (id, content)) :
    phase.reference? = some id := by
  cases phase <;> simp_all [permit?, reference?]

/-- What a caller relies on in the cache, given the owners of references. -/
structure Fits (owner : ReferenceId → Address) (cache : LinkCache Λ)
    (caller : Caller Λ) : Prop where
  known : ∀ id, caller.phase.reference? = some id →
    id < cache.references.length ∧ owner id = caller.address
  content : ∀ id content, caller.phase.permit? = some (id, content) →
    (cache.reference id).stored = content
  link : ∀ link, caller.link? = some link →
    ∃ id < cache.references.length, owner id = caller.address ∧
      (cache.reference id).stored = some link

/-- A caller still fits after a step that keeps all links, and that leaves the
place alone for which the caller has a permit. -/
theorem Fits.transport {owner after : ReferenceId → Address}
    {cache next : LinkCache Λ} {caller : Caller Λ}
    (fits : caller.Fits owner cache)
    (longer : cache.references.length ≤ next.references.length)
    (owners : ∀ id < cache.references.length, after id = owner id)
    (kept : ∀ id link, (cache.reference id).stored = some link →
      (next.reference id).stored = some link)
    (alone : ∀ id content, caller.phase.permit? = some (id, content) →
      (next.reference id).stored = (cache.reference id).stored) :
    caller.Fits after next := by
  constructor
  · intro id names
    obtain ⟨below, owned⟩ := fits.known id names
    exact ⟨Nat.lt_of_lt_of_le below longer, (owners id below).trans owned⟩
  · intro id content permit
    rw [alone id content permit]
    exact fits.content id content permit
  · intro link has
    obtain ⟨id, below, owned, stored⟩ := fits.link link has
    exact ⟨id, Nat.lt_of_lt_of_le below longer,
      (owners id below).trans owned, kept id link stored⟩

end Caller

namespace Calls

def Happening.stores (address : Address) : Happening Λ → Bool
  | .stored other _ => other = address
  | _ => false

def Happening.evicts (address : Address) : Happening Λ → Bool
  | .evicted other => other = address
  | _ => false

/-- What holds as long as the entries have never been removed all at once. -/
structure Tracked (owner : ReferenceId → Address) (calls : Calls Λ) :
    Prop where
  /-- A reference without a link is the one that its address has. -/
  current : ∀ id < calls.cache.references.length,
    (calls.cache.reference id).stored = none →
      calls.cache.find? (owner id) = some id
  kept : ∀ id < calls.cache.references.length,
    calls.cache.find? (owner id) = some id ∨
      .evicted (owner id) ∈ calls.history
  counted : ∀ address,
    calls.history.countP (Happening.stores address) =
      calls.history.countP (Happening.evicts address) +
        (calls.cache.get? address).toList.length

/-- How callers, cache, permits and history fit together. -/
structure Sound (owner : ReferenceId → Address) (calls : Calls Λ) : Prop where
  named : ∀ (id : CallerId) caller, calls.callers[id]? = some caller →
    caller.id = id
  fits : ∀ (id : CallerId) caller, calls.callers[id]? = some caller →
    caller.Fits owner calls.cache
  entered : ∀ address id, calls.cache.find? address = some id →
    id < calls.cache.references.length ∧ owner id = address
  held : ∀ reference (id : CallerId), (reference, id) ∈ calls.permits ↔
    ∃ caller content, calls.callers[id]? = some caller ∧
      caller.phase.permit? = some (reference, content)
  sole : ∀ reference id other, (reference, id) ∈ calls.permits →
    (reference, other) ∈ calls.permits → id = other
  connecting : ∀ reference,
    (calls.cache.reference reference).state = .connecting ↔
      ∃ id, (reference, id) ∈ calls.permits
  idle : ∀ reference, (calls.cache.reference reference).state = .idle →
    (calls.cache.reference reference).stored = none
  established : ∀ reference,
    (calls.cache.reference reference).state = .established →
      (calls.cache.reference reference).stored.isSome
  asleep : ∀ reference, ∀ id ∈ (calls.cache.reference reference).sleepers,
    (calls.cache.reference reference).state = .connecting ∧
      ∃ caller, calls.callers[id]? = some caller ∧
        caller.phase = .asleep reference
  looked : ∀ address link, .looked address (some link) ∈ calls.history →
    ∃ id < calls.cache.references.length, owner id = address ∧
      (calls.cache.reference id).stored = some link
  tracked : .cleared ∉ calls.history → Tracked owner calls

theorem sound_start (owner : ReferenceId → Address) :
    Sound owner (start : Calls Λ) := by
  refine { named := ?_, fits := ?_, entered := ?_, held := ?_, sole := ?_
           connecting := ?_, idle := ?_, established := ?_, asleep := ?_
           looked := ?_, tracked := ?_ }
  all_goals simp [start, LinkCache.empty, LinkCache.reference,
    LinkCache.find?, Reference.new]
  refine { current := ?_, kept := ?_, counted := ?_ }
  all_goals simp [LinkCache.get?, LinkCache.find?]

def move (calls : Calls Λ) (id : CallerId) (next : Caller Λ) : Calls Λ :=
  { calls with callers := calls.callers.set id next }

theorem getElem?_move {calls : Calls Λ} {id : CallerId} {caller : Caller Λ}
    (found : calls.callers[id]? = some caller) (next : Caller Λ)
    (other : CallerId) :
    (calls.move id next).callers[other]? =
      if other = id then some next else calls.callers[other]? := by
  obtain ⟨below, -⟩ := List.getElem?_eq_some_iff.mp found
  by_cases same : other = id
  · subst same
    simp [move, below]
  · simp [move, same, List.getElem?_set_ne (Ne.symm same)]

@[simp] theorem cache_move (calls : Calls Λ) (id : CallerId)
    (next : Caller Λ) : (calls.move id next).cache = calls.cache := rfl

@[simp] theorem history_move (calls : Calls Λ) (id : CallerId)
    (next : Caller Λ) : (calls.move id next).history = calls.history := rfl

/-- What holds of the one that moves and of all others holds of all after the
move. -/
theorem forall_move {calls : Calls Λ} {id : CallerId} {caller next : Caller Λ}
    (found : calls.callers[id]? = some caller)
    {holds : CallerId → Caller Λ → Prop} (mover : holds id next)
    (others : ∀ other caller, other ≠ id →
      calls.callers[other]? = some caller → holds other caller) :
    ∀ other caller, (calls.move id next).callers[other]? = some caller →
      holds other caller := by
  intro other caller' found'
  rw [getElem?_move found] at found'
  split at found'
  · rename_i same
    obtain rfl := Option.some.inj found'
    exact same ▸ mover
  · rename_i different
    exact others other caller' different found'

namespace Sound

variable {owner : ReferenceId → Address} {calls : Calls Λ}

theorem permit_of_mem (sound : Sound owner calls) {id : CallerId}
    {caller : Caller Λ} (found : calls.callers[id]? = some caller)
    {reference : ReferenceId} (member : (reference, id) ∈ calls.permits) :
    ∃ content, caller.phase.permit? = some (reference, content) := by
  obtain ⟨other, content, again, permit⟩ :=
    (sound.held reference id).mp member
  obtain rfl := Option.some.inj (found.symm.trans again)
  exact ⟨content, permit⟩

theorem awake (sound : Sound owner calls) {id : CallerId} {caller : Caller Λ}
    (found : calls.callers[id]? = some caller)
    (phase : ∀ reference, caller.phase ≠ .asleep reference)
    (reference : ReferenceId) :
    id ∉ (calls.cache.reference reference).sleepers := by
  intro member
  obtain ⟨-, other, again, asleep⟩ := sound.asleep reference id member
  obtain rfl := Option.some.inj (found.symm.trans again)
  exact phase reference asleep

theorem move (sound : Sound owner calls) {id : CallerId}
    {caller next : Caller Λ} (found : calls.callers[id]? = some caller)
    (name : next.id = caller.id) (fits : next.Fits owner calls.cache)
    (permit : next.phase.permit? = caller.phase.permit?)
    (awake : ∀ reference,
      id ∉ (calls.cache.reference reference).sleepers) :
    Sound owner (calls.move id next) := by
  refine { sound with named := ?_, fits := ?_, held := ?_, asleep := ?_
                      tracked := ?_ }
  · exact forall_move found (name.trans (sound.named id caller found))
      fun other caller' _ => sound.named other caller'
  · exact forall_move found fits fun other caller' _ => sound.fits other caller'
  · intro reference other
    refine (sound.held reference other).trans ?_
    rw [getElem?_move found]
    by_cases same : other = id
    · simp [same, found, permit]
    · simp [same]
  · intro reference other member
    obtain ⟨connecting, caller', found', asleep⟩ :=
      sound.asleep reference other member
    have different : other ≠ id := by
      intro same
      subst same
      exact awake reference member
    exact ⟨connecting, caller', by simp [getElem?_move found, different, found'],
      asleep⟩
  · intro whole
    have tracked := sound.tracked whole
    exact ⟨tracked.current, tracked.kept, tracked.counted⟩

/-- A caller moves on with a step on one reference that keeps the link there.
What is to be shown concerns the permits, the state and the sleepers of that
reference. -/
theorem retouch (sound : Sound owner calls) {id : CallerId}
    {caller : Caller Λ} (found : calls.callers[id]? = some caller)
    (next : Caller Λ) (name : next.id = caller.id)
    (fits : next.Fits owner calls.cache)
    {reference : ReferenceId} (known : reference < calls.cache.references.length)
    (changed : Reference Λ)
    (same : changed.stored = (calls.cache.reference reference).stored)
    {permits : List (ReferenceId × CallerId)}
    (elsewhere : ∀ other holder, other ≠ reference →
      ((other, holder) ∈ permits ↔ (other, holder) ∈ calls.permits))
    (here : ∀ holder, holder ≠ id →
      ((reference, holder) ∈ permits ↔ (reference, holder) ∈ calls.permits))
    (own : ∀ other, (other, id) ∈ permits ↔
      ∃ content, next.phase.permit? = some (other, content))
    (sole : ∀ holder other, (reference, holder) ∈ permits →
      (reference, other) ∈ permits → holder = other)
    (connecting : changed.state = .connecting ↔
      ∃ holder, (reference, holder) ∈ permits)
    (idle : changed.state = .idle → changed.stored = none)
    (established : changed.state = .established → changed.stored.isSome)
    (awake : ∀ other, other ≠ reference →
      id ∉ (calls.cache.reference other).sleepers)
    (asleep : ∀ sleeper ∈ changed.sleepers, changed.state = .connecting ∧
      (sleeper ≠ id → sleeper ∈ (calls.cache.reference reference).sleepers) ∧
      (sleeper = id → next.phase = .asleep reference)) :
    Sound owner { calls.move id next with
      cache := calls.cache.replace reference changed
      permits := permits } := by
  have stored := LinkCache.stored_replace same
  have unchanged : ∀ other, other ≠ reference →
      (calls.cache.replace reference changed).reference other =
        calls.cache.reference other := fun other different =>
    LinkCache.reference_replace_of_ne calls.cache different changed
  have changes := LinkCache.reference_replace_self known changed
  have transport : ∀ {caller : Caller Λ}, caller.Fits owner calls.cache →
      caller.Fits owner (calls.cache.replace reference changed) := by
    intro caller fits
    exact fits.transport (by simp) (by simp) (by simp [stored])
      (by simp [stored])
  refine { named := ?_, fits := ?_, entered := ?_, held := ?_, sole := ?_
           connecting := ?_, idle := ?_, established := ?_, asleep := ?_
           looked := ?_, tracked := ?_ }
  · exact forall_move found (name.trans (sound.named id caller found))
      fun other caller' _ => sound.named other caller'
  · exact forall_move found (transport fits)
      fun other caller' _ found' => transport (sound.fits other caller' found')
  · simpa using sound.entered
  · intro other holder
    simp only [getElem?_move found]
    by_cases mover : holder = id
    · subst mover
      simp [own other]
    · simp only [mover, if_false]
      by_cases at' : other = reference
      · subst at'
        exact (here holder mover).trans (sound.held other holder)
      · exact (elsewhere other holder at').trans (sound.held other holder)
  · intro other holder another member member'
    by_cases at' : other = reference
    · subst at'
      exact sole holder another member member'
    · exact sound.sole other holder another
        ((elsewhere other holder at').mp member)
        ((elsewhere other another at').mp member')
  · intro other
    by_cases at' : other = reference
    · subst at'
      rw [changes]
      exact connecting
    · rw [unchanged other at', sound.connecting other]
      exact exists_congr fun holder => (elsewhere other holder at').symm
  · intro other isIdle
    by_cases at' : other = reference
    · subst at'
      rw [changes] at isIdle ⊢
      exact idle isIdle
    · rw [unchanged other at'] at isIdle ⊢
      exact sound.idle other isIdle
  · intro other isEstablished
    by_cases at' : other = reference
    · subst at'
      rw [changes] at isEstablished ⊢
      exact established isEstablished
    · rw [unchanged other at'] at isEstablished ⊢
      exact sound.established other isEstablished
  · intro other sleeper member
    simp only [getElem?_move found]
    by_cases at' : other = reference
    · subst at'
      rw [changes] at member ⊢
      obtain ⟨isConnecting, before, now⟩ := asleep sleeper member
      by_cases mover : sleeper = id
      · exact ⟨isConnecting, next, by simp [mover], now mover⟩
      · simpa [isConnecting, mover] using
          (sound.asleep other sleeper (before mover)).2
    · rw [unchanged other at'] at member ⊢
      have mover : sleeper ≠ id := by
        intro mover
        exact awake other at' (mover ▸ member)
      simpa [mover] using sound.asleep other sleeper member
  · intro address link member
    obtain ⟨other, below, owned, has⟩ := sound.looked address link member
    exact ⟨other, by simpa using below, owned, (stored other).trans has⟩
  · intro whole
    have tracked := sound.tracked whole
    refine ⟨?_, ?_, ?_⟩
    · intro other below empty
      exact tracked.current other (by simpa using below)
        ((stored other).symm.trans empty)
    · intro other below
      exact tracked.kept other (by simpa using below)
    · intro address
      have links := LinkCache.get?_congr calls.cache
        (calls.cache.replace reference changed) address rfl
        fun other _ => stored other
      simpa only [links, history_move] using tracked.counted address

end Sound

end Calls

end RemoteMessaging
