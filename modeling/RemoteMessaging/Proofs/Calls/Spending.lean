import RemoteMessaging.Proofs.Calls.Log

/-!
# How a caller may spend its attempts

A caller that is alone may be refused in every round but the last of each call, and
find each link dead that it gets.  Then it goes through all rounds and pauses that
there may be.
-/

namespace RemoteMessaging

open Calls

variable {Λ : Type}

namespace Calls

/-- A caller takes a turn, of which something is noted. -/
structure Takes (caller : Caller Λ) (cache : LinkCache Λ) (next : Caller Λ)
    (after : LinkCache Λ) (notes : List (Note Λ)) : Prop where
  taken : ∃ warning, caller.turn cache = .step next after warning
  noted : caller.notes cache next after = notes

/-- A caller goes on alone on a cache, through so many rounds and pauses. -/
inductive Spends : Caller Λ → LinkCache Λ → Nat → Nat → Caller Λ →
    LinkCache Λ → Prop where
  | done (caller : Caller Λ) (cache : LinkCache Λ) :
      Spends caller cache 0 0 caller cache
  | turn {caller next last : Caller Λ} {cache after final : LinkCache Λ}
      {notes : List (Note Λ)} {rounds pauses : Nat}
      (takes : Takes caller cache next after notes)
      (rest : Spends next after rounds pauses last final) :
      Spends caller cache ((roundsIn notes).length + rounds)
        ((delaysIn notes).length + pauses) last final
  | connected {caller next last : Caller Λ} {cache final : LinkCache Λ}
      {rounds pauses : Nat} (attempt : Attempt Λ)
      (goes : caller.connected attempt = next)
      (rest : Spends next cache rounds pauses last final) :
      Spends caller cache rounds pauses last final
  | resumed {caller next last : Caller Λ} {cache final : LinkCache Λ}
      {rounds pauses : Nat} (goes : caller.resumed = next)
      (rest : Spends next cache rounds pauses last final) :
      Spends caller cache rounds pauses last final
  | judged {caller next last : Caller Λ} {cache final : LinkCache Λ}
      {rounds pauses : Nat} (live : Bool) (goes : caller.judged live = next)
      (rest : Spends next cache rounds pauses last final) :
      Spends caller cache rounds pauses last final

namespace Spends

variable {caller next last : Caller Λ} {cache after final : LinkCache Λ}
variable {rounds pauses rounds' pauses' : Nat}

theorem trans (first : Spends caller cache rounds pauses next after)
    (second : Spends next after rounds' pauses' last final) :
    Spends caller cache (rounds + rounds') (pauses + pauses') last final := by
  induction first with
  | done => simpa using second
  | turn takes rest induction =>
      rw [Nat.add_assoc, Nat.add_assoc]
      exact .turn takes (induction second)
  | connected attempt goes rest induction =>
      exact .connected attempt goes (induction second)
  | resumed goes rest induction => exact .resumed goes (induction second)
  | judged live goes rest induction =>
      exact .judged live goes (induction second)

theorem cons_run {calls : Calls Λ} (action : Action Λ)
    (rest : ∃ actions, ((calls.step action).run actions).callers = [last] ∧
      (roundsIn (logOf 0 ((calls.step action).log actions))).length = rounds ∧
      (delaysIn (logOf 0 ((calls.step action).log actions))).length = pauses) :
    ∃ actions, (calls.run actions).callers = [last] ∧
      (roundsIn (logOf 0 (calls.log actions))).length =
        (roundsIn (logOf 0 (calls.entries action))).length + rounds ∧
      (delaysIn (logOf 0 (calls.log actions))).length =
        (delaysIn (logOf 0 (calls.entries action))).length + pauses := by
  obtain ⟨actions, ends, first, second⟩ := rest
  refine ⟨action :: actions, ends, ?_, ?_⟩
  · rw [log_cons, logOf_append, roundsIn_append, List.length_append, first]
  · rw [log_cons, logOf_append, delaysIn_append, List.length_append, second]

theorem nothingIn_answers (calls : Calls Λ) (attempt : Attempt Λ) :
    roundsIn (logOf 0 (calls.entries (.connected 0 attempt))) = [] ∧
      delaysIn (logOf 0 (calls.entries (.connected 0 attempt))) = [] := by
  simp only [entries]
  split
  · exact ⟨rfl, rfl⟩
  · split <;> exact ⟨rfl, rfl⟩

theorem callers_answer {calls : Calls Λ} (alone : calls.callers = [caller])
    (change : Caller Λ → Caller Λ) :
    (calls.answer 0 change).callers = [change caller] := by
  simp [answer, alone]

/-- A caller that goes on alone may do so among the others, of which there are
none. -/
theorem exists_run (spends : Spends caller cache rounds pauses last final)
    {calls : Calls Λ} (alone : calls.callers = [caller])
    (same : calls.cache = cache) :
    ∃ actions, (calls.run actions).callers = [last] ∧
      (roundsIn (logOf 0 (calls.log actions))).length = rounds ∧
      (delaysIn (logOf 0 (calls.log actions))).length = pauses := by
  induction spends generalizing calls with
  | done caller cache => exact ⟨[], alone, rfl, rfl⟩
  | turn takes rest induction =>
      subst same
      rename_i caller next last after final notes rounds pauses
      obtain ⟨⟨warning, taken⟩, rfl⟩ := takes
      have goesOn := induction
        (show (calls.step (.turn 0)).callers = [next] by
          simp [step, Calls.turn, alone, taken])
        (cache_turn_of_step (by simp [alone]) taken)
      have noted : logOf 0 (calls.entries (.turn 0)) =
          caller.notes calls.cache next after := by
        simp [entries, alone, taken, logOf_map]
      rw [← noted]
      exact cons_run (.turn 0) goesOn
  | connected attempt goes rest induction =>
      subst goes
      have goesOn := induction (callers_answer alone (·.connected attempt))
        ((cache_answer calls 0 _).trans same)
      obtain ⟨noRounds, noPauses⟩ := nothingIn_answers calls attempt
      have spent := cons_run (.connected 0 attempt) goesOn
      rwa [noRounds, noPauses, List.length_nil, List.length_nil, Nat.zero_add,
        Nat.zero_add] at spent
  | resumed goes rest induction =>
      subst goes
      have goesOn := induction (callers_answer alone (·.resumed))
        ((cache_answer calls 0 _).trans same)
      simpa [entries, logOf, roundsIn, delaysIn] using
        cons_run (.resumed 0) goesOn
  | judged live goes rest induction =>
      subst goes
      have goesOn := induction (callers_answer alone (·.judged live))
        ((cache_answer calls 0 _).trans same)
      simpa [entries, logOf, roundsIn, delaysIn] using
        cons_run (.judged 0 live) goesOn

end Spends

section Attempts

variable {caller : Caller Λ} {cache : LinkCache Λ} {id : ReferenceId}

/-- The reference of an address, which nobody has tried. -/
structure Vacant (cache : LinkCache Λ) (address : Address)
    (id : ReferenceId) : Prop where
  found : cache.find? address = some id
  known : id < cache.references.length
  free : cache.reference id = .new

theorem vacant_enter {address : Address} (missing : cache.find? address = none) :
    Vacant (cache.enter address).2 address (cache.enter address).1 := by
  rcases cache.enter_cases address with ⟨id, found, -⟩ | ⟨-, fresh, length⟩
  · simp [missing] at found
  · refine ⟨LinkCache.find?_enter_self cache address, ?_, ?_⟩
    · rw [fresh, length]
      exact Nat.lt_succ_self _
    · rw [fresh, LinkCache.reference_enter]
      simp [LinkCache.reference]

theorem turn_lookup_of_missing (missing : cache.find? caller.address = none) :
    (caller.enterPhase .lookup).turn cache =
      .step (caller.enterPhase .enter) cache none := by
  simp [Caller.turn, Caller.enterPhase, missing]

theorem turn_enter (caller : Caller Λ) (cache : LinkCache Λ) :
    (caller.enterPhase .enter).turn cache =
      .step (caller.enterPhase (.inspect (cache.enter caller.address).1))
        (cache.enter caller.address).2 none := by
  simp [Caller.turn, Caller.enterPhase]

theorem takes_lookup_of_missing (missing : cache.find? caller.address = none) :
    Takes (caller.enterPhase .lookup) cache (caller.enterPhase .enter) cache
      [] := by
  constructor
  · exact ⟨none, turn_lookup_of_missing missing⟩
  · simp [Caller.notes, Caller.closes, Caller.renewal, Caller.asks_eq,
      Caller.enterPhase]

theorem takes_enter (caller : Caller Λ) (cache : LinkCache Λ) :
    Takes (caller.enterPhase .enter) cache
      (caller.enterPhase (.inspect (cache.enter caller.address).1))
      (cache.enter caller.address).2 [] := by
  constructor
  · exact ⟨none, turn_enter caller cache⟩
  · simp [Caller.notes, Caller.closes, Caller.renewal, Caller.asks_eq,
      Caller.enterPhase]

theorem exists_vacant (caller : Caller Λ)
    (missing : cache.find? caller.address = none) :
    ∃ id after, Vacant after caller.address id ∧
      Spends (caller.enterPhase .lookup) cache 0 0
        (caller.enterPhase (.inspect id)) after := by
  refine ⟨_, _, vacant_enter missing, ?_⟩
  exact .turn (takes_lookup_of_missing missing)
    (.turn (takes_enter caller cache) (.done _ _))

def busy (cache : LinkCache Λ) (id : ReferenceId) : LinkCache Λ :=
  cache.replace id { (Reference.new : Reference Λ) with state := .connecting }

theorem settle_busy (vacant : Vacant cache caller.address id) :
    (busy cache id).settle id .idle = cache := by
  have settled : (busy cache id).settle id .idle =
      cache.replace id (cache.reference id) := by
    rw [LinkCache.settle, busy,
      LinkCache.reference_replace_self vacant.known, vacant.free]
    simp [LinkCache.replace, Reference.settle, Reference.new]
  rw [settled, LinkCache.replace_reference]

theorem stored_busy (vacant : Vacant cache caller.address id) :
    ((busy cache id).reference id).stored = none := by
  rw [busy, LinkCache.reference_replace_self vacant.known]
  rfl

theorem turn_inspect (vacant : Vacant cache caller.address id) :
    (caller.enterPhase (.inspect id)).turn cache =
      .step (caller.enterPhase (.claim id)) cache none := by
  simp [Caller.turn, Caller.enterPhase, vacant.free, Reference.new]

theorem turn_claim (vacant : Vacant cache caller.address id) :
    (caller.enterPhase (.claim id)).turn cache =
      .step (caller.enterPhase (.connecting id)) (busy cache id) none := by
  simp [Caller.turn, Caller.enterPhase, LinkCache.claim, vacant.free,
    Reference.claim, Reference.new, busy]

theorem turn_refused (vacant : Vacant cache caller.address id)
    (more : caller.attempt < caller.policy.retries) :
    (caller.enterPhase (.refused id)).turn (busy cache id) =
      .step (caller.enterPhase .pausing) cache (some caller.refusal) :=
  congrArg₂ (fun next after => Turn.step next after _) (if_pos more)
    (settle_busy vacant)

theorem turn_lookup (vacant : Vacant cache caller.address id) :
    (caller.enterPhase .lookup).turn cache =
      .step (caller.enterPhase (.inspect id)) cache none := by
  simp [Caller.turn, Caller.enterPhase, vacant.found]

theorem takes_inspect (vacant : Vacant cache caller.address id) :
    Takes (caller.enterPhase (.inspect id)) cache
      (caller.enterPhase (.claim id)) cache [] := by
  constructor
  · exact ⟨none, turn_inspect vacant⟩
  · simp [Caller.notes, Caller.closes, Caller.renewal, Caller.asks_eq,
      Caller.enterPhase, vacant.free, Reference.new]

theorem takes_claim (vacant : Vacant cache caller.address id) :
    Takes (caller.enterPhase (.claim id)) cache
      (caller.enterPhase (.connecting id)) (busy cache id) [.connects] := by
  constructor
  · exact ⟨none, turn_claim vacant⟩
  · simp [Caller.notes, Caller.closes, Caller.renewal, Caller.asks_eq,
      Caller.enterPhase]

theorem takes_refused (vacant : Vacant cache caller.address id)
    (more : caller.attempt < caller.policy.retries) :
    Takes (caller.enterPhase (.refused id)) (busy cache id)
      (caller.enterPhase .pausing) cache
        [.ends .refused, .pauses caller.policy.backoff] := by
  constructor
  · exact ⟨some caller.refusal, turn_refused vacant more⟩
  · simp [Caller.notes, Caller.closes, Caller.renewal, Caller.asks_eq,
      Caller.enterPhase]

theorem resumed_of_more (more : caller.attempt < caller.policy.retries) :
    (caller.enterPhase .pausing).resumed =
      { caller with attempt := caller.attempt + 1, phase := .lookup } := by
  simp [Caller.resumed, Caller.advance, Caller.enterPhase,
    UInt32.ne_of_lt more]

theorem takes_lookup (vacant : Vacant cache caller.address id) :
    Takes (caller.enterPhase .lookup) cache (caller.enterPhase (.inspect id))
      cache [] := by
  constructor
  · exact ⟨none, turn_lookup vacant⟩
  · simp [Caller.notes, Caller.closes, Caller.renewal, Caller.asks_eq,
      Caller.enterPhase]

theorem spends_refused (vacant : Vacant cache caller.address id)
    (more : caller.attempt < caller.policy.retries) :
    Spends (caller.enterPhase (.inspect id)) cache 1 1
      { caller with attempt := caller.attempt + 1, phase := .inspect id }
      cache := by
  let next : Caller Λ := { caller with attempt := caller.attempt + 1 }
  have looks : Takes (next.enterPhase .lookup) cache
      (next.enterPhase (.inspect id)) cache [] := takes_lookup vacant
  have refused : (caller.enterPhase (.connecting id)).connected
      (.failed (IoError.ofKind .connectionRefused)) =
        caller.enterPhase (.refused id) := rfl
  exact .turn (takes_inspect vacant) (.turn (takes_claim vacant)
    (.connected _ refused (.turn (takes_refused vacant more)
      (.resumed (resumed_of_more more) (.turn looks (.done _ _))))))

theorem spends_refusals (caller : Caller Λ)
    (vacant : Vacant cache caller.address id) (count : Nat)
    (enough : caller.attempt.toNat + count = caller.policy.retries.toNat) :
    Spends (caller.enterPhase (.inspect id)) cache count count
      { caller with
        attempt := caller.policy.retries
        phase := .inspect id } cache := by
  induction count generalizing caller with
  | zero =>
      have last : caller.attempt = caller.policy.retries :=
        UInt32.toNat_inj.mp enough
      rw [← last]
      exact .done _ _
  | succ count induction =>
      have more : caller.attempt < caller.policy.retries :=
        UInt32.lt_iff_toNat_lt.mpr (by omega)
      have next := Caller.toNat_next_attempt more
      have now := spends_refused vacant more
      have rest := induction { caller with attempt := caller.attempt + 1 }
        vacant (by simp only [next]; omega)
      rw [Nat.add_comm count 1]
      exact now.trans rest

theorem get?_of_store (vacant : Vacant cache caller.address id) {link : Λ}
    {issued : Issued Λ} {after : LinkCache Λ}
    (stores : (busy cache id).store id link = (issued, after)) :
    issued.link = link ∧
      (after.settle id .established).get? caller.address = some issued := by
  have known : id < (busy cache id).references.length := by
    simpa [busy] using vacant.known
  have empty := stored_busy vacant
  have linked := LinkCache.reference_store_self known empty link
  have kept := LinkCache.find?_store (busy cache id) id link caller.address
  obtain ⟨first, -⟩ := LinkCache.store_of_empty empty link
  rw [stores] at linked kept first
  refine ⟨congrArg Issued.link first,
    LinkCache.get?_eq_some_iff.mpr ⟨id, ?_, ?_⟩⟩
  · rw [LinkCache.settle, LinkCache.find?_replace, kept, busy,
      LinkCache.find?_replace]
    exact vacant.found
  · have same : ((after.reference id).settle .established).stored =
        (after.reference id).stored := rfl
    rw [LinkCache.settle, LinkCache.stored_replace same, linked]

theorem spends_connected (caller : Caller Λ)
    (vacant : Vacant cache caller.address id)
    (insists : caller.replacements ≠ none) (link : Λ) :
    ∃ issued after, issued.link = link ∧
      after.get? caller.address = some issued ∧
      Spends (caller.enterPhase (.inspect id)) cache 1 0
        (caller.enterPhase (.discard issued)) after := by
  obtain ⟨left, limit⟩ := Option.ne_none_iff_exists'.mp insists
  obtain ⟨issued, after, stores⟩ : ∃ issued after,
      (busy cache id).store id link = (issued, after) := ⟨_, _, rfl⟩
  obtain ⟨its, has⟩ := get?_of_store vacant stores
  refine ⟨issued, after.settle id .established, its, has, ?_⟩
  have connected : (caller.enterPhase (.connecting id)).connected
      (.connected link) = caller.enterPhase (.store id link) := rfl
  have puts : Takes (caller.enterPhase (.store id link)) (busy cache id)
      (caller.enterPhase (.publish id issued)) after [] := by
    constructor
    · simp [Caller.turn, Caller.enterPhase, stores]
    · simp [Caller.notes, Caller.closes, Caller.renewal, Caller.asks_eq,
        Caller.enterPhase]
  have publishes : Takes (caller.enterPhase (.publish id issued)) after
      (caller.enterPhase (.judging issued)) (after.settle id .established)
        [.ends (.connected issued)] := by
    constructor
    · simp [Caller.turn, Caller.enterPhase, Caller.obtain, limit]
    · simp [Caller.notes, Caller.closes, Caller.renewal, Caller.asks_eq,
        Caller.enterPhase]
  have dead : (caller.enterPhase (.judging issued)).judged false =
      caller.enterPhase (.discard issued) := rfl
  exact .turn (takes_inspect vacant) (.turn (takes_claim vacant)
    (.connected _ connected (.turn puts (.turn publishes
      (.judged false dead (.done _ _))))))

theorem spends_discard (caller : Caller Λ) {link : Issued Λ}
    (has : cache.get? caller.address = some link) {left : UInt32}
    (limit : caller.replacements = some left) :
    ∃ after, after.find? caller.address = none ∧
      Spends (caller.enterPhase (.discard link)) cache 0 0
        (if left = 0 then caller.finish (.link link)
          else
            { caller with
              replacements := some (left - 1)
              attempt := 0
              phase := .lookup }) after := by
  refine ⟨(cache.evict caller.address link).2,
    LinkCache.find?_evict_self has, ?_⟩
  by_cases last : left = 0
  · rw [if_pos last]
    have gives : Takes (caller.enterPhase (.discard link)) cache
        (caller.finish (.link link)) (cache.evict caller.address link).2
          [] := by
      constructor
      · simp [Caller.turn, Caller.enterPhase, Caller.replace, limit, last,
          Caller.finish]
      · simp [Caller.notes, Caller.closes, Caller.renewal, Caller.asks_eq,
          Caller.enterPhase, Caller.finish]
    exact .turn gives (.done _ _)
  · rw [if_neg last]
    have renews : Takes (caller.enterPhase (.discard link)) cache
        { caller with
          replacements := some (left - 1)
          attempt := 0
          phase := .lookup } (cache.evict caller.address link).2
          [.renews] := by
      constructor
      · simp [Caller.turn, Caller.enterPhase, Caller.replace, limit, last]
      · simp [Caller.notes, Caller.closes, Caller.renewal, Caller.asks_eq,
          Caller.enterPhase]
    exact .turn renews (.done _ _)

/-- One call: every attempt but the last is refused, and the last gets a dead
link. -/
theorem spends_call (begins : caller.phase = .lookup)
    (fresh : caller.attempt = 0) (missing : cache.find? caller.address = none)
    {left : UInt32} (limit : caller.replacements = some left) (link : Λ) :
    ∃ issued after, issued.link = link ∧
      after.find? caller.address = none ∧
      Spends caller cache (caller.policy.retries.toNat + 1)
        caller.policy.retries.toNat
        (if left = 0 then
            { caller with
              attempt := caller.policy.retries
              phase := .finished (.link issued) }
          else
            { caller with
              replacements := some (left - 1)
              attempt := 0
              phase := .lookup }) after := by
  let last : Caller Λ := { caller with attempt := caller.policy.retries }
  obtain ⟨id, entered, vacant, enters⟩ := exists_vacant caller missing
  have refusals := spends_refusals caller vacant caller.policy.retries.toNat
    (by simp [fresh])
  obtain ⟨issued, connected, its, has, connects⟩ :=
    spends_connected last vacant (by simp [last, limit]) link
  obtain ⟨after, gone, discards⟩ := spends_discard last has limit
  refine ⟨issued, after, its, gone, ?_⟩
  have whole := enters.trans (refusals.trans (connects.trans discards))
  rw [Nat.zero_add, Nat.zero_add] at whole
  have same : caller.enterPhase .lookup = caller := by
    rw [Caller.enterPhase, ← begins]
  rwa [same] at whole

/-- All calls: each gets a dead link in its last attempt. -/
theorem spends_calls (caller : Caller Λ) (begins : caller.phase = .lookup)
    (fresh : caller.attempt = 0) (missing : cache.find? caller.address = none)
    {left : UInt32} (limit : caller.replacements = some left) (link : Λ)
    (count : Nat) (all : left.toNat = count) :
    ∃ last after, last.policy = caller.policy ∧
      (∃ serial, last.phase = .finished (.link ⟨serial, link⟩)) ∧
      Spends caller cache
        ((count + 1) * (caller.policy.retries.toNat + 1))
        ((count + 1) * caller.policy.retries.toNat) last after := by
  induction count generalizing caller cache left with
  | zero =>
      obtain ⟨⟨serial, _⟩, after, rfl, -, spends⟩ :=
        spends_call begins fresh missing limit link
      rw [if_pos (UInt32.toNat_inj.mp all)] at spends
      refine ⟨{ caller with
        attempt := caller.policy.retries
        phase := .finished (.link ⟨serial, _⟩) }, after, rfl, ⟨serial, rfl⟩, ?_⟩
      rwa [Nat.zero_add, Nat.one_mul, Nat.one_mul]
  | succ count induction =>
      have more : left ≠ 0 := by
        rintro rfl
        cases all
      obtain ⟨issued, after, -, gone, spends⟩ :=
        spends_call begins fresh missing limit link
      rw [if_neg more] at spends
      have fewer : (left - 1).toNat = count := by
        have bound := UInt32.toNat_lt left
        rw [UInt32.toNat_sub, UInt32.toNat_one]
        omega
      obtain ⟨last, final, same, ends, rest⟩ := induction
        { caller with
          replacements := some (left - 1)
          attempt := 0
          phase := .lookup } rfl rfl gone rfl fewer
      refine ⟨last, final, same, ends, ?_⟩
      rw [Nat.succ_mul (count + 1), Nat.succ_mul (count + 1),
        Nat.add_comm ((count + 1) * _), Nat.add_comm ((count + 1) * _)]
      exact spends.trans rest

end Attempts

end Calls

end RemoteMessaging
