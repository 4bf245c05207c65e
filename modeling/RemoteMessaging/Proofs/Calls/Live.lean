import RemoteMessaging.Proofs.Calls.Changes
import RemoteMessaging.Proofs.Calls.Solo

/-!
# Live links for a caller that is alone

A call for a live link is a row of calls for any link, all of which but the last
have got a dead one.  Its attempts, its pauses and the links that it looks at are
those of the row.
-/

namespace RemoteMessaging

open Calls

variable {Λ : Type}

namespace Caller

section Rows

variable {outcomes : Nat → Attempt Λ} {live : Issued Λ → Bool}
variable {id : CallerId} {address : Address} {policy : RetryPolicy}
variable {cache after final : LinkCache Λ}

/-- What a call for a live link gives and leaves behind, if it may replace so many
dead links. -/
inductive Ending (outcomes : Nat → Attempt Λ) (live : Issued Λ → Bool)
    (caller : Caller Λ) (cache : LinkCache Λ) (asked : Inquiries Λ) (left : Nat)
    (links : List (Issued Λ)) (after : LinkCache Λ) (told : Inquiries Λ) :
    CallResult Λ → Prop where
  | live {link : Issued Λ} (last : links.getLast? = some link)
      (lives : live link = true)
      (cached : after.get? caller.address = some link) :
      Ending outcomes live caller cache asked left links after told (.link link)
  | dead {link : Issued Λ} (last : links.getLast? = some link)
      (dead : ∀ link ∈ links, live link = false) (all : links.length = left + 1)
      (gone : after.find? caller.address = none) :
      Ending outcomes live caller cache asked left links after told (.link link)
  | failed {result : CallResult Λ} {before : LinkCache Λ} {heard : Inquiries Λ}
      (failure : ∀ link, result ≠ .link link)
      (dead : ∀ link ∈ links, live link = false)
      (replaces : caller.Replaces (.given outcomes live) cache asked links before
        heard)
      (returns : caller.Returns (.given outcomes live) before heard result after
        told)
      (last : (outcomes (told.attempts - 1)).link? = none)
      (unlinked : after.get? caller.address = none) :
      Ending outcomes live caller cache asked left links after told result

/-- A call for a live link, with its attempts, its pauses and its links. -/
structure Insisted (outcomes : Nat → Attempt Λ) (live : Issued Λ → Bool)
    (caller : Caller Λ) (cache : LinkCache Λ) (asked : Inquiries Λ) (left : Nat)
    (attempts pauses : Nat) (links : List (Issued Λ)) (result : CallResult Λ)
    (after : LinkCache Λ) : Prop where
  serials : links.map Issued.serial = List.range' cache.issued links.length
  got : links.map Issued.link = linksOf outcomes asked.attempts attempts
  tried : attempts ≤ (left + 1) * (caller.policy.retries.toNat + 1)
  paused : pauses ≤ (left + 1) * caller.policy.retries.toNat
  others : ∀ other, other ≠ caller.address → after.get? other = cache.get? other
  ending : Ending outcomes live caller cache asked left links after
    (asked.and attempts pauses links) result

/-- A dead link that is replaced, before the rest of the call. -/
theorem Ending.replaced {caller : Caller Λ}
    {asked heard judged told : Inquiries Λ} {left : Nat} {link : Issued Λ}
    {links : List (Issued Λ)} {result : CallResult Λ}
    (returns : caller.Returns (.given outcomes live) cache asked (.link link) after
      heard)
    (dead : (Outside.given outcomes live).isLive link heard = (false, judged))
    (rest : Ending outcomes live caller (after.evict caller.address link).2 judged
      left links final told result) :
    Ending outcomes live caller cache asked (left + 1) (link :: links) final told
      result := by
  have dies : live link = false := congrArg Prod.fst dead
  have last : ∀ {ending : Issued Λ}, links.getLast? = some ending →
      (link :: links).getLast? = some ending := by
    intro ending last
    rw [List.getLast?_cons, last]
    rfl
  cases rest with
  | live last' lives cached => exact .live (last last') lives cached
  | dead last' others all gone =>
      refine .dead (last last') (List.forall_mem_cons.mpr ⟨dies, others⟩) ?_ gone
      rw [List.length_cons, all]
  | failed failure others replaces returns' ends unlinked =>
      exact .failed failure (List.forall_mem_cons.mpr ⟨dies, others⟩)
        (.more returns dead replaces) returns' ends unlinked

/-- A call for any link that gets a dead one, which is evicted. -/
structure Dying (outcomes : Nat → Attempt Λ) (live : Issued Λ → Bool)
    (caller : Caller Λ) (cache : LinkCache Λ) (asked : Inquiries Λ)
    (refusals : Nat) (link : Λ) (after : LinkCache Λ) : Prop where
  few : refusals ≤ caller.policy.retries.toNat
  returns : caller.Returns (.given outcomes live) cache asked
    (.link ⟨cache.issued, link⟩) after (asked.and (refusals + 1) refusals [])
  got : linksOf outcomes asked.attempts (refusals + 1) = [link]
  dies : live ⟨cache.issued, link⟩ = false
  cached : after.get? caller.address = some ⟨cache.issued, link⟩
  counted : after.issued = cache.issued + 1
  tidy : after.Tidy
  others : ∀ other, other ≠ caller.address → after.get? other = cache.get? other

/-- The first call for any link decides, or it gets a dead one. -/
theorem insisted_or_dying (outcomes : Nat → Attempt Λ) (live : Issued Λ → Bool)
    (id : CallerId) (policy : RetryPolicy) (left : UInt32)
    (unlinked : cache.Unlinked address) (asked : Inquiries Λ) :
    (∃ attempts pauses links result after,
      ((start id address policy).insisting left).Returns (.given outcomes live)
        cache asked result after (asked.and attempts pauses links) ∧
      ∀ count, Insisted outcomes live (start id address policy) cache asked count
        attempts pauses links result after) ∨
    ∃ refusals link after,
      Dying outcomes live (start id address policy) cache asked refusals link
        after := by
  obtain ⟨refusals, few, result, after, returns, ⟨tidy, others, yields⟩⟩ :=
    returns_of_unlinked outcomes live id policy unlinked asked
  have tried : ∀ count, refusals + 1 ≤ (count + 1) * (policy.retries.toNat + 1) :=
    fun count => Nat.le_trans (Nat.succ_le_succ few)
      (Nat.le_mul_of_pos_left _ (Nat.succ_pos count))
  have paused : ∀ count, refusals ≤ (count + 1) * policy.retries.toNat :=
    fun count => Nat.le_trans few
      (Nat.le_mul_of_pos_left _ (Nat.succ_pos count))
  generalize got : linksOf outcomes asked.attempts (refusals + 1) = links at yields
  cases yields with
  | failure failure unlinked' counted =>
      refine .inl ⟨refusals + 1, refusals, [], result, after,
        returns_of_failure returns failure left, fun count => ?_⟩
      exact ⟨rfl, got.symm, tried count, paused count, others,
        .failed failure (by simp) (.none cache asked) returns
          (link?_of_linksOf got) unlinked'.get?⟩
  | @link link _ cached counted =>
      cases lives : live ⟨cache.issued, link⟩ with
      | false =>
          exact .inr ⟨refusals, link, after, few, returns, got, lives, cached,
            counted, tidy, others⟩
      | true =>
          have looks := Outside.isLive_given outcomes live asked (refusals + 1)
            refusals ⟨cache.issued, link⟩
          rw [lives] at looks
          refine .inl ⟨refusals + 1, refusals, [⟨cache.issued, link⟩], _, after,
            returns_of_live returns looks left, fun count => ?_⟩
          exact ⟨rfl, got.symm, tried count, paused count, others,
            .live rfl lives cached⟩

namespace Dying

variable {caller : Caller Λ} {asked : Inquiries Λ} {refusals : Nat} {link : Λ}

theorem dead (dying : Dying outcomes live caller cache asked refusals link after) :
    (Outside.given outcomes live).isLive ⟨cache.issued, link⟩
        (asked.and (refusals + 1) refusals []) =
      (false, asked.and (refusals + 1) refusals [⟨cache.issued, link⟩]) := by
  rw [Outside.isLive_given, dying.dies]

theorem unlinked (dying : Dying outcomes live caller cache asked refusals link after) :
    (after.evict caller.address ⟨cache.issued, link⟩).2.Unlinked
      caller.address := by
  have gone := LinkCache.find?_evict_self dying.cached
  refine ⟨dying.tidy.evict _ _, fun id found => ?_⟩
  simp [gone] at found

theorem others_evict
    (dying : Dying outcomes live caller cache asked refusals link after)
    (other : Address) (different : other ≠ caller.address) :
    (after.evict caller.address ⟨cache.issued, link⟩).2.get? other =
      cache.get? other := by
  rw [LinkCache.get?_evict_of_ne after different, dying.others other different]

theorem insisted (dying : Dying outcomes live caller cache asked refusals link after) :
    Insisted outcomes live caller cache asked 0 (refusals + 1) refusals
      [⟨cache.issued, link⟩] (.link ⟨cache.issued, link⟩)
      (after.evict caller.address ⟨cache.issued, link⟩).2 := by
  refine ⟨rfl, dying.got.symm, ?_, ?_, dying.others_evict, .dead rfl ?_ rfl
    (LinkCache.find?_evict_self dying.cached)⟩
  · have few := dying.few
    omega
  · have few := dying.few
    omega
  · intro other member
    obtain rfl := List.mem_singleton.mp member
    exact dying.dies

/-- The first of several links. -/
theorem insisted_of_rest
    (dying : Dying outcomes live caller cache asked refusals link after)
    {count attempts pauses : Nat} {links : List (Issued Λ)}
    {result : CallResult Λ}
    (rest : Insisted outcomes live caller
      (after.evict caller.address ⟨cache.issued, link⟩).2
      (asked.and (refusals + 1) refusals [⟨cache.issued, link⟩]) count attempts
      pauses links result final) :
    Insisted outcomes live caller cache asked (count + 1)
      (refusals + 1 + attempts) (refusals + pauses)
      (⟨cache.issued, link⟩ :: links) result final := by
  have few := dying.few
  have issued : (after.evict caller.address ⟨cache.issued, link⟩).2.issued =
      cache.issued + 1 := by
    rw [LinkCache.evict, LinkCache.issued_evictIf, dying.counted]
  constructor
  · rw [List.map_cons, rest.serials, issued, List.length_cons, List.range'_succ]
  · rw [linksOf_add, dying.got, List.map_cons, rest.got]
    rfl
  · have tried := rest.tried
    rw [Nat.succ_mul]
    omega
  · have paused := rest.paused
    rw [Nat.succ_mul]
    omega
  · intro other different
    rw [rest.others other different, dying.others_evict other different]
  · have ending := rest.ending
    rw [Inquiries.and_and] at ending
    exact .replaced dying.returns dying.dead ending

end Dying

theorem returns_insisting (outcomes : Nat → Attempt Λ) (live : Issued Λ → Bool)
    (id : CallerId) (policy : RetryPolicy) (count : Nat) (left : UInt32)
    (same : left.toNat = count) (unlinked : cache.Unlinked address)
    (asked : Inquiries Λ) :
    ∃ attempts pauses links result after,
      ((start id address policy).insisting left).Returns (.given outcomes live)
        cache asked result after (asked.and attempts pauses links) ∧
      Insisted outcomes live (start id address policy) cache asked count attempts
        pauses links result after := by
  -- On the replacements that are left: each dead link costs one, and leaves an
  -- address without a link again.
  induction count generalizing left cache asked with
  | zero =>
      obtain rfl : left = 0 := UInt32.toNat_inj.mp same
      rcases insisted_or_dying outcomes live id policy 0 unlinked asked with
        ⟨attempts, pauses, links, result, after, returns, insisted⟩ |
          ⟨refusals, link, after, dying⟩
      · exact ⟨attempts, pauses, links, result, after, returns, insisted 0⟩
      · exact ⟨_, _, _, _, _, returns_of_dead dying.returns dying.dead,
          dying.insisted⟩
  | succ count induction =>
      rcases insisted_or_dying outcomes live id policy left unlinked asked with
        ⟨attempts, pauses, links, result, after, returns, insisted⟩ |
          ⟨refusals, link, after, dying⟩
      · exact ⟨attempts, pauses, links, result, after, returns,
          insisted (count + 1)⟩
      · have fewer : (left - 1).toNat = count := by
          have bound := UInt32.toNat_lt left
          rw [UInt32.toNat_sub, UInt32.toNat_one]
          omega
        have more : left ≠ 0 := by
          rintro rfl
          cases same
        obtain ⟨attempts, pauses, links, result, final, returns, insisted⟩ :=
          induction (left - 1) fewer dying.unlinked
            (asked.and (refusals + 1) refusals [⟨cache.issued, link⟩])
        rw [Inquiries.and_and] at returns
        exact ⟨_, _, _, _, _,
          returns_of_replaced dying.returns dying.dead more returns,
          dying.insisted_of_rest insisted⟩

end Rows

/-- A link that was found dead is new, so it is cached at no other address. -/
theorem not_cached_of_dead {outcomes : Nat → Attempt Λ} {live : Issued Λ → Bool}
    {caller : Caller Λ} {calls : Calls Λ} {asked told : Inquiries Λ} {left : Nat}
    {links : List (Issued Λ)} {after : LinkCache Λ} {result : CallResult Λ}
    (serials : links.map Issued.serial =
      List.range' calls.cache.issued links.length)
    (others : ∀ other, other ≠ caller.address →
      after.get? other = calls.cache.get? other)
    (numbered : Numbered calls)
    (ending : Ending outcomes live caller calls.cache asked left links after told
      result) :
    ∀ link ∈ links, live link = false → ∀ other, after.get? other ≠ some link := by
  intro link member dies other has
  by_cases here : other = caller.address
  · subst here
    cases ending with
    | live last lives cached =>
        obtain rfl := Option.some.inj (cached.symm.trans has)
        simp [dies] at lives
    | dead last dead all gone => simp [LinkCache.get?, gone] at has
    | failed failure dead replaces returns ends unlinked =>
        simp [unlinked] at has
  · rw [others other here] at has
    obtain ⟨id, -, stored⟩ := LinkCache.get?_eq_some_iff.mp has
    have below := numbered.below link ⟨id, stored⟩
    have among : link.serial ∈ links.map Issued.serial :=
      List.mem_map_of_mem member
    rw [serials, List.mem_range'_1] at among
    omega

/-- While nobody else uses the cache, a caller for a live link looks once at each
link that it gets.  It gives a live link, which is cached; or a dead one, if all the
links that it may get were dead, and then its address has no entry; or it fails as
its last call for any link does, after dead links only, and then its address has no
link.  At no address is a link cached then that was found dead.

Before that, any callers may have used the cache, if those at the address have
ended and left no link there. -/
theorem replaces_dead_links (outcomes : Nat → Attempt Λ) (live : Issued Λ → Bool)
    (id : CallerId) (address : Address) (policy : RetryPolicy)
    (actions : List (Action Λ))
    (ended : ∀ caller ∈ (Calls.start.run actions).callers,
      caller.address = address → caller.result?.isSome = true)
    (missing : (Calls.start.run actions).cache.get? address = none) :
    let cache := (Calls.start.run actions).cache
    let outside := Outside.given outcomes live
    let any := Caller.start id address policy
    let retries := policy.retries.toNat
    ∃ result after told,
      (startLive id address policy).Returns outside cache .none result after told ∧
      told.judged.map Issued.link = linksOf outcomes 0 told.attempts ∧
      told.judged.map Issued.serial =
        List.range' cache.issued told.judged.length ∧
      told.attempts ≤ (retries + 1) * (retries + 1) ∧
      told.pauses ≤ retries * (retries + 1) ∧
      (∀ link ∈ told.judged, live link = false →
        ∀ other, after.get? other ≠ some link) ∧
      ((∃ link, result = .link link ∧ told.judged.getLast? = some link ∧
          live link = true ∧ after.get? address = some link) ∨
        (∃ link, result = .link link ∧ told.judged.getLast? = some link ∧
          told.judged.length = retries + 1 ∧
          (∀ link ∈ told.judged, live link = false) ∧
          after.find? address = none) ∨
        ((∀ link, result ≠ .link link) ∧
          (∀ link ∈ told.judged, live link = false) ∧
          after.get? address = none ∧
          (outcomes (told.attempts - 1)).link? = none ∧
          ∃ before heard,
            any.Replaces outside cache .none told.judged before heard ∧
            any.Returns outside before heard result after told)) := by
  intro cache outside any retries
  obtain ⟨owner, sound⟩ := sound_run actions
  obtain ⟨attempts, pauses, links, result, after, returns, insisted⟩ :=
    returns_insisting outcomes live id policy retries policy.retries rfl
      (sound.unlinked ended missing) .none
  have told : Inquiries.none.and attempts pauses links =
      ⟨attempts, pauses, links⟩ := by
    simp only [Inquiries.and, Inquiries.none, Nat.zero_add, List.nil_append]
  obtain ⟨serials, got, tried, paused, others, ending⟩ := insisted
  rw [told] at returns ending
  refine ⟨result, after, _, returns, got, serials, tried, ?_, ?_, ?_⟩
  · rw [Nat.mul_comm]
    exact paused
  · exact not_cached_of_dead serials others (numbered_run actions) ending
  · cases ending with
    | live last lives cached => exact .inl ⟨_, rfl, last, lives, cached⟩
    | dead last dead all gone => exact .inr (.inl ⟨_, rfl, last, all, dead, gone⟩)
    | failed failure dead replaces returns ends unlinked =>
        exact .inr (.inr ⟨failure, dead, unlinked, ends, _, _, replaces, returns⟩)

/-- All links are dead, and only one of them may be replaced. -/
theorem replaces_dead_links_of_two :
    let address : Address := ⟨"peer", 9000⟩
    let policy : RetryPolicy := ⟨1, .ofMillis 5⟩
    let earlier : List (Action Nat) :=
      .call address policy false :: List.replicate 4 (.turn 0) ++
        [.connected 0 (.failed (IoError.ofKind .timedOut)), .turn 0]
    let outside := Outside.given Attempt.connected fun _ => false
    let calls := Calls.start.run earlier
    (∀ caller ∈ calls.callers, caller.address = address →
        caller.result?.isSome = true) ∧
      calls.cache.find? address = some 0 ∧ calls.cache.get? address = none ∧
      ∃ after told,
        (startLive 1 address policy).Returns outside calls.cache .none
          (.link ⟨1, 1⟩) after told ∧
        told.attempts = 2 ∧ told.judged = [⟨0, 0⟩, ⟨1, 1⟩] ∧
        after.find? address = none := by
  intro address policy earlier outside calls
  have ended : ∀ caller ∈ calls.callers, caller.address = address →
      caller.result?.isSome = true := by
    decide
  have missing : calls.cache.get? address = none := by decide
  refine ⟨ended, by decide, missing, ?_⟩
  obtain ⟨result, after, told, returns, got, serials, -, -, -, ending⟩ :=
    replaces_dead_links Attempt.connected (fun _ => false) 1 address policy earlier
      ended missing
  have numbers : linksOf Attempt.connected 0 told.attempts =
      List.range' 0 told.attempts := by
    simp [linksOf, Attempt.link?]
  have issued : calls.cache.issued = 0 := by decide
  rw [numbers] at got
  rw [issued] at serials
  rcases ending with ⟨link, -, -, lives, -⟩ | ⟨link, rfl, last, all, -, gone⟩ |
    ⟨-, -, -, none, -⟩
  · cases lives
  · have all : told.judged.length = 2 := all
    have attempts : told.attempts = 2 := by
      have lengths := congrArg List.length got
      rw [List.length_map, List.length_range', all] at lengths
      exact lengths.symm
    rw [attempts] at got
    rw [all] at serials
    have judged : told.judged = [⟨0, 0⟩, ⟨1, 1⟩] := by
      obtain ⟨⟨serial, content⟩, ⟨serial', content'⟩, both⟩ :=
        List.length_eq_two.mp all
      rw [both] at got serials ⊢
      obtain ⟨rfl, rfl⟩ : content = 0 ∧ content' = 1 := by
        simpa [List.range'] using got
      obtain ⟨rfl, rfl⟩ : serial = 0 ∧ serial' = 1 := by
        simpa [List.range'] using serials
      rfl
    rw [judged] at last
    obtain rfl := Option.some.inj last
    exact ⟨after, told, returns, attempts, judged, gone⟩
  · cases none

end Caller

end RemoteMessaging
