import RemoteMessaging.Proofs.Calls.Trying

/-!
# Calls for any link of a caller that is alone

While nobody else uses the cache, what a caller gets depends on how its attempts to
connect end.  A call for any link finds a reference that nobody has tried, and
leaves it as it was unless it gets a link.
-/

namespace RemoteMessaging

open Calls

variable {Λ : Type}

def Attempt.link? : Attempt Λ → Option Λ
  | .connected link => some link
  | .failed _ | .panicked => none

/-- What a caller has asked for: so many attempts to connect and pauses, and
whether these links are live. -/
structure Inquiries (Λ : Type) where
  attempts : Nat
  pauses : Nat
  judged : List (Issued Λ)
  deriving DecidableEq, Repr

namespace Inquiries

def none : Inquiries Λ := ⟨0, 0, []⟩

def and (asked : Inquiries Λ) (attempts pauses : Nat)
    (judged : List (Issued Λ)) : Inquiries Λ :=
  ⟨asked.attempts + attempts, asked.pauses + pauses, asked.judged ++ judged⟩

theorem and_and (asked : Inquiries Λ) (attempts attempts' pauses pauses' : Nat)
    (judged judged' : List (Issued Λ)) :
    (asked.and attempts pauses judged).and attempts' pauses' judged' =
      asked.and (attempts + attempts') (pauses + pauses') (judged ++ judged') := by
  simp only [and, Nat.add_assoc, List.append_assoc]

end Inquiries

/-- Attempts that end one after another as given, and links of which some are live.
Nobody else uses the cache meanwhile. -/
def Outside.given (outcomes : Nat → Attempt Λ) (live : Issued Λ → Bool) :
    Outside (Inquiries Λ) Λ where
  connect _ cache asked := (outcomes asked.attempts, cache, asked.and 1 0 [])
  pause _ cache asked := (cache, asked.and 0 1 [])
  isLive link asked := (live link, asked.and 0 0 [link])
  warn _ asked := asked

theorem Outside.connect_given {outcomes : Nat → Attempt Λ} {asked : Inquiries Λ}
    {attempt : Attempt Λ} (outcome : outcomes asked.attempts = attempt)
    (live : Issued Λ → Bool) (address : Address) (cache : LinkCache Λ) :
    (Outside.given outcomes live).connect address cache asked =
      (attempt, cache, asked.and 1 0 []) :=
  congrArg (fun attempt => (attempt, cache, asked.and 1 0 [])) outcome

theorem Outside.isLive_given (outcomes : Nat → Attempt Λ)
    (live : Issued Λ → Bool) (asked : Inquiries Λ) (attempts pauses : Nat)
    (link : Issued Λ) :
    (Outside.given outcomes live).isLive link (asked.and attempts pauses []) =
      (live link, asked.and attempts pauses [link]) :=
  congrArg (Prod.mk (live link)) (asked.and_and attempts 0 pauses 0 [] [link])

def linksOf (outcomes : Nat → Attempt Λ) (first count : Nat) : List Λ :=
  (List.range' first count).filterMap fun attempt => (outcomes attempt).link?

theorem linksOf_one (outcomes : Nat → Attempt Λ) (first : Nat) :
    linksOf outcomes first 1 = (outcomes first).link?.toList := by
  unfold linksOf
  cases link : (outcomes first).link? <;> simp [link]

theorem linksOf_of_failed {outcomes : Nat → Attempt Λ} {first : Nat}
    {error : IoError} (failed : outcomes first = .failed error) :
    linksOf outcomes first 1 = [] := by
  rw [linksOf_one, failed]
  rfl

theorem linksOf_add (outcomes : Nat → Attempt Λ) (first count more : Nat) :
    linksOf outcomes first (count + more) =
      linksOf outcomes first count ++ linksOf outcomes (first + count) more := by
  unfold linksOf
  rw [← List.range'_append_1, List.filterMap_append]

theorem link?_of_linksOf {outcomes : Nat → Attempt Λ} {first count : Nat}
    (nothing : linksOf outcomes first (count + 1) = []) :
    (outcomes (first + count)).link? = none := by
  rw [linksOf_add, linksOf_one] at nothing
  cases link : (outcomes (first + count)).link? with
  | none => rfl
  | some link' => simp [link] at nothing

namespace Caller

section Attempts

variable {outcomes : Nat → Attempt Λ} {live : Issued Λ → Bool}
variable {caller next : Caller Λ} {cache after : LinkCache Λ} {id : ReferenceId}
variable {asked : Inquiries Λ}

def linked (cache : LinkCache Λ) (id : ReferenceId) (link : Λ) : LinkCache Λ :=
  ((busy cache id).store id link).2.settle id .established

theorem returns_of_connected (vacant : Vacant cache caller.address id)
    (any : caller.replacements = none) {link : Λ}
    (connected : outcomes asked.attempts = .connected link) :
    (caller.enterPhase (.inspect id)).Returns (.given outcomes live) cache asked
      (.link ⟨cache.issued, link⟩) (linked cache id link) (asked.and 1 0 []) := by
  obtain ⟨first, -⟩ := LinkCache.store_of_empty (stored_busy vacant) link
  have stores : (caller.enterPhase (.store id link)).turn (busy cache id) =
      .step (caller.enterPhase (.publish id ⟨cache.issued, link⟩))
        ((busy cache id).store id link).2 none := by
    rw [← show ((busy cache id).store id link).1 = ⟨cache.issued, link⟩ from first]
    rfl
  have publishes : (caller.enterPhase (.publish id ⟨cache.issued, link⟩)).turn
      ((busy cache id).store id link).2 =
      .step (caller.finish (.link ⟨cache.issued, link⟩)) (linked cache id link)
        none := by
    simp [turn, obtain, finish, enterPhase, linked, any]
  refine ⟨caller.finish (.link ⟨cache.issued, link⟩), ?_, rfl⟩
  rw [run_of_vacant vacant (Outside.connect_given connected live _ _)]
  exact (run_of_step stores rfl).trans
    ((run_of_step publishes rfl).trans (run_of_done rfl))

/-- What a call for any link gives and leaves behind: the next link, which is
cached, or an address without a link. -/
inductive Yields (address : Address) (issued : Nat) :
    List Λ → CallResult Λ → LinkCache Λ → Prop where
  | link {link : Λ} {after : LinkCache Λ}
      (cached : after.get? address = some ⟨issued, link⟩)
      (counted : after.issued = issued + 1) :
      Yields address issued [link] (.link ⟨issued, link⟩) after
  | failure {result : CallResult Λ} {after : LinkCache Λ}
      (failure : ∀ link, result ≠ .link link)
      (unlinked : after.Unlinked address) (counted : after.issued = issued) :
      Yields address issued [] result after

/-- A call for any link changes no other address. -/
structure Yielding (address : Address) (cache : LinkCache Λ) (links : List Λ)
    (result : CallResult Λ) (after : LinkCache Λ) : Prop where
  tidy : after.Tidy
  others : ∀ other, other ≠ address → after.get? other = cache.get? other
  yields : Yields address cache.issued links result after

theorem yielding_linked (vacant : Vacant cache caller.address id)
    (tidy : cache.Tidy) (link : Λ) :
    Yielding caller.address cache [link] (.link ⟨cache.issued, link⟩)
      (linked cache id link) := by
  obtain ⟨first, -⟩ := LinkCache.store_of_empty (stored_busy vacant) link
  have cached : (linked cache id link).get? caller.address =
      some ((busy cache id).store id link).1 := (get?_of_store vacant rfl).2
  refine ⟨?_, ?_, .link ?_ rfl⟩
  · apply tidy.congr
    · intro other id' found
      exact found
    · simp [linked, LinkCache.settle, busy]
  · intro other different
    refine LinkCache.get?_congr cache _ other rfl ?_
    intro place found
    have elsewhere : place ≠ id := by
      rintro rfl
      exact different (tidy.apart other _ _ found vacant.found)
    rw [linked, LinkCache.settle,
      LinkCache.reference_replace_of_ne _ elsewhere,
      LinkCache.reference_store_of_ne _ elsewhere, busy,
      LinkCache.reference_replace_of_ne _ elsewhere]
  · rw [first] at cached
    exact cached

theorem yielding_failure {result : CallResult Λ}
    (vacant : Vacant cache caller.address id) (tidy : cache.Tidy)
    (failure : ∀ link, result ≠ .link link) :
    Yielding caller.address cache [] result cache := by
  refine ⟨tidy, fun other _ => rfl, .failure failure ⟨tidy, ?_⟩ rfl⟩
  intro id' found
  obtain rfl := Option.some.inj (vacant.found.symm.trans found)
  exact vacant.free

theorem decided_or_refused (outcomes : Nat → Attempt Λ) (attempt : Nat) :
    (∀ error, outcomes attempt = .failed error →
        error.isConnectRefused = false) ∨
      ∃ error, outcomes attempt = .failed error ∧
        error.isConnectRefused = true := by
  by_cases decided : ∀ error, outcomes attempt = .failed error →
      error.isConnectRefused = false
  · exact .inl decided
  · simp only [not_forall, Bool.not_eq_false] at decided
    obtain ⟨error, failed, refused⟩ := decided
    exact .inr ⟨error, failed, refused⟩

theorem returns_of_decided (vacant : Vacant cache caller.address id)
    (tidy : cache.Tidy) (any : caller.replacements = none)
    (decided : ∀ error, outcomes asked.attempts = .failed error →
      error.isConnectRefused = false) :
    ∃ result after,
      (caller.enterPhase (.inspect id)).Returns (.given outcomes live) cache
        asked result after (asked.and 1 0 []) ∧
      Yielding caller.address cache (linksOf outcomes asked.attempts 1) result
        after := by
  rw [linksOf_one]
  cases outcome : outcomes asked.attempts with
  | connected link =>
      exact ⟨_, _, returns_of_connected vacant any outcome,
        yielding_linked vacant tidy link⟩
  | failed error =>
      exact ⟨_, _, returns_of_failed vacant (Outside.connect_given outcome live _ _)
        (decided error outcome), yielding_failure vacant tidy (by simp)⟩
  | panicked =>
      exact ⟨_, _, returns_of_panicked vacant (Outside.connect_given outcome live _ _),
        yielding_failure vacant tidy (by simp)⟩

/-- A call for any link is refused so many times, and then its last attempt ends
it. -/
theorem returns_of_vacant (outcomes : Nat → Attempt Λ) (live : Issued Λ → Bool)
    (caller : Caller Λ) (vacant : Vacant cache caller.address id) (tidy : cache.Tidy)
    (any : caller.replacements = none) (count : Nat)
    (enough : caller.attempt.toNat + count = caller.policy.retries.toNat)
    (asked : Inquiries Λ) :
    ∃ refusals ≤ count, ∃ result after,
      (caller.enterPhase (.inspect id)).Returns (.given outcomes live) cache
        asked result after (asked.and (refusals + 1) refusals []) ∧
      Yielding caller.address cache
        (linksOf outcomes asked.attempts (refusals + 1)) result after := by
  induction count generalizing caller asked with
  | zero =>
      rcases decided_or_refused outcomes asked.attempts with
        decided | ⟨error, failed, refused⟩
      · exact ⟨0, Nat.le_refl _, returns_of_decided vacant tidy any decided⟩
      · have last : caller.attempt = caller.policy.retries :=
          UInt32.toNat_inj.mp enough
        refine ⟨0, Nat.le_refl _, _, _, returns_of_refused vacant
          (Outside.connect_given failed live _ _) refused last, ?_⟩
        rw [linksOf_of_failed failed]
        exact yielding_failure vacant tidy (by simp)
  | succ count induction =>
      rcases decided_or_refused outcomes asked.attempts with
        decided | ⟨error, failed, refused⟩
      · exact ⟨0, Nat.zero_le _, returns_of_decided vacant tidy any decided⟩
      · have more : caller.attempt < caller.policy.retries :=
          UInt32.lt_iff_toNat_lt.mpr (by omega)
        have next := toNat_next_attempt more
        have again := run_of_refused vacant (Outside.connect_given failed live _ _)
          refused more
          (congrArg (Prod.mk cache) (asked.and_and 1 0 0 1 [] []))
        obtain ⟨refusals, few, result, after, ⟨last, ends, ended⟩, yielding⟩ :=
          induction { caller with attempt := caller.attempt + 1 } vacant any
            (by simp only [next]; omega) (asked.and 1 1 [])
        rw [Inquiries.and_and, Nat.add_comm 1, Nat.add_comm 1] at ends
        refine ⟨refusals + 1, Nat.succ_le_succ few, result, after,
          ⟨last, again.trans ends, ended⟩, ?_⟩
        rw [Nat.add_comm (refusals + 1), linksOf_add, linksOf_of_failed failed]
        exact yielding

theorem returns_of_unlinked (outcomes : Nat → Attempt Λ)
    (live : Issued Λ → Bool) (id : CallerId) {address : Address}
    (policy : RetryPolicy) (unlinked : cache.Unlinked address)
    (asked : Inquiries Λ) :
    ∃ refusals ≤ policy.retries.toNat, ∃ result after,
      (start id address policy).Returns (.given outcomes live) cache asked result
        after (asked.and (refusals + 1) refusals []) ∧
      Yielding address cache (linksOf outcomes asked.attempts (refusals + 1))
        result after := by
  let caller : Caller Λ := start id address policy
  obtain ⟨reference, entered, vacant, tidy, links, issued, enters⟩ :=
    exists_vacant_run (.given outcomes live) caller unlinked
  obtain ⟨refusals, few, result, after, ⟨last, ends, ended⟩, yielding⟩ :=
    returns_of_vacant outcomes live caller vacant tidy rfl policy.retries.toNat
      (Nat.zero_add _) asked
  refine ⟨refusals, few, result, after, ⟨last, (enters asked).trans ends, ended⟩,
    yielding.tidy, ?_, issued ▸ yielding.yields⟩
  intro other different
  rw [yielding.others other different, links]

end Attempts

end Caller

end RemoteMessaging
