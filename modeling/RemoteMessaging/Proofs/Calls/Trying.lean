import RemoteMessaging.Proofs.Calls.Insisting
import RemoteMessaging.Proofs.Calls.Spending
import RemoteMessaging.Proofs.Calls.Unlinked

/-!
# Attempts of a caller that nobody disturbs

Where an address has no link and nobody connects for it, a caller makes an attempt.
A refused one is repeated after a pause if it is not the last; any other failure
ends the call.  A failed attempt leaves the cache as it was.
-/

namespace RemoteMessaging

open Calls

variable {σ Λ : Type}

namespace Caller

theorem run_noting (outside : Outside σ Λ) (caller : Caller Λ)
    (cache : LinkCache Λ) (noted : List (Attempt Λ)) (state : σ) :
    ∃ told, caller.run outside.noting cache (noted, state) =
      let (last, after, final) := caller.run outside cache state
      (last, after, told, final) := by
  fun_induction Caller.run outside caller cache state generalizing noted with
  | case1 caller cache state next after warning taken told awake _ induction =>
      rw [run_of_step taken awake]
      cases warning <;> exact induction noted
  | case2 caller cache state next after warning taken told asleep =>
      refine ⟨noted, ?_⟩
      rw [run]
      split
      all_goals
        rename_i taken'
        cases taken.symm.trans taken'
      cases warning <;> exact dif_neg asleep
  | case3 caller cache state taken attempt after told asked _ induction =>
      rw [run_of_connect taken]
      simp only [Outside.noting, asked]
      exact induction _
  | case4 caller cache state delay taken after told asked _ induction =>
      rw [run_of_pause taken]
      simp only [Outside.noting, asked]
      exact induction noted
  | case5 caller cache state link taken live told asked _ induction =>
      rw [run_of_judge taken]
      simp only [Outside.noting, asked]
      exact induction noted
  | case6 caller cache state taken | case7 caller cache state _ taken =>
      refine ⟨noted, ?_⟩
      rw [run]
      split
      all_goals
        rename_i taken'
        cases taken.symm.trans taken'
      rfl

/-- A caller that goes on alone passes another place of its run, on some cache and with
what the outside has been told until then. -/
inductive Passes (outside : Outside σ Λ) :
    Caller Λ → LinkCache Λ → σ → Caller Λ → LinkCache Λ → σ → Prop where
  | here (caller : Caller Λ) (cache : LinkCache Λ) (state : σ) :
      Passes outside caller cache state caller cache state
  | turn {caller next place : Caller Λ} {cache after held : LinkCache Λ}
      {state told : σ} {warning : Option String}
      (taken : caller.turn cache = .step next after warning)
      (awake : next.isAsleep = false)
      (rest : Passes outside next after (warning.elim state (outside.warn · state))
        place held told) :
      Passes outside caller cache state place held told
  | connected {caller place : Caller Λ} {cache after held : LinkCache Λ}
      {state heard told : σ} {attempt : Attempt Λ}
      (taken : caller.turn cache = .connect)
      (asked : outside.connect caller.address cache state = (attempt, after, heard))
      (rest : Passes outside (caller.connected attempt) after heard place held
        told) :
      Passes outside caller cache state place held told
  | resumed {caller place : Caller Λ} {cache after held : LinkCache Λ}
      {state heard told : σ} {delay : Duration}
      (taken : caller.turn cache = .pause delay)
      (asked : outside.pause delay cache state = (after, heard))
      (rest : Passes outside caller.resumed after heard place held told) :
      Passes outside caller cache state place held told
  | judged {caller place : Caller Λ} {cache held : LinkCache Λ}
      {state heard told : σ} {link : Issued Λ} {live : Bool}
      (taken : caller.turn cache = .judge link)
      (asked : outside.isLive link state = (live, heard))
      (rest : Passes outside (caller.judged live) cache heard place held told) :
      Passes outside caller cache state place held told

namespace Passes

variable {outside : Outside σ Λ} {caller place last : Caller Λ}
variable {cache held final : LinkCache Λ} {state told heard : σ}

theorem trans (first : Passes outside caller cache state place held told)
    (second : Passes outside place held told last final heard) :
    Passes outside caller cache state last final heard := by
  induction first with
  | here => exact second
  | turn taken awake _ induction => exact .turn taken awake (induction second)
  | connected taken asked _ induction =>
      exact .connected taken asked (induction second)
  | resumed taken asked _ induction => exact .resumed taken asked (induction second)
  | judged taken asked _ induction => exact .judged taken asked (induction second)

/-- From a place that it passes, a caller goes on as from the beginning. -/
theorem run_eq (passes : Passes outside caller cache state place held told) :
    caller.run outside cache state = place.run outside held told := by
  induction passes with
  | here => rfl
  | turn taken awake _ induction => rw [run_of_step taken awake, induction]
  | connected taken asked _ induction =>
      rw [run_of_connect taken]
      simp only [asked, induction]
  | resumed taken asked _ induction =>
      rw [run_of_pause taken]
      simp only [asked, induction]
  | judged taken asked _ induction =>
      rw [run_of_judge taken]
      simp only [asked, induction]

end Passes

section Attempts

variable {outside : Outside σ Λ} {caller : Caller Λ} {cache after : LinkCache Λ}
variable {id : ReferenceId} {attempt : Attempt Λ} {error : IoError}
variable {state told paused : σ}

theorem exists_vacant_passes (outside : Outside σ Λ) (caller : Caller Λ)
    (unlinked : cache.Unlinked caller.address) :
    ∃ id after, Vacant after caller.address id ∧ after.Tidy ∧
      (∀ other, after.get? other = cache.get? other) ∧
      after.issued = cache.issued ∧
      ∀ state, Passes outside (caller.enterPhase .lookup) cache state
        (caller.enterPhase (.inspect id)) after state := by
  cases found : cache.find? caller.address with
  | some id =>
      have vacant : Vacant cache caller.address id :=
        ⟨found, unlinked.tidy.known _ id found, unlinked.free id found⟩
      exact ⟨id, cache, vacant, unlinked.tidy, fun _ => rfl, rfl,
        fun _ => .turn (turn_lookup vacant) rfl (.here _ _ _)⟩
  | none =>
      have alike := cache.alike_enter caller.address
      refine ⟨_, _, vacant_enter found, unlinked.tidy.enter _, alike.links,
        alike.issued, fun state => ?_⟩
      exact .turn (turn_lookup_of_missing found) rfl
        (.turn (turn_enter caller cache) rfl (.here _ _ _))

theorem exists_vacant_run (outside : Outside σ Λ) (caller : Caller Λ)
    (unlinked : cache.Unlinked caller.address) :
    ∃ id after, Vacant after caller.address id ∧ after.Tidy ∧
      (∀ other, after.get? other = cache.get? other) ∧
      after.issued = cache.issued ∧
      ∀ state, (caller.enterPhase .lookup).run outside cache state =
        (caller.enterPhase (.inspect id)).run outside after state := by
  obtain ⟨id, after, vacant, tidy, links, issued, passes⟩ :=
    exists_vacant_passes outside caller unlinked
  exact ⟨id, after, vacant, tidy, links, issued, fun state => (passes state).run_eq⟩

theorem passes_of_vacant (vacant : Vacant cache caller.address id)
    (tried : outside.connect caller.address (busy cache id) state =
      (attempt, after, told)) :
    Passes outside (caller.enterPhase (.inspect id)) cache state
      ((caller.enterPhase (.connecting id)).connected attempt) after told :=
  .turn (turn_inspect vacant) rfl
    (.turn (turn_claim vacant) rfl (.connected rfl tried (.here _ _ _)))

theorem run_of_vacant (vacant : Vacant cache caller.address id)
    (tried : outside.connect caller.address (busy cache id) state =
      (attempt, after, told)) :
    (caller.enterPhase (.inspect id)).run outside cache state =
      ((caller.enterPhase (.connecting id)).connected attempt).run outside after
        told :=
  (passes_of_vacant vacant tried).run_eq

theorem returns_of_failed (vacant : Vacant cache caller.address id)
    (tried : outside.connect caller.address (busy cache id) state =
      (.failed error, busy cache id, told))
    (other : error.isConnectRefused = false) :
    (caller.enterPhase (.inspect id)).Returns outside cache state
      (.error (.io "connect" error)) cache told := by
  have connects : (caller.enterPhase (.connecting id)).connected (.failed error) =
      caller.enterPhase (.failed id error) := by
    simp [connected, enterPhase, other]
  have gives : (caller.enterPhase (.failed id error)).turn (busy cache id) =
      .step (caller.finish (.error (.io "connect" error))) cache none :=
    congrArg (Turn.step _ · none) (settle_busy vacant)
  refine ⟨caller.finish (.error (.io "connect" error)), ?_, rfl⟩
  rw [run_of_vacant vacant tried, connects]
  exact (run_of_step gives rfl).trans (run_of_done rfl)

theorem returns_of_panicked (vacant : Vacant cache caller.address id)
    (tried : outside.connect caller.address (busy cache id) state =
      (.panicked, busy cache id, told)) :
    (caller.enterPhase (.inspect id)).Returns outside cache state .panicked cache
      told := by
  have gives : (caller.enterPhase (.panicking id)).turn (busy cache id) =
      .step (caller.finish .panicked) cache none :=
    congrArg (Turn.step _ · none) (settle_busy vacant)
  refine ⟨caller.finish .panicked, ?_, rfl⟩
  rw [run_of_vacant vacant tried]
  exact (run_of_step gives rfl).trans (run_of_done rfl)

theorem connected_of_refused (caller : Caller Λ) (id : ReferenceId)
    (refused : error.isConnectRefused = true) :
    (caller.enterPhase (.connecting id)).connected (.failed error) =
      caller.enterPhase (.refused id) := by
  simp [connected, enterPhase, refused]

theorem passes_refused (vacant : Vacant cache caller.address id)
    (tried : outside.connect caller.address (busy cache id) state =
      (.failed error, after, told))
    (refused : error.isConnectRefused = true) :
    Passes outside (caller.enterPhase (.inspect id)) cache state
      (caller.enterPhase (.refused id)) after told := by
  have attempted := passes_of_vacant vacant tried
  rwa [connected_of_refused caller id refused] at attempted

theorem passes_of_refused (vacant : Vacant cache caller.address id)
    (tried : outside.connect caller.address (busy cache id) state =
      (.failed error, busy cache id, told))
    (refused : error.isConnectRefused = true)
    (more : caller.attempt < caller.policy.retries)
    (waited : outside.pause caller.policy.backoff cache
      (outside.warn caller.refusal told) = (cache, paused)) :
    Passes outside (caller.enterPhase (.inspect id)) cache state
      { caller with attempt := caller.attempt + 1, phase := .inspect id }
      cache paused := by
  let next : Caller Λ := { caller with attempt := caller.attempt + 1 }
  have looks : (next.enterPhase .lookup).turn cache =
      .step (next.enterPhase (.inspect id)) cache none := turn_lookup vacant
  have resumes : Passes outside (caller.enterPhase .pausing).resumed cache paused
      (next.enterPhase (.inspect id)) cache paused := by
    rw [resumed_of_more more]
    exact .turn looks rfl (.here _ _ _)
  exact (passes_refused vacant tried refused).trans
    (.turn (turn_refused vacant more) rfl (.resumed rfl waited resumes))

theorem run_of_refused (vacant : Vacant cache caller.address id)
    (tried : outside.connect caller.address (busy cache id) state =
      (.failed error, busy cache id, told))
    (refused : error.isConnectRefused = true)
    (more : caller.attempt < caller.policy.retries)
    (waited : outside.pause caller.policy.backoff cache
      (outside.warn caller.refusal told) = (cache, paused)) :
    (caller.enterPhase (.inspect id)).run outside cache state =
      { caller with
        attempt := caller.attempt + 1
        phase := .inspect id }.run outside cache paused :=
  (passes_of_refused vacant tried refused more waited).run_eq

theorem returns_of_refused (vacant : Vacant cache caller.address id)
    (tried : outside.connect caller.address (busy cache id) state =
      (.failed error, busy cache id, told))
    (refused : error.isConnectRefused = true)
    (last : caller.attempt = caller.policy.retries) :
    (caller.enterPhase (.inspect id)).Returns outside cache state
      (.error (.connect caller.address caller.policy.attempts)) cache
      (outside.warn caller.refusal told) := by
  have ends : (caller.enterPhase (.refused id)).advance = caller.finish
      (.error (.connect caller.address caller.policy.attempts)) :=
    if_pos last
  have gives : (caller.enterPhase (.refused id)).turn (busy cache id) =
      .step (caller.finish
        (.error (.connect caller.address caller.policy.attempts))) cache
        (some caller.refusal) := by
    rw [← ends]
    refine congrArg₂ (fun next after => Turn.step next after _) (if_neg ?_)
      (settle_busy vacant)
    exact fun more => UInt32.ne_of_lt more last
  refine ⟨caller.finish _, ?_, rfl⟩
  rw [(passes_refused vacant tried refused).run_eq]
  exact (run_of_step gives rfl).trans (run_of_done rfl)

end Attempts

end Caller

end RemoteMessaging
