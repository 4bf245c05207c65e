import RemoteMessaging.Proofs.Calls.Run
import RemoteMessaging.Proofs.Sharing

/-!
# Permits to connect

A permit is out exactly while the state of its reference says so, and whoever
sleeps waits for its holder.  Callers that establish links never wait for
themselves, since they hold no permit when they wait or pause.
-/

namespace RemoteMessaging

variable {Λ : Type}

namespace Calls.Sound

variable {owner : ReferenceId → Address} {calls : Calls Λ}

theorem free_of_pausing (sound : Sound owner calls) {id : CallerId}
    {caller : Caller Λ} (found : calls.callers[id]? = some caller)
    (pausing : caller.phase = .pausing) (reference : ReferenceId) :
    (reference, id) ∉ calls.permits := by
  intro member
  obtain ⟨content, permit⟩ := sound.permit_of_mem found member
  simp [pausing, Caller.Phase.permit?] at permit

/-- A caller that sleeps waits for another. -/
theorem holder_of_asleep (sound : Sound owner calls)
    {reference : ReferenceId} {id : CallerId}
    (asleep : id ∈ (calls.cache.reference reference).sleepers) :
    (calls.cache.reference reference).state = .connecting ∧
      ∃ holder, holder ≠ id ∧ (reference, holder) ∈ calls.permits := by
  obtain ⟨connecting, caller, found, phase⟩ := sound.asleep reference id asleep
  obtain ⟨holder, member⟩ := (sound.connecting reference).mp connecting
  refine ⟨connecting, holder, ?_, member⟩
  intro same
  obtain ⟨content, permit⟩ := sound.permit_of_mem found (same ▸ member)
  simp [phase, Caller.Phase.permit?] at permit

end Calls.Sound

/-- However threads use a reference: one permit is out exactly while the state is
connecting; a link is there as soon as the state is established, and not before
somebody connects; then neither ever changes again; a link is put there at most
once, so that a permit is completed with its own link; and whoever sleeps waits
for a permit that is out, which it does not hold itself unless it began to wait
with it.  Among callers that establish links, the holder is always somebody else,
and no caller holds a permit during a pause. -/
theorem permits_settle :
    (∀ actions : List (Sharing.Action Λ),
      let sharing := Sharing.start.run actions
      (sharing.reference.state = .connecting ↔
          ∃ holder, sharing.permits = [holder]) ∧
        sharing.permits.length ≤ 1 ∧
        (sharing.reference.state = .established →
          sharing.reference.stored.isSome) ∧
        (sharing.reference.stored.isSome →
          sharing.reference.state = .connecting ∨
            sharing.reference.state = .established) ∧
        (sharing.reference.state = .established → ∀ later,
          (sharing.run later).reference.state = .established ∧
            (sharing.run later).reference.stored =
              sharing.reference.stored) ∧
        sharing.history.countP Sharing.Happening.isStored ≤ 1 ∧
        (∀ offered returned,
          .completed offered returned ∈ sharing.history →
            returned = offered) ∧
        (∀ thread ∈ sharing.reference.sleepers,
          sharing.reference.state = .connecting ∧
            ∃ holder, sharing.permits = [holder] ∧
              (Sharing.WaitsApart thread Sharing.start actions →
                holder ≠ thread))) ∧
      ∀ actions : List (Calls.Action Λ),
        let calls := Calls.start.run actions
        (∀ (id : CallerId) caller, calls.callers[id]? = some caller →
            caller.phase = .pausing →
              ∀ reference, (reference, id) ∉ calls.permits) ∧
          ∀ reference,
            ∀ id ∈ (calls.cache.reference reference).sleepers,
              (calls.cache.reference reference).state = .connecting ∧
                ∃ holder, holder ≠ id ∧ (reference, holder) ∈ calls.permits := by
  constructor
  · intro actions sharing
    have sound : sharing.Sound := Sharing.Sound.start.run actions
    refine ⟨sound.connecting_iff, sound.sole, sound.established, ?_, ?_, ?_,
      sound.returned, ?_⟩
    · intro filled
      cases state : sharing.reference.state with
      | idle => simp [sound.idle state] at filled
      | connecting => exact .inl rfl
      | established => exact .inr rfl
    · intro established later
      rw [sound.reference_run established later]
      exact ⟨established, rfl⟩
    · rw [sound.counted]
      cases sharing.reference.stored <;> simp
    · intro thread asleep
      obtain ⟨phase, connecting⟩ := sound.asleep thread asleep
      obtain ⟨holder, held⟩ := sound.connecting_iff.mp connecting
      refine ⟨connecting, holder, held, ?_⟩
      intro careful same
      have apart : Sharing.Apart thread sharing :=
        Sharing.Apart.run (by simp [Sharing.Apart, Sharing.start]) careful
      exact apart.free (by simp [phase]) (by simp [phase]) rfl
        (by simp [held, same])
  · intro actions calls
    obtain ⟨owner, sound⟩ := Calls.sound_run actions
    constructor
    · intro id caller found pausing reference
      exact sound.free_of_pausing found pausing reference
    · intro reference id asleep
      exact sound.holder_of_asleep asleep

/-- Nothing keeps the holder of a permit from waiting for itself. -/
theorem sleeper_may_hold_permit :
    ¬ ∀ (actions : List (Sharing.Action Unit)) (thread : CallerId),
      let sharing := Sharing.start.run actions
      thread ∈ sharing.reference.sleepers →
        sharing.reference.state = .connecting ∧
          ∃ holder ∈ sharing.permits, holder ≠ thread := by
  intro claimed
  obtain ⟨-, holder, member, different⟩ :=
    claimed [.claim 0, .wait 0, .check 0] 0 (by decide)
  have same : holder = 0 := by
    simpa [Sharing.run, Sharing.step, Sharing.claim, Sharing.wait,
      Sharing.check, Sharing.start, Sharing.enter, Reference.claim,
      Reference.await, Reference.new] using member
  exact different same

end RemoteMessaging
