import RemoteMessaging.Link.Sharing

/-!
# What holds at a reference that threads share

`Sound` relates the state of a reference to the one permit that may be out, to
the link, and to the sleepers.  Every step keeps it, so it holds in every run.
-/

namespace RemoteMessaging.Sharing

variable {Λ : Type}

def Happening.isStored : Happening Λ → Bool
  | .stored _ => true
  | _ => false

/-- How the parts of a shared reference fit together. -/
structure Sound (sharing : Sharing Λ) : Prop where
  sole : sharing.permits.length ≤ 1
  connecting : sharing.reference.state = .connecting ↔ sharing.permits ≠ []
  idle : sharing.reference.state = .idle → sharing.reference.stored = none
  established : sharing.reference.state = .established →
    sharing.reference.stored.isSome
  /-- Before its holder begins to complete it, a permit means that there is no
  link. -/
  fresh : ∀ thread ∈ sharing.permits, sharing.reference.stored = none ∨
    ∃ offered stored, sharing.phase thread = .completing offered stored
  completing : ∀ thread offered stored,
    sharing.phase thread = .completing offered stored →
      thread ∈ sharing.permits ∧ stored = offered ∧
        sharing.reference.stored = some offered
  asleep : ∀ thread ∈ sharing.reference.sleepers,
    sharing.phase thread = .asleep ∧ sharing.reference.state = .connecting
  counted : sharing.history.countP Happening.isStored =
    sharing.reference.stored.toList.length
  returned : ∀ offered returned,
    .completed offered returned ∈ sharing.history → returned = offered

/-! ## What each step can do -/

theorem claim_cases (sharing : Sharing Λ) (thread : CallerId) :
    sharing.claim thread = sharing ∨
      sharing.phase thread = .free ∧ sharing.reference.state = .idle ∧
        sharing.claim thread = { sharing with
          reference := { sharing.reference with state := .connecting }
          permits := thread :: sharing.permits } := by
  unfold claim
  split
  · rename_i free
    by_cases idle : sharing.reference.state = .idle
    · exact .inr ⟨free, idle, by simp [Reference.claim, idle]⟩
    · exact .inl (by simp [Reference.claim, idle])
  · exact .inl rfl

theorem store_cases (sharing : Sharing Λ) (thread : CallerId)
    (link : Issued Λ) :
    sharing.store thread link = sharing ∨
      sharing.phase thread = .free ∧ thread ∈ sharing.permits ∧
        sharing.store thread link =
          ({ sharing with reference := (sharing.reference.store link).2 }.enter
            thread (.completing link (sharing.reference.store link).1)).note
              (if sharing.reference.stored.isNone then [.stored link] else
                []) := by
  unfold store
  split
  · rename_i free
    by_cases holder : thread ∈ sharing.permits
    · exact .inr ⟨free, holder, by simp only [holder, if_true]⟩
    · exact .inl (by simp only [holder, if_false])
  · exact .inl rfl

theorem publish_cases (sharing : Sharing Λ) (thread : CallerId) :
    sharing.publish thread = sharing ∨ ∃ offered stored,
      sharing.phase thread = .completing offered stored ∧
        sharing.publish thread =
          ((sharing.settle thread .established).enter thread .free).note
            [.completed offered stored] := by
  unfold publish
  split
  · rename_i offered stored completing
    exact .inr ⟨offered, stored, completing, rfl⟩
  · exact .inl rfl

theorem drop_cases (sharing : Sharing Λ) (thread : CallerId) :
    sharing.drop thread = sharing ∨
      sharing.phase thread = .free ∧ thread ∈ sharing.permits ∧
        sharing.drop thread = sharing.settle thread .idle := by
  unfold drop
  split
  · rename_i free
    by_cases holder : thread ∈ sharing.permits
    · exact .inr ⟨free, holder, by simp only [holder, if_true]⟩
    · exact .inl (by simp only [holder, if_false])
  · exact .inl rfl

theorem check_cases (sharing : Sharing Λ) (thread : CallerId) :
    sharing.check thread = sharing ∨
      sharing.phase thread = .awaiting ∧
        (sharing.reference.state = .connecting ∧
            sharing.check thread =
              { sharing with
                reference := { sharing.reference with
                  sleepers := thread :: sharing.reference.sleepers } }.enter
                thread .asleep ∨
          sharing.check thread = sharing.enter thread .rereading) := by
  unfold check
  split
  · rename_i awaiting
    by_cases connecting : sharing.reference.state = .connecting
    · exact .inr ⟨awaiting, .inl ⟨connecting,
        by simp [Reference.await, connecting]⟩⟩
    · exact .inr ⟨awaiting, .inr (by simp [Reference.await, connecting])⟩
  · exact .inl rfl

/-! ## Each step keeps it -/

namespace Sound

variable {sharing : Sharing Λ}

theorem start : Sound (Sharing.start : Sharing Λ) := by
  constructor <;> simp [Sharing.start, Reference.new]

/-- A thread with a permit is the only one that has one. -/
theorem permits_eq (sound : Sound sharing) {thread : CallerId}
    (member : thread ∈ sharing.permits) : sharing.permits = [thread] := by
  have bound := sound.sole
  match held : sharing.permits with
  | [] => simp [held] at member
  | [holder] =>
      have same : thread = holder := by simpa [held] using member
      rw [same]
  | _ :: _ :: _ => simp [held] at bound

theorem permits_eq_nil (sound : Sound sharing)
    (settled : sharing.reference.state ≠ .connecting) :
    sharing.permits = [] := by
  match held : sharing.permits with
  | [] => rfl
  | _ :: _ =>
      have some : sharing.permits ≠ [] := by simp [held]
      exact (settled (sound.connecting.mpr some)).elim

theorem enter (sound : Sound sharing) {thread : CallerId} {phase : Phase Λ}
    (awake : thread ∉ sharing.reference.sleepers)
    (before : ∀ offered stored,
      sharing.phase thread ≠ .completing offered stored)
    (after : ∀ offered stored, phase ≠ .completing offered stored) :
    Sound (sharing.enter thread phase) := by
  refine { sound with fresh := ?_, completing := ?_, asleep := ?_ }
  · intro holder member
    obtain empty | ⟨offered, stored, completing⟩ := sound.fresh holder member
    · exact .inl empty
    · have different : holder ≠ thread := by
        intro same
        subst same
        exact before offered stored completing
      exact .inr ⟨offered, stored, by simpa [Sharing.enter, different]⟩
  · intro other offered stored completing
    by_cases same : other = thread
    · simp only [Sharing.enter, same, if_true] at completing
      exact (after offered stored completing).elim
    · simp only [Sharing.enter, same, if_false] at completing
      exact sound.completing other offered stored completing
  · intro other member
    have different : other ≠ thread := by
      intro same
      subst same
      exact awake member
    simpa [Sharing.enter, different] using sound.asleep other member

theorem note (sound : Sound sharing) {happening : Happening Λ}
    (plain : happening.isStored = false)
    (honest : ∀ offered returned,
      happening = .completed offered returned → returned = offered) :
    Sound (sharing.note [happening]) := by
  refine { sound with counted := ?_, returned := ?_ }
  · simpa [Sharing.note, plain] using sound.counted
  · intro offered returned member
    rcases List.mem_append.mp member with earlier | now
    · exact sound.returned offered returned earlier
    · exact honest offered returned (List.mem_singleton.mp now).symm

/-- The holder of the permit settles it: as established if it has stored its
link, and as idle before that. -/
theorem settle (sound : Sound sharing) {thread : CallerId} {next : LinkState}
    (holder : thread ∈ sharing.permits) (settled : next ≠ .connecting)
    (idle : next = .idle → sharing.reference.stored = none)
    (established : next = .established → sharing.reference.stored.isSome)
    (nobody : ∀ other offered stored,
      sharing.phase other = .completing offered stored → other = thread)
    (phase : Phase Λ)
    (after : ∀ offered stored, phase ≠ .completing offered stored) :
    Sound ((sharing.settle thread next).enter thread phase) := by
  have empty : sharing.permits.erase thread = [] := by
    simp [sound.permits_eq holder]
  constructor
  · simp [Sharing.enter, Sharing.settle, empty]
  · simp [Sharing.enter, Sharing.settle, Reference.settle, empty, settled]
  · exact idle
  · exact established
  · simp [Sharing.enter, Sharing.settle, empty]
  · intro other offered stored completing
    by_cases same : other = thread
    · simp only [Sharing.enter, same, if_true] at completing
      exact (after offered stored completing).elim
    · simp only [Sharing.enter, Sharing.settle, same, if_false] at completing
      exact (same (nobody other offered stored completing)).elim
  · simp [Sharing.enter, Sharing.settle, Reference.settle]
  · exact sound.counted
  · exact sound.returned

theorem claim (sound : Sound sharing) (thread : CallerId) :
    Sound (sharing.claim thread) := by
  obtain same | ⟨-, idle, step⟩ := sharing.claim_cases thread
  · rw [same]
    exact sound
  rw [step]
  have empty := sound.idle idle
  have nobody : sharing.permits = [] := sound.permits_eq_nil (by simp [idle])
  constructor
  · simp [nobody]
  · simp
  · simp
  · simp
  · intro holder _
    exact .inl empty
  · intro other offered stored completing
    have holder := (sound.completing other offered stored completing).1
    simp [nobody] at holder
  · intro other member
    have connecting := (sound.asleep other member).2
    simp [idle] at connecting
  · exact sound.counted
  · exact sound.returned

theorem store (sound : Sound sharing) (thread : CallerId) (link : Issued Λ) :
    Sound (sharing.store thread link) := by
  obtain same | ⟨free, holder, step⟩ := sharing.store_cases thread link
  · rw [same]
    exact sound
  rw [step]
  have connecting := sound.connecting.mpr (List.ne_nil_of_mem holder)
  have empty : sharing.reference.stored = none := by
    obtain empty | ⟨offered, stored, completing⟩ := sound.fresh thread holder
    · exact empty
    · simp [free] at completing
  have counted := sound.counted
  simp only [empty] at counted
  simp only [Reference.store, empty, Option.isNone_none, if_true]
  constructor
  · exact sound.sole
  · exact sound.connecting
  · intro idle
    simp [Sharing.note, Sharing.enter, connecting] at idle
  · simp [Sharing.note, Sharing.enter]
  · intro other member
    have same : other = thread := by
      simpa [sound.permits_eq holder, Sharing.note, Sharing.enter] using member
    exact .inr ⟨link, link, by simp [Sharing.note, Sharing.enter, same]⟩
  · intro other offered stored completing
    by_cases same : other = thread
    · simp only [Sharing.note, Sharing.enter, same, if_true,
        Phase.completing.injEq] at completing
      obtain ⟨rfl, rfl⟩ := completing
      subst same
      exact ⟨holder, rfl, rfl⟩
    · simp only [Sharing.note, Sharing.enter, same, if_false] at completing
      have filled := (sound.completing other offered stored completing).2.2
      simp [empty] at filled
  · intro other member
    have before := sound.asleep other member
    have different : other ≠ thread := by
      intro same
      simp [same, free] at before
    simpa [Sharing.note, Sharing.enter, different] using before
  · simpa [Sharing.note, Sharing.enter, Happening.isStored] using counted
  · intro offered returned member
    have earlier : .completed offered returned ∈ sharing.history := by
      simpa [Sharing.note, Sharing.enter] using member
    exact sound.returned offered returned earlier

theorem publish (sound : Sound sharing) (thread : CallerId) :
    Sound (sharing.publish thread) := by
  obtain same | ⟨offered, stored, completing, step⟩ :=
    sharing.publish_cases thread
  · rw [same]
    exact sound
  rw [step]
  obtain ⟨holder, same, filled⟩ :=
    sound.completing thread offered stored completing
  have settled : Sound ((sharing.settle thread .established).enter thread
      .free) := by
    apply sound.settle holder
    · simp
    · simp
    · simp [filled]
    · intro other offered stored alike
      have member := (sound.completing other offered stored alike).1
      simpa [sound.permits_eq holder] using member
    · simp
  apply settled.note rfl
  intro given returned equal
  obtain ⟨rfl, rfl⟩ := Happening.completed.inj equal
  exact same

theorem drop (sound : Sound sharing) (thread : CallerId) :
    Sound (sharing.drop thread) := by
  obtain same | ⟨free, holder, step⟩ := sharing.drop_cases thread
  · rw [same]
    exact sound
  have stays : sharing.settle thread .idle =
      (sharing.settle thread .idle).enter thread .free := by
    simp only [Sharing.enter, Sharing.settle, Sharing.mk.injEq, true_and,
      and_true]
    funext other
    by_cases same : other = thread <;> simp [same, free]
  rw [step, stays]
  apply sound.settle holder
  · simp
  · intro _
    obtain empty | ⟨offered, stored, completing⟩ := sound.fresh thread holder
    · exact empty
    · simp [free] at completing
  · simp
  · intro other offered stored completing
    have member := (sound.completing other offered stored completing).1
    simpa [sound.permits_eq holder] using member
  · simp

theorem awake_of_phase (sound : Sound sharing) {thread : CallerId}
    (phase : sharing.phase thread ≠ .asleep) :
    thread ∉ sharing.reference.sleepers := by
  intro member
  exact phase (sound.asleep thread member).1

theorem wait (sound : Sound sharing) (thread : CallerId) :
    Sound (sharing.wait thread) := by
  unfold Sharing.wait
  split
  · rename_i free
    exact sound.enter (sound.awake_of_phase (by simp [free]))
      (by simp [free]) (by simp)
  · exact sound

theorem check (sound : Sound sharing) (thread : CallerId) :
    Sound (sharing.check thread) := by
  obtain same | ⟨awaiting, ⟨connecting, step⟩ | step⟩ :=
    sharing.check_cases thread
  · rw [same]
    exact sound
  · rw [step]
    have moved : Sound (sharing.enter thread .asleep) :=
      sound.enter (sound.awake_of_phase (by simp [awaiting]))
        (by simp [awaiting]) (by simp)
    refine { moved with asleep := ?_ }
    intro other member
    rcases List.mem_cons.mp member with same | earlier
    · simp [Sharing.enter, same, connecting]
    · exact moved.asleep other earlier
  · rw [step]
    exact sound.enter (sound.awake_of_phase (by simp [awaiting]))
      (by simp [awaiting]) (by simp)

theorem wake (sound : Sound sharing) (thread : CallerId) :
    Sound (sharing.wake thread) := by
  unfold Sharing.wake
  split
  · rename_i asleep
    by_cases sleeping : thread ∈ sharing.reference.sleepers
    · simpa only [sleeping, if_true] using sound
    · simp only [sleeping, if_false]
      exact sound.enter sleeping (by simp [asleep]) (by simp)
  · exact sound

theorem reread (sound : Sound sharing) (thread : CallerId) :
    Sound (sharing.reread thread) := by
  unfold Sharing.reread
  split
  · rename_i rereading
    have moved : Sound (sharing.enter thread .free) :=
      sound.enter (sound.awake_of_phase (by simp [rereading]))
        (by simp [rereading]) (by simp)
    exact moved.note rfl (by simp)
  · exact sound

theorem step (sound : Sound sharing) (action : Action Λ) :
    Sound (sharing.step action) := by
  cases action with
  | claim thread => exact sound.claim thread
  | store thread link => exact sound.store thread link
  | publish thread => exact sound.publish thread
  | drop thread => exact sound.drop thread
  | wait thread => exact sound.wait thread
  | check thread => exact sound.check thread
  | wake thread => exact sound.wake thread
  | reread thread => exact sound.reread thread
  | look thread => exact sound

theorem run (sound : Sound sharing) (actions : List (Action Λ)) :
    Sound (sharing.run actions) := by
  induction actions generalizing sharing with
  | nil => exact sound
  | cons action actions induction => exact induction (sound.step action)

/-! ## What follows -/

/-- A reference that has been established never changes again. -/
theorem reference_step (sound : Sound sharing)
    (established : sharing.reference.state = .established)
    (action : Action Λ) :
    (sharing.step action).reference = sharing.reference := by
  have nobody : sharing.permits = [] :=
    sound.permits_eq_nil (by simp [established])
  cases action with
  | claim thread =>
      obtain same | ⟨-, idle, -⟩ := sharing.claim_cases thread
      · exact congrArg Sharing.reference same
      · simp [established] at idle
  | store thread link =>
      obtain same | ⟨-, holder, -⟩ := sharing.store_cases thread link
      · exact congrArg Sharing.reference same
      · simp [nobody] at holder
  | publish thread =>
      obtain same | ⟨offered, stored, completing, -⟩ :=
        sharing.publish_cases thread
      · exact congrArg Sharing.reference same
      · have holder := (sound.completing thread offered stored completing).1
        simp [nobody] at holder
  | drop thread =>
      obtain same | ⟨-, holder, -⟩ := sharing.drop_cases thread
      · exact congrArg Sharing.reference same
      · simp [nobody] at holder
  | wait thread =>
      simp only [Sharing.step, Sharing.wait]
      split <;> rfl
  | check thread =>
      obtain same | ⟨-, ⟨connecting, -⟩ | step⟩ := sharing.check_cases thread
      · exact congrArg Sharing.reference same
      · simp [established] at connecting
      · rw [Sharing.step, step]
        rfl
  | wake thread =>
      simp only [Sharing.step, Sharing.wake]
      split
      · split <;> rfl
      · rfl
  | reread thread =>
      simp only [Sharing.step, Sharing.reread]
      split <;> rfl
  | look thread => rfl

theorem reference_run (sound : Sound sharing)
    (established : sharing.reference.state = .established)
    (actions : List (Action Λ)) :
    (sharing.run actions).reference = sharing.reference := by
  induction actions generalizing sharing with
  | nil => rfl
  | cons action actions induction =>
      have same := sound.reference_step established action
      have later := induction (sound.step action) (same ▸ established)
      exact later.trans same

theorem connecting_iff (sound : Sound sharing) :
    sharing.reference.state = .connecting ↔
      ∃ holder, sharing.permits = [holder] := by
  constructor
  · intro connecting
    obtain ⟨holder, member⟩ :=
      List.exists_mem_of_ne_nil _ (sound.connecting.mp connecting)
    exact ⟨holder, sound.permits_eq member⟩
  · rintro ⟨holder, held⟩
    exact sound.connecting.mpr (by simp [held])

end Sound

/-! ## Threads that do not wait for themselves -/

/-- In a run, a thread never begins to wait while it has a permit. -/
def WaitsApart (thread : CallerId) (sharing : Sharing Λ) :
    List (Action Λ) → Prop
  | [] => True
  | action :: actions =>
      (action = .wait thread → thread ∉ sharing.permits) ∧
        WaitsApart thread (sharing.step action) actions

/-- A thread has no permit while it waits. -/
def Apart (thread : CallerId) (sharing : Sharing Λ) : Prop :=
  thread ∈ sharing.permits → sharing.phase thread = .free ∨
    ∃ offered stored, sharing.phase thread = .completing offered stored

namespace Apart

variable {sharing : Sharing Λ} {thread : CallerId}

theorem enter (apart : Apart thread sharing) {other : CallerId}
    {phase : Phase Λ} (free : other = thread → thread ∉ sharing.permits) :
    Apart thread (sharing.enter other phase) := by
  intro member
  by_cases same : other = thread
  · exact (free same member).elim
  · have different : thread ≠ other := fun equal => same equal.symm
    simpa [Sharing.enter, different] using apart member

theorem free (apart : Apart thread sharing) {other : CallerId}
    (idle : sharing.phase other ≠ .free)
    (waiting : ∀ offered stored,
      sharing.phase other ≠ .completing offered stored)
    (same : other = thread) : thread ∉ sharing.permits := by
  intro member
  subst same
  obtain free | ⟨offered, stored, completing⟩ := apart member
  · exact idle free
  · exact waiting offered stored completing

theorem step (apart : Apart thread sharing) {action : Action Λ}
    (careful : action = .wait thread → thread ∉ sharing.permits) :
    Apart thread (sharing.step action) := by
  cases action with
  | claim other =>
      obtain same | ⟨free, -, step⟩ := sharing.claim_cases other
      · rw [Sharing.step, same]
        exact apart
      · rw [Sharing.step, step]
        intro member
        rcases List.mem_cons.mp member with equal | earlier
        · exact .inl (equal ▸ free)
        · exact apart earlier
  | store other link =>
      obtain same | ⟨-, -, step⟩ := sharing.store_cases other link
      · rw [Sharing.step, same]
        exact apart
      · rw [Sharing.step, step]
        intro member
        by_cases equal : thread = other
        · simp [Sharing.note, Sharing.enter, equal]
        · simpa [Sharing.note, Sharing.enter, equal] using apart member
  | publish other =>
      obtain same | ⟨offered, stored, -, step⟩ := sharing.publish_cases other
      · rw [Sharing.step, same]
        exact apart
      · rw [Sharing.step, step]
        intro member
        by_cases equal : thread = other
        · simp [Sharing.note, Sharing.enter, equal]
        · simpa [Sharing.note, Sharing.enter, Sharing.settle, equal] using
            apart (List.mem_of_mem_erase member)
  | drop other =>
      obtain same | ⟨-, -, step⟩ := sharing.drop_cases other
      · rw [Sharing.step, same]
        exact apart
      · rw [Sharing.step, step]
        intro member
        exact apart (List.mem_of_mem_erase member)
  | wait other =>
      simp only [Sharing.step, Sharing.wait]
      split
      · apply apart.enter
        rintro rfl
        exact careful rfl
      · exact apart
  | check other =>
      obtain same | ⟨awaiting, ⟨-, step⟩ | step⟩ := sharing.check_cases other
      · rw [Sharing.step, same]
        exact apart
      · rw [Sharing.step, step]
        have moved : Apart thread (sharing.enter other .asleep) :=
          apart.enter (apart.free (by simp [awaiting]) (by simp [awaiting]))
        exact moved
      · rw [Sharing.step, step]
        exact apart.enter
          (apart.free (by simp [awaiting]) (by simp [awaiting]))
  | wake other =>
      simp only [Sharing.step, Sharing.wake]
      split
      · rename_i asleep
        split
        · exact apart
        · exact apart.enter (apart.free (by simp [asleep]) (by simp [asleep]))
      · exact apart
  | reread other =>
      simp only [Sharing.step, Sharing.reread]
      split
      · rename_i rereading
        have moved : Apart thread (sharing.enter other .free) :=
          apart.enter (apart.free (by simp [rereading]) (by simp [rereading]))
        exact moved
      · exact apart
  | look other => exact apart

theorem run (apart : Apart thread sharing) {actions : List (Action Λ)}
    (careful : WaitsApart thread sharing actions) :
    Apart thread (sharing.run actions) := by
  induction actions generalizing sharing with
  | nil => exact apart
  | cons action actions induction =>
      exact induction (apart.step careful.1) careful.2

end Apart

end RemoteMessaging.Sharing
