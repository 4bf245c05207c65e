import RemoteMessaging.Proofs.Calls.Turn

/-!
# What holds in every run of callers

Answers from outside keep `Sound` as well, so it holds in every run.  A
connector is at work at most once for an address, and everybody gets its link.
-/

namespace RemoteMessaging.Calls

variable {Λ : Type}

namespace Sound

variable {owner : ReferenceId → Address} {calls : Calls Λ}

theorem answer (sound : Sound owner calls) (id : CallerId)
    (change : Caller Λ → Caller Λ)
    (change_cases : ∀ caller, change caller = caller ∨
      (∀ reference, caller.phase ≠ .asleep reference) ∧
        (change caller).id = caller.id ∧
        (change caller).phase.permit? = caller.phase.permit? ∧
        (caller.Fits owner calls.cache →
          (change caller).Fits owner calls.cache)) :
    Sound owner (calls.answer id change) := by
  cases found : calls.callers[id]? with
  | none => simpa [Calls.answer, found] using sound
  | some caller =>
      have moves : calls.answer id change = calls.move id (change caller) := by
        simp [Calls.answer, found, Calls.move]
      rw [moves]
      obtain same | ⟨awake, name, permit, fits⟩ := change_cases caller
      · have still : calls.move id caller = calls := by
          obtain ⟨below, rfl⟩ := List.getElem?_eq_some_iff.mp found
          simp [Calls.move]
        rw [same, still]
        exact sound
      · exact sound.move found name (fits (sound.fits id caller found)) permit
          (sound.awake found awake)

theorem connected (sound : Sound owner calls) (id : CallerId)
    (attempt : Attempt Λ) :
    Sound owner (calls.answer id (·.connected attempt)) := by
  apply sound.answer
  intro caller
  unfold Caller.connected
  split
  · rename_i reference phase
    have holds : ∀ {next : Caller.Phase Λ},
        next.permit? = some (reference, none) →
          (caller.enterPhase next).link? = none →
            (∀ other, caller.phase ≠ .asleep other) ∧
              (caller.enterPhase next).id = caller.id ∧
              (caller.enterPhase next).phase.permit? = caller.phase.permit? ∧
              (caller.Fits owner calls.cache →
                (caller.enterPhase next).Fits owner calls.cache) := by
      intro next permit link
      have permit' : next.permit? = caller.phase.permit? := by
        rw [permit]
        simp [phase, Caller.Phase.permit?]
      have names := Caller.Phase.reference?_of_permit? permit
      refine ⟨by simp [phase], rfl, permit', fun fits => ⟨?_, ?_, ?_⟩⟩
      · intro other again
        obtain rfl := Option.some.inj (names.symm.trans again)
        exact fits.known reference (by simp [phase, Caller.Phase.reference?])
      · intro other content has
        exact fits.content other content (permit'.symm.trans has)
      · simp [link]
    right
    cases attempt with
    | connected link => exact holds rfl rfl
    | failed error =>
        simp only
        split
        · exact holds rfl rfl
        · exact holds rfl rfl
    | panicked => exact holds rfl rfl
  · exact .inl rfl

theorem resumed (sound : Sound owner calls) (id : CallerId) :
    Sound owner (calls.answer id (·.resumed)) := by
  apply sound.answer
  intro caller
  unfold Caller.resumed
  split
  · rename_i phase
    have leaves := caller.leaves_advance
    have free : caller.phase.permit? = none := by
      simp [phase, Caller.Phase.permit?]
    exact .inr ⟨by simp [phase], leaves.name, leaves.free.trans free.symm,
      fun _ => leaves.fits (by simp)⟩
  · exact .inl rfl

theorem judged (sound : Sound owner calls) (id : CallerId) (live : Bool) :
    Sound owner (calls.answer id (·.judged live)) := by
  apply sound.answer
  intro caller
  unfold Caller.judged
  split
  · rename_i link phase
    have free : caller.phase.permit? = none := by
      simp [phase, Caller.Phase.permit?]
    have has : caller.link? = some link := by simp [Caller.link?, phase]
    have leaves : caller.Leaves
        (if live then caller.finish (.link link)
          else caller.enterPhase (.discard link)) (some link) := by
      split
      · exact caller.leaves_enterPhase rfl
          (by simp [Caller.link?, Caller.enterPhase])
      · exact caller.leaves_enterPhase rfl
          (by simp [Caller.link?, Caller.enterPhase])
    refine .inr ⟨by simp [phase], leaves.name, leaves.free.trans free.symm, ?_⟩
    intro fits
    apply leaves.fits
    rintro _ ⟨⟩
    exact fits.link link has
  · exact .inl rfl

theorem step (sound : Sound owner calls) (action : Action Λ) :
    ∃ after, Sound after (calls.step action) := by
  cases action with
  | call address policy live => exact ⟨owner, sound.call address policy live⟩
  | turn id => exact sound.turn id
  | connected id attempt => exact ⟨owner, sound.connected id attempt⟩
  | resumed id => exact ⟨owner, sound.resumed id⟩
  | judged id live => exact ⟨owner, sound.judged id live⟩
  | get address => exact ⟨owner, sound.look address⟩
  | evict address link => exact ⟨owner, sound.evictIf address _⟩
  | evictIf address condition => exact ⟨owner, sound.evictIf address condition⟩
  | clear => exact ⟨owner, sound.clear⟩

theorem run (sound : Sound owner calls) (actions : List (Action Λ)) :
    ∃ after, Sound after (calls.run actions) := by
  induction actions generalizing owner calls with
  | nil => exact ⟨owner, sound⟩
  | cons action actions induction =>
      obtain ⟨after, next⟩ := sound.step action
      exact induction next

/-- Two callers for whom a connector is at work on one address are the same. -/
theorem sole_of_connecting (sound : Sound owner calls)
    (whole : .cleared ∉ calls.history) {id other : CallerId}
    {caller caller' : Caller Λ} (found : calls.callers[id]? = some caller)
    (found' : calls.callers[other]? = some caller')
    {reference reference' : ReferenceId}
    (phase : caller.phase = .connecting reference)
    (phase' : caller'.phase = .connecting reference')
    (same : caller.address = caller'.address) : id = other := by
  have entry : ∀ {id : CallerId} {caller reference},
      calls.callers[id]? = some caller →
        caller.phase = .connecting reference →
          calls.cache.find? caller.address = some reference ∧
            (reference, id) ∈ calls.permits := by
    intro id caller reference found phase
    have permit : caller.phase.permit? = some (reference, none) := by
      simp [phase, Caller.Phase.permit?]
    have fits := sound.fits id caller found
    obtain ⟨below, owned⟩ :=
      fits.known reference (Caller.Phase.reference?_of_permit? permit)
    have current := (sound.tracked whole).current reference below
      (fits.content reference none permit)
    exact ⟨owned ▸ current,
      (sound.held reference id).mpr ⟨caller, none, found, permit⟩⟩
  obtain ⟨first, holds⟩ := entry found phase
  obtain ⟨second, holds'⟩ := entry found' phase'
  rw [← same] at second
  obtain rfl := Option.some.inj (first.symm.trans second)
  exact sound.sole reference id other holds holds'

/-- As long as its entry has never been evicted, an address has one link. -/
theorem link_eq (sound : Sound owner calls)
    (whole : .cleared ∉ calls.history) {first second : Caller Λ}
    (member : first ∈ calls.callers) (member' : second ∈ calls.callers)
    (same : first.address = second.address)
    (kept : .evicted first.address ∉ calls.history) {link link' : Issued Λ}
    (has : first.link? = some link) (has' : second.link? = some link') :
    link = link' := by
  have entry : ∀ {caller : Caller Λ} {link}, caller ∈ calls.callers →
      caller.address = first.address → caller.link? = some link →
        calls.cache.get? first.address = some link := by
    intro caller link member same has
    obtain ⟨id, found⟩ := List.mem_iff_getElem?.mp member
    obtain ⟨reference, below, owned, stored⟩ :=
      (sound.fits id caller found).link link has
    rw [same] at owned
    obtain current | evicted := (sound.tracked whole).kept reference below
    · rw [owned] at current
      exact LinkCache.get?_eq_some_iff.mpr ⟨reference, current, stored⟩
    · rw [owned] at evicted
      exact (kept evicted).elim
  have left := entry member rfl has
  have right := entry member' same.symm has'
  exact Option.some.inj (left.symm.trans right)

end Sound

theorem sound_run (actions : List (Action Λ)) :
    ∃ owner, Sound owner ((start : Calls Λ).run actions) :=
  (sound_start fun _ => ⟨"", 0⟩).run actions

theorem cleared_of_step {calls : Calls Λ} {action : Action Λ}
    (cleared : .cleared ∈ (calls.step action).history) :
    .cleared ∈ calls.history ∨ action = .clear := by
  cases action with
  | clear => exact .inr rfl
  | turn id =>
      left
      simp only [step, Calls.turn] at cleared
      split at cleared
      · exact cleared
      · rename_i caller found
        split at cleared
        · rcases List.mem_append.mp cleared with earlier | now
          · exact earlier
          · unfold Caller.happenings at now
            split at now <;> try split at now
            all_goals simp at now
        · exact cleared
  | connected id attempt =>
      left
      simp only [step, Calls.answer] at cleared
      split at cleared <;> exact cleared
  | resumed id =>
      left
      simp only [step, Calls.answer] at cleared
      split at cleared <;> exact cleared
  | judged id live =>
      left
      simp only [step, Calls.answer] at cleared
      split at cleared <;> exact cleared
  | _ => left; simpa [step, Calls.call, Calls.evictIf] using cleared

theorem not_cleared_run {calls : Calls Λ} {actions : List (Action Λ)}
    (whole : .cleared ∉ calls.history) (never : .clear ∉ actions) :
    .cleared ∉ (calls.run actions).history := by
  induction actions generalizing calls with
  | nil => exact whole
  | cons action actions induction =>
      apply induction
      · intro cleared
        obtain earlier | now := cleared_of_step cleared
        · exact whole earlier
        · exact never (now ▸ List.mem_cons_self)
      · intro member
        exact never (List.mem_cons_of_mem action member)

private theorem length_filter_le_one {α : Type} {list : List α}
    {condition : α → Bool}
    (sole : ∀ first second : Nat, ∀ left right, list[first]? = some left →
      list[second]? = some right → condition left → condition right →
        first = second) :
    (list.filter condition).length ≤ 1 := by
  induction list with
  | nil => simp
  | cons head tail induction =>
      have tail_sole := induction fun first second left right at' at'' holds
          holds' => Nat.succ.inj <|
        sole (first + 1) (second + 1) left right (by simpa using at')
          (by simpa using at'') holds holds'
      by_cases holds : condition head = true
      · have others : tail.filter condition = [] := by
          apply List.filter_eq_nil_iff.mpr
          intro other member holds'
          obtain ⟨position, at'⟩ := List.mem_iff_getElem?.mp member
          have equal := sole 0 (position + 1) head other (by simp)
            (by simpa using at') holds holds'
          simp at equal
        simp [holds, others]
      · simpa [holds] using tail_sole

private theorem eq_connecting_of_matches {phase : Caller.Phase Λ}
    (connecting : (phase matches .connecting _) = true) :
    ∃ reference, phase = .connecting reference := by
  cases phase with
  | connecting reference => exact ⟨reference, rfl⟩
  | _ => simp at connecting

/-- However the steps of callers and of those who evict are interleaved, as long
as the cache is not cleared: at most one connector is at work on an address; an
address has a cached link exactly if more links have been stored for it than
evicted, and then it is one more; and unless an entry of the address has been
evicted, all who got a link to it got the same. -/
theorem connects_once (actions : List (Action Λ)) (never : .clear ∉ actions)
    (address : Address) :
    let calls := start.run actions
    (calls.connecting address).length ≤ 1 ∧
      calls.history.countP (Happening.stores address) =
        calls.history.countP (Happening.evicts address) +
          (if (calls.cache.get? address).isSome then 1 else 0) ∧
      (.evicted address ∉ calls.history →
        ∀ first ∈ calls.callers, ∀ second ∈ calls.callers,
          first.address = address → second.address = address →
            ∀ link link', first.phase = .finished (.link link) →
              second.phase = .finished (.link link') → link = link') := by
  intro calls
  obtain ⟨owner, sound⟩ := sound_run actions
  have whole : .cleared ∉ calls.history :=
    not_cleared_run (by simp [start]) never
  refine ⟨?_, ?_, ?_⟩
  · apply length_filter_le_one
    intro first second left right found found' holds holds'
    obtain ⟨at', phase⟩ := of_decide_eq_true holds
    obtain ⟨at'', phase'⟩ := of_decide_eq_true holds'
    obtain ⟨reference, connecting⟩ := eq_connecting_of_matches phase
    obtain ⟨reference', connecting'⟩ := eq_connecting_of_matches phase'
    exact sound.sole_of_connecting whole found found' connecting connecting'
      (at'.trans at''.symm)
  · have counted := (sound.tracked whole).counted address
    cases get : calls.cache.get? address <;> simpa [calls, get] using counted
  · rintro kept first member second member' at' at'' link link' phase phase'
    apply sound.link_eq whole member member' (at'.trans at''.symm) (at' ▸ kept)
    · simp [Caller.link?, phase]
    · simp [Caller.link?, phase']

/-- Two callers, the second of whom waits while the first connects: both get the
link, and nobody else is connecting then. -/
theorem connects_once_of_two :
    let address : Address := ⟨"peer", 9000⟩
    let actions : List (Action String) :=
      [.call address default false, .call address default true] ++
        List.replicate 4 (.turn 0) ++ List.replicate 5 (.turn 1) ++
        [.connected 0 (.connected "link"), .turn 0, .turn 0] ++
        List.replicate 3 (.turn 1) ++ [.judged 1 true]
    let calls := start.run actions
    calls.callers.map Caller.result? =
        [some (.link ⟨0, "link"⟩), some (.link ⟨0, "link"⟩)] ∧
      (calls.connecting address).length ≤ 1 ∧
      calls.history.countP (Happening.stores address) =
        calls.history.countP (Happening.evicts address) +
          (if (calls.cache.get? address).isSome then 1 else 0) :=  by
  intro address actions calls
  have never : .clear ∉ actions := by simp [actions]
  obtain ⟨sole, counted, -⟩ := connects_once actions never address
  exact ⟨by decide, sole, counted⟩

end RemoteMessaging.Calls
