import RemoteMessaging.Binder
import RemoteMessaging.Os.Network

/-!
# Finding a port to listen on

A binder that may choose tries the candidates of its allocator in order, up to the
first attempt that ends otherwise than with an address in use.  An attempt that
fails leaves no socket behind.
-/

namespace RemoteMessaging

variable {σ α : Type}

namespace Resources

variable {resources after : Resources σ}

theorem sockets_of_call {request : SystemCall σ α} {outcome : Except IoError α}
    (asked : resources.call request = (outcome, after)) :
    after.sockets = resources.sockets := by
  obtain ⟨-, rfl⟩ := Prod.mk.inj asked
  rfl

theorem sockets_of_create_error {os : OperatingSystem σ} {error : IoError}
    (failed : resources.create os = (.error error, after)) :
    after.sockets = resources.sockets := by
  simp only [create] at failed
  split at failed
  · rename_i asked
    obtain ⟨-, rfl⟩ := Prod.mk.inj failed
    exact sockets_of_call asked
  · simp at failed

theorem sockets_of_create {os : OperatingSystem σ} {handle : Handle}
    (made : resources.create os = (.ok handle, after)) :
    after.sockets = handle :: resources.sockets := by
  simp only [create] at made
  split at made
  · simp at made
  · rename_i asked
    obtain ⟨equal, rfl⟩ := Prod.mk.inj made
    obtain rfl := Except.ok.inj equal
    rw [← sockets_of_call asked]

theorem sockets_of_prepare {os : OperatingSystem σ} {handle : Handle}
    {requests : List (SystemCall σ Unit)} {outcome : Except IoError Unit}
    (prepared : resources.prepare os handle requests = (outcome, after)) :
    outcome = .ok () ∧ after.sockets = resources.sockets ∨
      (∃ error, outcome = .error error) ∧
        after.sockets = resources.sockets.filter (· ≠ handle) := by
  induction requests generalizing resources with
  | nil =>
      obtain ⟨rfl, rfl⟩ := Prod.mk.inj prepared
      exact .inl ⟨rfl, rfl⟩
  | cons request requests induction =>
      cases asked : resources.call request with
      | mk answer middle =>
          have same := sockets_of_call asked
          rw [prepare, asked] at prepared
          cases answer with
          | ok _ =>
              rw [← same]
              exact induction prepared
          | error error =>
              obtain ⟨rfl, rfl⟩ := Prod.mk.inj prepared
              exact .inr ⟨⟨error, rfl⟩, same ▸ rfl⟩

/-- Opening a socket leaves one more socket open, or none if it fails. -/
theorem sockets_of_openSocket {os : OperatingSystem σ}
    {requests : Handle → List (SystemCall σ Unit)}
    {outcome : Except IoError (Handle × SocketAddress)}
    (opened : resources.openSocket os requests = (outcome, after)) :
    (∃ handle own, outcome = .ok (handle, own) ∧
        after.sockets = handle :: resources.sockets) ∨
      (∃ error, outcome = .error error) ∧
        after.sockets ⊆ resources.sockets := by
  have gone : ∀ {handle : Handle},
      (handle :: resources.sockets).filter (· ≠ handle) ⊆ resources.sockets := by
    intro handle other member
    obtain ⟨among, different⟩ := List.mem_filter.mp member
    rcases List.mem_cons.mp among with rfl | before
    · simp at different
    · exact before
  cases made : resources.create os with
  | mk answer middle =>
  rw [openSocket, made] at opened
  cases answer with
  | error error =>
      obtain ⟨rfl, rfl⟩ := Prod.mk.inj opened
      refine .inr ⟨⟨error, rfl⟩, ?_⟩
      rw [sockets_of_create_error made]
      exact List.Subset.refl _
  | ok handle =>
      have holds := sockets_of_create made
      cases prepared : middle.prepare os handle (requests handle) with
      | mk answer ready =>
      simp only [prepared] at opened
      obtain ⟨rfl, same⟩ | ⟨⟨error, rfl⟩, closed⟩ := sockets_of_prepare prepared
      · cases asked : ready.call (os.localAddress handle) with
        | mk answer last =>
        have same' := sockets_of_call asked
        simp only [asked] at opened
        cases answer with
        | error error =>
            obtain ⟨rfl, rfl⟩ := Prod.mk.inj opened
            refine .inr ⟨⟨error, rfl⟩, ?_⟩
            rw [close, same', same, holds]
            exact gone
        | ok own =>
            obtain ⟨rfl, rfl⟩ := Prod.mk.inj opened
            exact .inl ⟨handle, own, rfl, by rw [same', same, holds]⟩
      · obtain ⟨rfl, rfl⟩ := Prod.mk.inj opened
        refine .inr ⟨⟨error, rfl⟩, ?_⟩
        rw [closed, holds]
        exact gone

end Resources

namespace Binder

variable {binder : Binder} {os : OperatingSystem σ}
variable {resources after : Resources σ}

/-- An attempt to listen on a port, and what came of it. -/
structure Attempt where
  port : Port
  outcome : Except IoError Bound

def Attempt.Taken (attempt : Attempt) : Prop :=
  ∃ error, attempt.outcome = .error error ∧ error.isAddressInUse = true

/-- What a binder tells of an attempt that it does not pass over. -/
def Attempt.verdict (attempt : Attempt) (binder : Binder) :
    Except Error Bound :=
  attempt.outcome.mapError (Error.bind (toString binder.host) attempt.port)

/-- Attempts are made one after the other. -/
inductive Tries (binder : Binder) (os : OperatingSystem σ) :
    Resources σ → List Attempt → Resources σ → Prop where
  | done (resources : Resources σ) : Tries binder os resources [] resources
  | next {resources middle after : Resources σ} {port : Port}
      {outcome : Except IoError Bound} {attempts : List Attempt}
      (made : binder.bindPort os port resources = (outcome, middle))
      (rest : Tries binder os middle attempts after) :
      Tries binder os resources (⟨port, outcome⟩ :: attempts) after

theorem sockets_of_bindPort {port : Port} {outcome : Except IoError Bound}
    (made : binder.bindPort os port resources = (outcome, after)) :
    (∃ bound, outcome = .ok bound ∧
        after.sockets = bound.handle :: resources.sockets) ∨
      (∃ error, outcome = .error error) ∧
        after.sockets ⊆ resources.sockets := by
  cases opened : resources.listen os binder.options ⟨binder.host, port⟩ with
  | mk answer middle =>
  rw [bindPort, opened] at made
  obtain ⟨handle, own, rfl, holds⟩ | ⟨⟨error, rfl⟩, holds⟩ :=
    Resources.sockets_of_openSocket opened
  · obtain ⟨rfl, rfl⟩ := Prod.mk.inj made
    exact .inl ⟨⟨handle, own⟩, rfl, holds⟩
  · obtain ⟨rfl, rfl⟩ := Prod.mk.inj made
    exact .inr ⟨⟨error, rfl⟩, holds⟩

/-- Of the sockets of all attempts only those of successful ones stay open. -/
theorem Tries.sockets {attempts : List Attempt}
    (tries : Tries binder os resources attempts after) :
    ∀ handle ∈ after.sockets, handle ∈ resources.sockets ∨
      ∃ attempt ∈ attempts, ∃ bound, attempt.outcome = .ok bound ∧
        bound.handle = handle := by
  induction tries with
  | done => exact fun handle member => .inl member
  | @next resources middle after port outcome attempts made rest induction =>
      intro handle member
      rcases induction handle member with before | ⟨attempt, among, own⟩
      · rcases sockets_of_bindPort made with ⟨bound, ends, holds⟩ | ⟨-, holds⟩
        · rw [holds] at before
          rcases List.mem_cons.mp before with same | earlier
          · exact .inr ⟨_, List.mem_cons_self, bound, ends, same.symm⟩
          · exact .inl earlier
        · exact .inl (holds before)
      · exact .inr ⟨attempt, List.mem_cons_of_mem _ among, own⟩

/-- What a scan comes to by its attempts: every candidate is taken, or the last
attempt says it. -/
inductive Concludes (binder : Binder) (tried : Nat) (candidates : List Port) :
    List Attempt → Except Error Bound → Prop where
  | exhausted {attempts : List Attempt}
      (taken : ∀ attempt ∈ attempts, attempt.Taken)
      (all : attempts.map Attempt.port = candidates) :
      Concludes binder tried candidates attempts
        (.error (.noFreePort (toString binder.host) (tried + candidates.length)))
  | decided {attempts : List Attempt} {last : Attempt}
      (taken : ∀ attempt ∈ attempts, attempt.Taken)
      (free : ¬ last.Taken)
      (first : (attempts ++ [last]).map Attempt.port <+: candidates) :
      Concludes binder tried candidates (attempts ++ [last])
        (last.verdict binder)

theorem Concludes.cons {tried : Nat} {candidates : List Port}
    {attempts : List Attempt} {answer : Except Error Bound}
    (concludes : Concludes binder (tried + 1) candidates attempts answer)
    {attempt : Attempt} (taken : attempt.Taken) {port : Port}
    (tries : attempt.port = port) :
    Concludes binder tried (port :: candidates) (attempt :: attempts) answer := by
  subst tries
  cases concludes with
  | exhausted others all =>
      have count : tried + 1 + candidates.length =
          tried + (attempt.port :: candidates).length := by
        rw [List.length_cons]
        omega
      rw [count]
      refine .exhausted (List.forall_mem_cons.mpr ⟨taken, others⟩) ?_
      rw [List.map_cons, all]
  | @decided attempts last others free first =>
      rw [← List.cons_append]
      refine .decided (List.forall_mem_cons.mpr ⟨taken, others⟩) free ?_
      exact List.cons_prefix_cons.mpr ⟨rfl, first⟩

theorem scan_of_taken {tried : Nat} {port : Port} {candidates : List Port}
    {outcome : Except IoError Bound}
    (made : binder.bindPort os port resources = (outcome, after))
    (taken : (⟨port, outcome⟩ : Attempt).Taken) :
    binder.scan os tried (port :: candidates) resources =
      binder.scan os (tried + 1) candidates after := by
  obtain ⟨error, rfl, inUse⟩ := taken
  rw [scan, made]
  exact if_pos inUse

theorem scan_of_free {tried : Nat} {port : Port} {candidates : List Port}
    {outcome : Except IoError Bound}
    (made : binder.bindPort os port resources = (outcome, after))
    (free : ¬ (⟨port, outcome⟩ : Attempt).Taken) :
    binder.scan os tried (port :: candidates) resources =
      ((⟨port, outcome⟩ : Attempt).verdict binder, after) := by
  rw [scan, made]
  cases outcome with
  | ok bound => rfl
  | error error => exact if_neg fun inUse => free ⟨error, rfl, inUse⟩

theorem exists_tries_scan (binder : Binder) (os : OperatingSystem σ)
    (tried : Nat) (candidates : List Port) (resources : Resources σ) :
    ∃ attempts,
      Tries binder os resources attempts
        (binder.scan os tried candidates resources).2 ∧
      Concludes binder tried candidates attempts
        (binder.scan os tried candidates resources).1 := by
  induction candidates generalizing tried resources with
  | nil => exact ⟨[], .done resources, .exhausted (by simp) rfl⟩
  | cons port candidates induction =>
      cases made : binder.bindPort os port resources with
      | mk outcome middle =>
      by_cases taken : (⟨port, outcome⟩ : Attempt).Taken
      · rw [scan_of_taken made taken]
        obtain ⟨attempts, tries, concludes⟩ := induction (tried + 1) middle
        exact ⟨⟨port, outcome⟩ :: attempts, .next made tries,
          concludes.cons taken rfl⟩
      · rw [scan_of_free made taken]
        refine ⟨[] ++ [⟨port, outcome⟩], .next made (.done middle), ?_⟩
        exact .decided (by simp) taken (by simp)

theorem Tries.last {attempts : List Attempt} {last : Attempt}
    (tries : Tries binder os resources (attempts ++ [last]) after) :
    ∃ middle, binder.bindPort os last.port middle = (last.outcome, after) := by
  induction attempts generalizing resources with
  | nil =>
      cases tries with
      | next made rest =>
          cases rest
          exact ⟨_, made⟩
  | cons attempt attempts induction =>
      cases tries with
      | next made rest => exact induction rest

@[simp] theorem Attempt.verdict_ok (port : Port) (bound : Bound) :
    (⟨port, .ok bound⟩ : Attempt).verdict binder = .ok bound := rfl

@[simp] theorem Attempt.verdict_error (port : Port) (error : IoError) :
    (⟨port, .error error⟩ : Attempt).verdict binder =
      .error (.bind (toString binder.host) port error) := rfl

theorem Attempt.verdict_eq_ok_iff {attempt : Attempt} {bound : Bound} :
    attempt.verdict binder = .ok bound ↔ attempt.outcome = .ok bound := by
  obtain ⟨port, outcome⟩ := attempt
  cases outcome <;> simp

theorem Attempt.verdict_ne_noFreePort (attempt : Attempt) (host : String)
    (tried : Nat) : attempt.verdict binder ≠ .error (.noFreePort host tried) := by
  obtain ⟨port, outcome⟩ := attempt
  cases outcome <;> simp

/-- Whatever comes of the attempts of a binder, one socket at most stays open, which
is that of the listener. -/
theorem sockets_of_verdict {earlier : List Attempt} {last : Attempt}
    (tries : Tries binder os resources (earlier ++ [last]) after)
    (taken : ∀ attempt ∈ earlier, attempt.Taken) :
    (∀ handle ∈ after.sockets, handle ∈ resources.sockets ∨
      ∃ bound, last.verdict binder = .ok bound ∧ bound.handle = handle) ∧
    (∀ bound, last.verdict binder = .ok bound → bound.handle ∈ after.sockets) := by
  constructor
  · intro handle member
    refine (tries.sockets handle member).imp_right ?_
    rintro ⟨attempt, among, bound, ends, own⟩
    rcases List.mem_append.mp among with before | now
    · obtain ⟨error, fails, -⟩ := taken attempt before
      simp [fails] at ends
    · obtain rfl := List.mem_singleton.mp now
      exact ⟨bound, Attempt.verdict_eq_ok_iff.mpr ends, own⟩
  · intro bound ends
    obtain ⟨middle, made⟩ := tries.last
    rw [Attempt.verdict_eq_ok_iff] at ends
    obtain ⟨bound', ends', holds⟩ | ⟨⟨error, fails⟩, -⟩ :=
      sockets_of_bindPort made
    · obtain rfl := Except.ok.inj (ends.symm.trans ends')
      simp [holds]
    · simp [fails] at ends

/-- A binder that is asked for no port tries the candidates of its allocator in
order, as often as they occur, up to the first that is not taken.  Then it answers
with the listener or with the error of that candidate; if all of them are taken, and
only then, it answers that no port is free, with their number.  A binder that is
asked for a port makes one attempt, whatever its allocator is, and tells of every
failure as such.  No socket of a failed attempt stays open. -/
theorem listens_on_first_free (binder : Binder) (os : OperatingSystem σ)
    (requested : Port) (resources : Resources σ) :
    let candidates := binder.allocator.candidates.toList
    let answer := (binder.bind os requested resources).1
    let after := (binder.bind os requested resources).2
    ∃ attempts : List Attempt,
      Tries binder os resources attempts after ∧
      (requested = 0 →
        ((∀ attempt ∈ attempts, attempt.Taken) ∧
          attempts.map Attempt.port = candidates ∧
          answer = .error
            (.noFreePort (toString binder.host) candidates.length)) ∨
        ∃ earlier last, attempts = earlier ++ [last] ∧
          (∀ attempt ∈ earlier, attempt.Taken) ∧ ¬ last.Taken ∧
          attempts.map Attempt.port <+: candidates ∧
          answer = last.verdict binder) ∧
      ((∃ host tried, answer = .error (.noFreePort host tried)) ↔
        requested = 0 ∧ attempts.map Attempt.port = candidates ∧
          ∀ attempt ∈ attempts, attempt.Taken) ∧
      (requested ≠ 0 →
        (∃ outcome, attempts = [⟨requested, outcome⟩] ∧ answer =
          outcome.mapError (Error.bind (toString binder.host) requested)) ∧
        ∀ allocator, { binder with allocator := allocator }.bind os requested
          resources = (answer, after)) ∧
      (∀ handle ∈ after.sockets, handle ∈ resources.sockets ∨
        ∃ bound, answer = .ok bound ∧ bound.handle = handle) ∧
      (∀ bound, answer = .ok bound → bound.handle ∈ after.sockets) := by
  intro candidates answer after
  have binds : binder.bind os requested resources = (answer, after) := rfl
  clear_value answer after
  by_cases zero : requested = 0
  · have scans : binder.scan os 0 candidates resources = (answer, after) := by
      rw [← binds, bind, if_neg (not_not_intro zero)]
    obtain ⟨attempts, tries, concludes⟩ :=
      exists_tries_scan binder os 0 candidates resources
    rw [scans] at tries concludes
    refine ⟨attempts, tries, fun _ => ?_, ?_, fun other => (other zero).elim, ?_⟩
    all_goals cases concludes with
      | exhausted taken all => ?_
      | @decided earlier last taken free first => ?_
    · rw [Nat.zero_add]
      exact .inl ⟨taken, all, rfl⟩
    · exact .inr ⟨earlier, last, rfl, taken, free, first, rfl⟩
    · exact iff_of_true ⟨_, _, rfl⟩ ⟨zero, all, taken⟩
    · refine iff_of_false ?_ ?_
      · rintro ⟨host, tried, same⟩
        exact last.verdict_ne_noFreePort host tried same
      · rintro ⟨-, -, others⟩
        exact free (others last (by simp))
    · refine ⟨fun handle member => ?_, by simp⟩
      rcases tries.sockets handle member with before | ⟨attempt, among, own⟩
      · exact .inl before
      · obtain ⟨bound, ends, -⟩ := own
        obtain ⟨error, fails, -⟩ := taken attempt among
        simp [fails] at ends
    · exact sockets_of_verdict tries taken
  · cases made : binder.bindPort os requested resources with
    | mk outcome reached =>
    have alone : ∀ allocator, { binder with allocator := allocator }.bind os
        requested resources =
          ((⟨requested, outcome⟩ : Attempt).verdict binder, reached) := by
      intro allocator
      have made' : { binder with allocator := allocator }.bindPort os requested
          resources = (outcome, reached) := made
      rw [bind, if_pos zero, made']
      cases outcome <;> rfl
    obtain ⟨rfl, rfl⟩ := Prod.mk.inj (binds.symm.trans (alone binder.allocator))
    have tries : Tries binder os resources ([] ++ [⟨requested, outcome⟩]) after :=
      .next made (.done after)
    refine ⟨_, tries, fun same => (zero same).elim, iff_of_false ?_ ?_,
      fun _ => ⟨⟨outcome, rfl, rfl⟩, alone⟩, sockets_of_verdict tries (by simp)⟩
    · rintro ⟨host, tried, same⟩
      exact Attempt.verdict_ne_noFreePort _ host tried same
    · exact fun ⟨same, _⟩ => zero same

/-- Five candidates: the first cannot be bound, nor when it occurs again, and the
second cannot listen. -/
theorem listens_on_first_free_of_five :
    let faults : NetworkFaults :=
      { NetworkFaults.none with
        bind := [(20000, .eaddrinuse)]
        listen := [(20001, .eaddrinuse)] }
    let resources := Resources.start (Network.start false faults)
    let candidates : List Port := [20000, 20001, 20000, 20002, 20003]
    let binder : Binder :=
      ⟨.v4 .localhost, .list candidates, SocketOptions.default⟩
    let bound : Bound := ⟨3, ⟨.v4 .localhost, 20002⟩⟩
    let free := binder.bind Network.os 0 resources
    let fixed := binder.bind Network.os 20001 resources
    free.1 = .ok bound ∧ (∀ handle ∈ free.2.sockets, handle = 3) ∧
      (∃ attempts : List Attempt,
        Tries binder Network.os resources attempts free.2 ∧
        attempts.map Attempt.port <+: candidates) ∧
      fixed.1 =
        .error (.bind "127.0.0.1" 20001 (IoError.ofErrno .eaddrinuse)) ∧
      (∀ handle, handle ∉ fixed.2.sockets) := by
  intro faults resources candidates binder bound free fixed
  have found : free.1 = .ok bound := by
    have scans : free = binder.scan Network.os 0 candidates resources := by
      simp [free, bind, binder, PortAllocator.candidates]
    rw [scans]
    rfl
  have refused : fixed.1 =
      .error (.bind "127.0.0.1" 20001 (IoError.ofErrno .eaddrinuse)) := by
    rfl
  have none_before : ∀ handle, handle ∉ resources.sockets := by
    intro handle member
    simp [resources, Resources.start] at member
  obtain ⟨attempts, tries, scanned, -, -, closed, -⟩ :=
    listens_on_first_free binder Network.os 0 resources
  obtain ⟨-, -, -, -, -, closed', -⟩ :=
    listens_on_first_free binder Network.os 20001 resources
  refine ⟨found, fun handle member => ?_, ⟨attempts, tries, ?_⟩, refused,
    fun handle member => ?_⟩
  · rcases closed handle member with before | ⟨other, ends, own⟩
    · exact (none_before handle before).elim
    · obtain rfl := Except.ok.inj (found.symm.trans ends)
      exact own.symm
  · rcases scanned rfl with ⟨-, all, -⟩ | ⟨earlier, last, -, -, -, first, -⟩
    · simp [all, binder, PortAllocator.candidates]
    · simpa [binder, PortAllocator.candidates] using first
  · rcases closed' handle member with before | ⟨other, ends, -⟩
    · exact none_before handle before
    · exact nomatch refused.symm.trans ends

end Binder

end RemoteMessaging
