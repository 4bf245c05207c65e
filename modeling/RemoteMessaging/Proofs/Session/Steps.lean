import RemoteMessaging.Proofs.Calls.Changes
import RemoteMessaging.Proofs.Session.Dialling

/-!
# What a step does

A step of a transport in use leaves everything as it is, or it is one of a few
kinds.  To callers and cache it is a step of theirs, so what holds in every run of
callers holds here, too.
-/

namespace RemoteMessaging.Session

variable {σ η : Type}

theorem runHook_eq (session : Session σ η) (handle : Handle) :
    session.runHook handle =
      { session with calls := (session.runHook handle).calls } := by
  unfold runHook
  split <;> rfl

/-- What a session may be after a step. -/
inductive Steps (os : OperatingSystem σ) (names : NameService)
    (session : Session σ η) : Session σ η → Prop where
  | idle : Steps os names session session
  | opened (address : Address) : Steps os names session
      (session.call (.call address session.transport.config.retry true))
  | turned (id : CallerId) : Steps os names session (session.call (.turn id))
  | dialled {id : CallerId} {caller : Caller Link} {reference : ReferenceId}
      (found : session.calls.callers[id]? = some caller)
      (phase : caller.phase = .connecting reference) :
      Steps os names session (session.connect os names id caller.address)
  | resumed (id : CallerId) :
      Steps os names session (session.call (.resumed id))
  | judged {id : CallerId} {caller : Caller Link} {link : Issued Link}
      (found : session.calls.callers[id]? = some caller)
      (phase : caller.phase = .judging link) :
      Steps os names session
        (session.call (.judged id (session.isActive link)))
  | handed {id : CallerId} {outcome : Except Error (Issued Link)}
      (handed : Transport.outcome session.transport.closed
        (session.calls.callers[id]?.bind Caller.result?) = some outcome) :
      Steps os names session
        { session with returned := session.returned ++ [(id, outcome)] }
  | looked (address : Address) :
      Steps os names session (session.call (.get address))
  | spawned {link : Issued Link} (stored : session.calls.Established link)
      (kind : Task.Kind) (informed : Bool) :
      Steps os names session (session.spawn link.link.handle kind informed)
  | ended {position : Nat} {task : Task}
      (found : session.tasks[position]? = some task)
      (waits : task.phase = .waiting) :
      Steps os names session (session.moveTask position task (.ended false))
  | marked {position : Nat} {task : Task} {phase : Task.Phase}
      (found : session.tasks[position]? = some task)
      (waits : task.phase = .waiting)
      (marks : Task.marked { task with phase := phase } = true)
      (hooks : task.handle ∉ session.transport.inactive → phase = .hooking) :
      Steps os names session
        ((session.mark task.handle).moveTask position task phase)
  | hooked {position : Nat} {task : Task}
      (found : session.tasks[position]? = some task)
      (hooks : task.phase = .hooking) :
      Steps os names session
        ((session.runHook task.handle).moveTask position task (.ended true))
  | closed : Steps os names session (session.close os)

theorem steps_finish {os : OperatingSystem σ} {names : NameService}
    (session : Session σ η) (position : Nat) (cause : Task.Cause) :
    Steps os names session (session.finish position cause) := by
  unfold finish
  split
  · exact .idle
  · rename_i task found
    split
    · rename_i ready
      split
      · exact .idle
      · exact .ended found ready.1
      · refine .marked found ready.1 ?_ ?_
        · split <;> simp [Task.marked]
        · exact fun fresh => if_neg fresh
    · exact .idle

theorem steps_step (os : OperatingSystem σ) (names : NameService)
    (session : Session σ η) (action : Action) :
    Steps os names session (session.step os names action) := by
  cases action with
  | openLink address =>
      simp only [step, openLink]
      split
      · exact .idle
      · exact .opened address
  | turn id => exact .turned id
  | dial id =>
      simp only [step, dialOn]
      split
      · rename_i caller found
        split
        · rename_i reference phase
          exact .dialled found phase
        · exact .idle
      · exact .idle
  | resume id => exact .resumed id
  | judge id =>
      simp only [step, judge]
      split
      · rename_i link standing
        obtain ⟨caller, found, phase⟩ := Option.map_eq_some_iff.mp standing
        exact .judged found phase
      · exact .idle
  | handOut id =>
      simp only [step, handOut]
      split
      · rename_i outcome handed
        exact .handed handed
      · exact .idle
  | get address => exact .looked address
  | write link =>
      simp only [step, write]
      split
      · rename_i ready
        obtain ⟨reference, member, has⟩ := List.any_eq_true.mp ready.1
        obtain ⟨id, found⟩ := List.mem_iff_getElem?.mp member
        have stored : session.calls.Established link :=
          ⟨id, by simpa [LinkCache.reference, found] using has⟩
        exact .spawned stored .message false
      · exact .idle
  | finish position cause => exact steps_finish session position cause
  | hook position =>
      simp only [step, hook]
      split
      · exact .idle
      · rename_i task found
        split
        · rename_i hooks
          exact .hooked found hooks
        · exact .idle
  | close => exact .closed

theorem calls_connect (os : OperatingSystem σ) (names : NameService)
    (session : Session σ η) (id : CallerId) (address : Address) :
    (session.connect os names id address).calls = session.calls ∨
      ∃ attempt, (session.connect os names id address).calls =
        session.calls.step (.connected id attempt) := by
  have settles : ∀ {next : Session σ η} (attempt : Attempt Link),
      next.calls = session.calls → (next.settle id attempt).calls =
        session.calls.step (.connected id attempt) := by
    intro next attempt same
    rw [← same]
    rfl
  have attempts := session.attempts_connect os names id address
  generalize session.connect os names id address = next at attempts ⊢
  cases attempts with
  | failed resources error made => exact .inr ⟨_, settles _ rfl⟩
  | connected stage =>
      refine .inr ⟨_, settles _ ?_⟩
      rw [calls_keep]
      split <;> rfl
  | _ => exact .inl rfl

/-- One leaves callers and cache to the other as they are, or after a step of
theirs. -/
def Follows (session next : Session σ η) : Prop :=
  next.calls = session.calls ∨
    ∃ action, next.calls = session.calls.step action

namespace Follows

variable {session next : Session σ η}

theorem call (session : Session σ η) (action : Calls.Action Link) :
    Follows session (session.call action) :=
  .inr ⟨action, rfl⟩

theorem runHook (session : Session σ η) (handle : Handle) :
    Follows session (session.runHook handle) := by
  unfold Session.runHook
  split
  · exact call session _
  · exact .inl rfl

theorem connect (os : OperatingSystem σ) (names : NameService)
    (session : Session σ η) (id : CallerId) (address : Address) :
    Follows session (session.connect os names id address) := by
  obtain same | ⟨attempt, stepped⟩ := session.calls_connect os names id address
  · exact .inl same
  · exact .inr ⟨.connected id attempt, stepped⟩

theorem close (os : OperatingSystem σ) (session : Session σ η) :
    Follows session (session.close os) := by
  unfold Session.close
  split
  · exact .inl rfl
  · exact .inl rfl
  · exact .inl rfl
  · exact .inl rfl
  · exact runHook session _
  · exact .inr ⟨.clear, rfl⟩
  · exact .inl rfl
  · exact .inl rfl
  · exact .inl rfl

theorem of_steps {os : OperatingSystem σ} {names : NameService}
    (steps : Steps os names session next) : Follows session next := by
  cases steps with
  | idle => exact .inl rfl
  | opened address => exact call session _
  | turned id => exact call session _
  | dialled found phase => exact connect os names session _ _
  | resumed id => exact call session _
  | judged found phase => exact call session _
  | handed handed => exact .inl rfl
  | looked address => exact call session _
  | spawned stored kind informed => exact .inl rfl
  | ended found waits => exact .inl rfl
  | marked found waits marks hooks => exact .inl rfl
  | hooked found hooks => exact runHook session _
  | closed => exact close os session

end Follows

end RemoteMessaging.Session
