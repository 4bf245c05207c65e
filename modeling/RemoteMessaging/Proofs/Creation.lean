import RemoteMessaging.Manager.Creation
import RemoteMessaging.Os.Network
import RemoteMessaging.Proofs.Identifier
import RemoteMessaging.Proofs.Reception.Steps

/-!
# Errors that a new manager hears of

The accept loop of a transport runs before the error handler is installed.  What goes
wrong until then nobody hears of; from then on there is always a handler that hears of
everything.
-/

namespace RemoteMessaging

def Report.Heard {η : Type} (report : Report η) (handler : η) : Prop :=
  ∃ error, report = .handled handler error

def Report.Unheard {η : Type} (report : Report η) : Prop :=
  ∃ error, report = .unheard error

namespace Creation

variable {σ μ η : Type}

/-- Where the accept loop stands while a manager is made.  There is none before the
transport is bound.  Then it has no handler and nobody has heard of its errors, until a
handler is installed that is among those which `allowed` names. -/
def Stands (allowed : η → Prop) (creation : Creation σ μ η) : Prop :=
  match creation.phase with
  | .begun | .ended (.error _) => creation.reception = none
  | .bound _ =>
      ∃ reception, creation.reception = some reception ∧
        reception.sink.handler = none ∧ ∀ report ∈ reception.reports, report.Unheard
  | .installed _ | .ended (.ok _) =>
      ∃ reception handler, creation.reception = some reception ∧
        reception.sink.handler = some handler ∧ allowed handler

section Step

variable {os : OperatingSystem σ} {resolved : Except Error String}
  {peers : Nat → Peer} {allowed : η → Prop} {creation : Creation σ μ η}

theorem settings_step (action : Action η) :
    (step os resolved peers creation action).settings = creation.settings := by
  cases action <;> simp only [step, create, receive] <;> (repeat' split) <;> rfl

theorem Stands.create (stands : Stands allowed creation)
    (own : allowed creation.settings.errorHandler) :
    Stands allowed (creation.create os resolved) := by
  obtain ⟨settings, phase, resources, reception⟩ := creation
  cases phase with
  | begun =>
      simp only [Creation.create]
      split
      · exact stands
      · rename_i bound
        obtain ⟨host, ip, listener, workers, middle, -, -, rfl⟩ :=
          Transport.assembled_of_bind bound
        exact ⟨_, rfl, rfl, by simp [Reception.start, Reception.reports]⟩
  | bound transport =>
      obtain ⟨reception, rfl, -, -⟩ := stands
      exact ⟨_, settings.errorHandler, rfl, rfl, own⟩
  | installed transport => exact stands
  | ended outcome => exact stands

theorem handler_of_step {reception : Reception η} {action : Reception.Action η}
    {handler : η} (there : reception.sink.handler = some handler)
    (good : allowed handler)
    (installs : ∀ handler, action = .install handler → allowed handler) :
    ∃ handler, (Reception.step peers reception action).sink.handler = some handler ∧
      allowed handler := by
  rw [Reception.sink_step]
  split
  · rename_i installed
    exact ⟨installed, rfl, installs installed rfl⟩
  · exact ⟨handler, there, good⟩

theorem Stands.receive (stands : Stands allowed creation)
    {action : Reception.Action η}
    (installs : ∀ handler, action = .install handler → allowed handler) :
    Stands allowed (creation.receive peers action) := by
  unfold Creation.receive
  split
  · rename_i allows
    obtain ⟨settings, phase, resources, reception⟩ := creation
    rcases phase with _ | transport | transport | error | manager
    · have none : reception = none := stands
      simp [Stands, none]
    · obtain ⟨reception, rfl, silent, unheard⟩ := stands
      have early : ∀ handler, action ≠ .install handler := by
        rintro handler rfl
        cases allows
      have sink : (Reception.step peers reception action).sink = reception.sink := by
        rw [Reception.sink_step]
        split
        · exact absurd rfl (early _)
        · rfl
      obtain ⟨errors, reports⟩ := Reception.reports_step peers reception action
      refine ⟨_, rfl, sink ▸ silent, fun report told => ?_⟩
      rw [reports, List.mem_append, List.mem_map] at told
      rcases told with already | ⟨error, -, rfl⟩
      · exact unheard report already
      · exact ⟨error, by rw [ErrorSink.report, silent]⟩
    · obtain ⟨reception, handler, rfl, there, good⟩ := stands
      obtain ⟨later, there, good⟩ := handler_of_step there good installs
      exact ⟨_, later, rfl, there, good⟩
    · have none : reception = none := stands
      simp [Stands, none]
    · obtain ⟨reception, handler, rfl, there, good⟩ := stands
      obtain ⟨later, there, good⟩ := handler_of_step there good installs
      exact ⟨_, later, rfl, there, good⟩
  · exact stands

theorem Stands.step (stands : Stands allowed creation)
    (own : allowed creation.settings.errorHandler) {action : Action η}
    (installs : ∀ handler, action = .receive (.install handler) → allowed handler) :
    Stands allowed (step os resolved peers creation action) := by
  cases action with
  | create => exact stands.create own
  | receive action =>
      exact stands.receive fun handler is => installs handler (congrArg _ is)

theorem Stands.unheard (stands : Stands allowed creation)
    (early : creation.installed = false) :
    ∀ report ∈ creation.reports, report.Unheard := by
  obtain ⟨settings, phase, resources, reception⟩ := creation
  rcases phase with _ | transport | transport | error | manager
  · have none : reception = none := stands
    simp [reports, none]
  · obtain ⟨reception, rfl, -, unheard⟩ := stands
    exact unheard
  · cases early
  · have none : reception = none := stands
    simp [reports, none]
  · cases early

theorem installed_receive (action : Reception.Action η) :
    (creation.receive peers action).installed = creation.installed := by
  unfold Creation.receive
  split <;> rfl

theorem create_of_installed (os : OperatingSystem σ)
    (resolved : Except Error String) (late : creation.installed = true) :
    (creation.create os resolved).installed = true ∧
      (creation.create os resolved).reception = creation.reception := by
  obtain ⟨settings, phase, resources, reception⟩ := creation
  rcases phase with _ | transport | transport | error | manager
  · cases late
  · cases late
  · exact ⟨rfl, rfl⟩
  · cases late
  · exact ⟨rfl, rfl⟩

theorem Stands.handler (stands : Stands allowed creation)
    (late : creation.installed = true) :
    ∃ reception handler, creation.reception = some reception ∧
      reception.sink.handler = some handler ∧ allowed handler := by
  obtain ⟨settings, phase, resources, reception⟩ := creation
  rcases phase with _ | transport | transport | error | manager
  · cases late
  · cases late
  · exact stands
  · cases late
  · exact stands

/-- From then on somebody hears of every error. -/
theorem Stands.heard (stands : Stands allowed creation)
    (late : creation.installed = true) (os : OperatingSystem σ)
    (resolved : Except Error String) (peers : Nat → Peer) (action : Action η) :
    (Creation.step os resolved peers creation action).installed = true ∧
      ∃ errors handler, allowed handler ∧
        (Creation.step os resolved peers creation action).reports =
          creation.reports ++ List.map (Report.handled handler) errors := by
  obtain ⟨reception, handler, there, sink, good⟩ := stands.handler late
  have same {after : Creation σ μ η} (kept : after.reception = creation.reception) :
      after.reports = creation.reports ++ List.map (Report.handled handler) [] := by
    simp [reports, kept]
  cases action with
  | create =>
      obtain ⟨still, kept⟩ := create_of_installed os resolved late
      exact ⟨still, [], handler, good, same kept⟩
  | receive action =>
      refine ⟨(installed_receive action).trans late, ?_⟩
      simp only [Creation.step, Creation.receive]
      split
      · obtain ⟨errors, told⟩ := Reception.reports_step peers reception action
        refine ⟨errors, handler, good, ?_⟩
        have report : reception.sink.report = Report.handled handler := by
          funext error
          rw [ErrorSink.report, sink]
        simp [reports, there, told, report]
      · exact ⟨[], handler, good, same rfl⟩

end Step

variable {os : OperatingSystem σ} {resolved : Except Error String}
  {peers : Nat → Peer} {allowed : η → Prop} {creation : Creation σ μ η}

def Installs (actions : List (Action η)) (handler : η) : Prop :=
  .receive (.install handler) ∈ actions

theorem Stands.run (stands : Stands allowed creation)
    (own : allowed creation.settings.errorHandler) {actions : List (Action η)}
    (installs : ∀ handler, Installs actions handler → allowed handler) :
    Stands allowed (creation.run os resolved peers actions) := by
  induction actions generalizing creation with
  | nil => exact stands
  | cons action actions induction =>
      refine induction (stands.step own fun handler is => installs handler (is ▸ .head _))
        ((settings_step action).symm ▸ own) fun handler later =>
          installs handler (.tail _ later)

theorem Stands.heard_run (stands : Stands allowed creation)
    (own : allowed creation.settings.errorHandler)
    (late : creation.installed = true) {actions : List (Action η)}
    (installs : ∀ handler, Installs actions handler → allowed handler) :
    (creation.run os resolved peers actions).installed = true ∧
      ∃ later, (creation.run os resolved peers actions).reports =
          creation.reports ++ later ∧
        ∀ report ∈ later, ∃ handler, allowed handler ∧ report.Heard handler := by
  induction actions generalizing creation with
  | nil => exact ⟨late, [], by simp [Creation.run], by simp⟩
  | cons action actions induction =>
      have first : ∀ handler, action = .receive (.install handler) → allowed handler :=
        fun handler is => installs handler (is ▸ .head _)
      obtain ⟨late, errors, handler, good, told⟩ :=
        stands.heard late os resolved peers action
      obtain ⟨still, later, reports, heard⟩ := induction (stands.step own first)
        ((settings_step action).symm ▸ own) late fun handler is =>
          installs handler (.tail _ is)
      refine ⟨still, List.map (Report.handled handler) errors ++ later, ?_, ?_⟩
      · rw [← List.append_assoc, ← told]
        exact reports
      · intro report told
        rcases List.mem_append.mp told with now | after
        · obtain ⟨error, -, rfl⟩ := List.mem_map.mp now
          exact ⟨handler, good, error, rfl⟩
        · exact heard report after

/-- What becomes of a manager does not depend on who connects meanwhile. -/
def Follows (os : OperatingSystem σ) (resolved : Except Error String)
    (settings : ManagerSettings μ η) (resources : Resources σ)
    (creation : Creation σ μ η) : Prop :=
  creation.settings = settings ∧
  match creation.phase with
  | .begun => creation.resources = resources
  | .bound transport =>
      Transport.bind os settings.config resolved resources =
        (.ok transport, creation.resources)
  | .installed transport =>
      ∃ bound, Transport.bind os settings.config resolved resources =
          (.ok bound, creation.resources) ∧
        transport = bound.registerErrorHandler settings.errorHandler
  | .ended outcome =>
      Manager.create os settings resolved resources = (outcome, creation.resources)

theorem Follows.step {settings : ManagerSettings μ η} {resources : Resources σ}
    (follows : Follows os resolved settings resources creation) (action : Action η) :
    Follows os resolved settings resources
      (step os resolved peers creation action) := by
  cases action with
  | create =>
      obtain ⟨own, phase, used, reception⟩ := creation
      obtain ⟨same, follows⟩ := follows
      obtain rfl : own = settings := same
      cases phase with
      | begun =>
          obtain rfl : used = resources := follows
          simp only [Creation.step, create]
          split <;> rename_i bound
          · exact ⟨rfl, by rw [Manager.create, bound]⟩
          · exact ⟨rfl, bound⟩
      | bound transport => exact ⟨rfl, transport, follows, rfl⟩
      | installed transport =>
          obtain ⟨bound, binds, rfl⟩ := follows
          have made : Manager.create os own resolved resources =
              (.ok (own.manager (bound.registerErrorHandler own.errorHandler)), used) := by
            rw [Manager.create, binds]
          exact ⟨rfl, made⟩
      | ended outcome => exact ⟨rfl, follows⟩
  | receive action =>
      simp only [Creation.step, receive]
      split <;> exact follows

theorem Follows.run {settings : ManagerSettings μ η} {resources : Resources σ}
    (follows : Follows os resolved settings resources creation)
    (actions : List (Action η)) :
    Follows os resolved settings resources
      (creation.run os resolved peers actions) := by
  induction actions generalizing creation with
  | nil => exact follows
  | cons action actions induction => exact induction (follows.step action)

theorem run_append (first second : List (Action η)) :
    creation.run os resolved peers (first ++ second) =
      (creation.run os resolved peers first).run os resolved peers second :=
  List.foldl_append

/-- While a manager is made and afterwards, however the accept loop and the channels of
those who connect take their steps: nobody hears of what is reported before the error
handler is installed, and from then on a handler hears of everything, which is that of
the manager unless somebody installs another.  The manager is the one that is made if
nobody connects, and has its handler installed when it is there. -/
theorem hears_once_installed (os : OperatingSystem σ)
    (settings : ManagerSettings μ η) (resolved : Except Error String)
    (resources : Resources σ) (peers : Nat → Peer) (first second : List (Action η)) :
    let middle := (start settings resources).run os resolved peers first
    let last := (start settings resources).run os resolved peers (first ++ second)
    (middle.installed = false → ∀ report ∈ middle.reports, report.Unheard) ∧
      (middle.installed = true → last.installed = true ∧
        ∃ later, last.reports = middle.reports ++ later ∧
          ∀ report ∈ later, ∃ handler,
            (handler = settings.errorHandler ∨ Installs (first ++ second) handler) ∧
              report.Heard handler) ∧
      ∀ outcome, last.phase = .ended outcome →
        Manager.create os settings resolved resources = (outcome, last.resources) ∧
          (outcome.isOk → last.installed = true) := by
  intro middle last
  let allowed (handler : η) : Prop :=
    handler = settings.errorHandler ∨ Installs (first ++ second) handler
  have start : Stands allowed (start settings resources : Creation σ μ η) := rfl
  have course : Follows os resolved settings resources
      (Creation.start settings resources : Creation σ μ η) := ⟨rfl, rfl⟩
  have here : Stands allowed middle :=
    start.run (.inl rfl) fun handler is => .inr (List.mem_append_left _ is)
  have own : allowed middle.settings.errorHandler :=
    .inl (congrArg _ (course.run first).1)
  have both : last = middle.run os resolved peers second := run_append first second
  refine ⟨here.unheard, fun late => ?_, fun outcome ended => ?_⟩
  · rw [both]
    exact here.heard_run own late fun handler is => .inr (List.mem_append_right _ is)
  · obtain ⟨-, made⟩ : Follows os resolved settings resources last :=
      course.run (first ++ second)
    rw [ended] at made
    refine ⟨made, fun done => ?_⟩
    cases outcome with
    | error error => cases done
    | ok manager => rw [installed, ended]

/-- Two peers send a length that no frame has, one before the error handler is
installed and one afterwards. -/
theorem hears_once_installed_of_two :
    let remote : SocketAddress := ⟨.v4 .localhost, 60000⟩
    let peer : Peer :=
      ⟨⟨remote, .ok (), .ok (), .ok (), .ok (), .ok ⟨.v4 .localhost, 20000⟩⟩,
        ⟨[.bytes [0xff, 0, 0, 0]], .closed⟩⟩
    let settings : ManagerSettings String String :=
      ⟨"node", default, .text, "handler", .loopback⟩
    let visit (position : Nat) : List (Action String) :=
      [.receive .accept, .receive .proceed, .receive .proceed,
        .receive (.advance position), .receive (.advance position),
        .receive (.advance position)]
    let creation (actions : List (Action String)) :=
      (start settings (.start (.start false .none))).run Network.os
        (.ok "127.0.0.1") (fun _ => peer) actions
    let early := creation (.create :: visit 0)
    let last := creation (.create :: visit 0 ++ [.create] ++ (visit 1 ++ [.create]))
    early.installed = false ∧ early.reports.length = 1 ∧
      (∀ report ∈ early.reports, report.Unheard) ∧
      last.made = true ∧ ∃ later, last.reports = early.reports ++ later ∧
        later.length = 1 ∧ ∀ report ∈ later, report.Heard "handler" := by
  intro remote peer settings visit creation early last
  have general := hears_once_installed Network.os settings (.ok "127.0.0.1")
    (.start (.start false .none)) fun _ => peer
  obtain ⟨unheard, -, -⟩ := general (.create :: visit 0) []
  obtain ⟨-, heard, -⟩ :=
    general (.create :: visit 0 ++ [.create]) (visit 1 ++ [.create])
  have open' : early.installed = false := by decide +kernel
  have lengths : early.reports.length = 1 ∧ last.reports.length = 2 := by decide +kernel
  obtain ⟨-, later, reports, each⟩ := heard (by decide +kernel)
  have silent : (creation (.create :: visit 0 ++ [.create])).reports = early.reports := by
    decide +kernel
  have reports : last.reports = early.reports ++ later := silent ▸ reports
  refine ⟨open', lengths.1, unheard open', by decide +kernel, later, reports, ?_, ?_⟩
  · have := congrArg List.length reports
    rw [List.length_append, lengths.1, lengths.2] at this
    omega
  · intro report told
    obtain ⟨handler, rfl | installs, heard⟩ := each report told
    · exact heard
    · exact absurd installs (by simp [Installs, visit])

/-- A peer connects as soon as the port listens and sends a length that no frame has.
The manager is made, and its error handler is never told. -/
theorem unheard_before_installed :
    ¬ ∀ (settings : ManagerSettings String String) (resolved : Except Error String)
      (resources : Resources Network) (peers : Nat → Peer)
      (actions : List (Action String)),
      let creation := (start settings resources).run Network.os resolved peers actions
      creation.made = true →
        ∀ report ∈ creation.reports, report.Heard settings.errorHandler := by
  intro claimed
  let remote : SocketAddress := ⟨.v4 .localhost, 60000⟩
  let peer : Peer :=
    ⟨⟨remote, .ok (), .ok (), .ok (), .ok (), .ok ⟨.v4 .localhost, 20000⟩⟩,
      ⟨[.bytes [0xff, 0, 0, 0]], .closed⟩⟩
  let actions : List (Action String) :=
    [.create, .receive .accept, .receive .proceed, .receive .proceed,
      .receive (.advance 0), .receive (.advance 0), .receive (.advance 0), .create,
      .create]
  have heard := claimed ⟨"node", default, .text, "handler", .loopback⟩ (.ok "127.0.0.1")
    (.start (.start false .none)) (fun _ => peer) actions (by decide +kernel)
    (.unheard (Operation.read.channelError remote
      (Frame.tooLongIncoming 0xff000000 (64 * 1024 * 1024)))) (by decide +kernel)
  obtain ⟨error, is⟩ := heard
  cases is

end Creation

end RemoteMessaging
