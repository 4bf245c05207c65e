import RemoteMessaging.Manager.Settings

/-!
# Settings with overrides

Settings with overrides have each item from the overrides, if it is set there, and
all else from the settings beneath.  So it makes no difference whether overrides are
put in one after the other or merged before, as long as what comes between is valid.
-/

namespace RemoteMessaging

theorem TransportConfig.validate_of_sound {config : TransportConfig}
    (sound : config.fault? = none) : config.validate = .ok () := by
  rw [validate, sound]

theorem TransportConfig.validate_of_fault {config : TransportConfig} {fault : Fault}
    (has : config.fault? = some fault) :
    config.validate = .error (.configuration fault.message) := by
  rw [validate, has]

theorem TransportConfig.foldl_optional {α : Type} (change : α → Change)
    (value : Option α) (config : TransportConfig) :
    (value.map change).toList.foldl TransportConfig.change config =
      value.elim config fun value => config.change (change value) := by
  cases value <;> rfl

namespace Overrides

variable {μ η : Type}
variable {overrides first later : Overrides μ η}
variable {base settings : ManagerSettings μ η}

/-- Settings have each item from the overrides, if it is set there, and all else from
the settings beneath.  A port of zero is not set. -/
structure Overlays (overrides : Overrides μ η)
    (base settings : ManagerSettings μ η) : Prop where
  name : settings.name = overrides.name.getD base.name
  codec : settings.codec = overrides.codec.getD base.codec
  errorHandler :
    settings.errorHandler = overrides.errorHandler.getD base.errorHandler
  resolver : settings.resolver = base.resolver
  hostAddress : settings.config.hostAddress =
    overrides.hostAddress.or base.config.hostAddress
  listenPort : settings.config.listenPort =
    if overrides.listenPort.getD 0 = 0 then base.config.listenPort
    else overrides.listenPort.getD 0
  orderingGuarantee : settings.config.orderingGuarantee =
    overrides.orderingGuarantee.getD base.config.orderingGuarantee
  retries : settings.config.retry.retries =
    overrides.retries.getD base.config.retry.retries
  backoff : settings.config.retry.backoff =
    overrides.retryBackoff.getD base.config.retry.backoff
  portAllocator : settings.config.portAllocator = base.config.portAllocator
  socket : settings.config.socket = base.config.socket
  pools : settings.config.pools = base.config.pools
  shutdownGrace : settings.config.shutdownGrace = base.config.shutdownGrace

/-- The configuration with the overrides put in, be it valid or not. -/
def overlayConfig (overrides : Overrides μ η) (config : TransportConfig) :
    TransportConfig :=
  { config with
    hostAddress := overrides.hostAddress.or config.hostAddress
    listenPort := overrides.port?.getD config.listenPort
    orderingGuarantee :=
      overrides.orderingGuarantee.getD config.orderingGuarantee
    retry :=
      { retries := overrides.retries.getD config.retry.retries
        backoff := overrides.retryBackoff.getD config.retry.backoff } }

def overlay (overrides : Overrides μ η) (base : ManagerSettings μ η) :
    ManagerSettings μ η where
  name := overrides.name.getD base.name
  config := overrides.overlayConfig base.config
  codec := overrides.codec.getD base.codec
  errorHandler := overrides.errorHandler.getD base.errorHandler
  resolver := base.resolver

theorem port?_getD (overrides : Overrides μ η) (port : Port) :
    overrides.port?.getD port =
      if overrides.listenPort.getD 0 = 0 then port
      else overrides.listenPort.getD 0 := by
  unfold port?
  cases overrides.listenPort with
  | none => rfl
  | some own =>
      by_cases zero : own = 0
      · simp [zero, Option.filter]
      · have above : 0 < own := UInt16.pos_iff_ne_zero.mpr zero
        simp [zero, above, Option.filter]

theorem overlays_iff :
    overrides.Overlays base settings ↔ settings = overrides.overlay base := by
  constructor
  · intro overlays
    obtain ⟨name, ⟨host, port, ⟨retries, backoff⟩, ordered, allocator, socket, pools,
      grace⟩, codec, handler, resolver⟩ := settings
    obtain ⟨rfl, rfl, rfl, rfl, rfl, same, rfl, rfl, rfl, rfl, rfl, rfl, rfl⟩ := overlays
    dsimp only at same
    rw [← port?_getD] at same
    rw [same]
    rfl
  · rintro rfl
    constructor <;> try rfl
    exact overrides.port?_getD _

theorem foldl_changes (overrides : Overrides μ η) (config : TransportConfig) :
    (overrides.changes config.retry).foldl TransportConfig.change config =
      overrides.overlayConfig config := by
  obtain ⟨name, host, port, codec, handler, ordered, retries, backoff⟩ := overrides
  simp only [changes, List.foldl_append, TransportConfig.foldl_optional]
  generalize port?_eq : port? _ = port'
  cases host <;> cases port' <;> cases ordered <;> cases retries <;> cases backoff <;>
    simp [overlayConfig, port?_eq, TransportConfig.change]

theorem apply_eq (overrides : Overrides μ η) (base : ManagerSettings μ η) :
    overrides.apply base =
      (overrides.overlay base).config.validate.map fun _ => overrides.overlay base := by
  rw [apply, TransportConfig.build, foldl_changes, overlay]
  dsimp only
  cases (overrides.overlayConfig base.config).validate <;> rfl

theorem apply_eq_ok_iff : overrides.apply base = .ok settings ↔
    settings = overrides.overlay base ∧ settings.config.validate = .ok () := by
  rw [apply_eq]
  constructor
  · intro given
    cases valid : (overrides.overlay base).config.validate with
    | error error => simp [valid, Except.map] at given
    | ok _ =>
        rw [valid] at given
        obtain rfl := Except.ok.inj given
        exact ⟨rfl, valid⟩
  · rintro ⟨rfl, valid⟩
    rw [valid]
    rfl

theorem apply_eq_error_iff {error : Error} : overrides.apply base = .error error ↔
    (overrides.overlay base).config.validate = .error error := by
  rw [apply_eq]
  cases (overrides.overlay base).config.validate <;> simp [Except.map]

/-- Overrides merged item by item: what is set later counts. -/
def followedBy (first later : Overrides μ η) : Overrides μ η where
  name := later.name.or first.name
  hostAddress := later.hostAddress.or first.hostAddress
  listenPort := later.port?.or first.listenPort
  codec := later.codec.or first.codec
  errorHandler := later.errorHandler.or first.errorHandler
  orderingGuarantee := later.orderingGuarantee.or first.orderingGuarantee
  retries := later.retries.or first.retries
  retryBackoff := later.retryBackoff.or first.retryBackoff

theorem port?_followedBy (first later : Overrides μ η) :
    (first.followedBy later).port? = later.port?.or first.port? := by
  have above : later.port?.filter (0 < ·) = later.port? := by
    rw [port?, Option.filter_filter]
    simp
  unfold port? at above
  simp only [followedBy, port?]
  cases has : later.listenPort.filter (0 < ·) with
  | none => rfl
  | some port =>
      rw [has] at above
      exact above

theorem overlay_overlay (first later : Overrides μ η) (base : ManagerSettings μ η) :
    later.overlay (first.overlay base) = (first.followedBy later).overlay base := by
  simp only [overlay, overlayConfig, port?_followedBy]
  simp [followedBy, Option.or_assoc]

theorem overlay_followedBy_self (overrides : Overrides μ η)
    (base : ManagerSettings μ η) :
    (overrides.followedBy overrides).overlay base = overrides.overlay base := by
  simp only [overlay, overlayConfig, port?_followedBy]
  simp [followedBy]

theorem overlay_none (base : ManagerSettings μ η) :
    (none : Overrides μ η).overlay base = base := rfl

/-- Overrides applied to settings, valid or not, give the settings with each item from
the overrides that is set there, and all else as it was, if these are valid; otherwise
the fault of these is told, and nothing else ever is.  So applying overrides again
changes nothing, no overrides change nothing of valid settings, and overrides applied
to what others have given come to the same as both merged before. -/
theorem applies_as_overlay (overrides : Overrides μ η)
    (base : ManagerSettings μ η) :
    (∀ settings, overrides.apply base = .ok settings ↔
      overrides.Overlays base settings ∧ settings.config.validate = .ok ()) ∧
    (∀ error, overrides.apply base = .error error ↔
      ∃ settings, overrides.Overlays base settings ∧
        settings.config.validate = .error error) ∧
    (∀ error, overrides.apply base = .error error →
      ∃ detail, error = .configuration detail) ∧
    ((overrides.apply base).bind overrides.apply = overrides.apply base) ∧
    ((none : Overrides μ η).apply base = .ok base ↔
      base.config.validate = .ok ()) ∧
    ∀ later settings, overrides.apply base = .ok settings →
      later.apply settings = (overrides.followedBy later).apply base := by
  have next : ∀ later settings, overrides.apply base = .ok settings →
      later.apply settings = (overrides.followedBy later).apply base := by
    intro later settings given
    obtain ⟨rfl, -⟩ := apply_eq_ok_iff.mp given
    rw [apply_eq, apply_eq, overlay_overlay]
  refine ⟨fun settings => ?_, fun error => ?_, fun error fails => ?_, ?_, ?_, next⟩
  · rw [overlays_iff]
    exact apply_eq_ok_iff
  · simp only [overlays_iff, exists_eq_left]
    exact apply_eq_error_iff
  · have told := apply_eq_error_iff.mp fails
    cases has : (overrides.overlay base).config.fault? with
    | none => cases (TransportConfig.validate_of_sound has).symm.trans told
    | some fault =>
        have same := told.symm.trans (TransportConfig.validate_of_fault has)
        exact ⟨fault.message, Except.error.inj same⟩
  · cases given : overrides.apply base with
    | error error => rfl
    | ok settings =>
        change overrides.apply settings = _
        rw [next overrides settings given, ← given, apply_eq, apply_eq,
          overlay_followedBy_self]
  · rw [apply_eq_ok_iff]
    exact and_iff_right (overlay_none base).symm

/-- Settings with a host that is no IP address, and overrides that set another; then
others for port and distance. -/
theorem applies_as_overlay_of_two :
    let config (host : String) (port : Port) (policy : RetryPolicy) : TransportConfig :=
      { TransportConfig.default with
        hostAddress := some host
        listenPort := port
        retry := policy }
    let settings (config : TransportConfig) : ManagerSettings (List UInt8) Nat :=
      ⟨"base", config, .bytes, 0, .loopback⟩
    let base := settings (config "peer" 7100 ⟨2, .ofMillis 100⟩)
    let first : Overrides (List UInt8) Nat :=
      { none with hostAddress := some "10.0.0.1", listenPort := some 0, retries := some 5 }
    let later : Overrides (List UInt8) Nat :=
      { none with listenPort := some 7200, retryBackoff := some (.ofMillis 1) }
    let middle := settings (config "10.0.0.1" 7100 ⟨5, .ofMillis 100⟩)
    let final := settings (config "10.0.0.1" 7200 ⟨5, .ofMillis 1⟩)
    (∃ detail, later.apply base = .error (.configuration detail)) ∧
      first.apply base = .ok middle ∧ later.apply middle = .ok final ∧
      (first.followedBy later).apply base = .ok final := by
  intro config settings base first later middle final
  obtain ⟨ends, -, -, -, -, next⟩ := applies_as_overlay first base
  obtain ⟨-, fails, faults, -⟩ := applies_as_overlay later base
  obtain ⟨ends', -⟩ := applies_as_overlay later middle
  have given : first.apply base = .ok middle :=
    (ends middle).mpr ⟨overlays_iff.mpr rfl,
      TransportConfig.validate_of_sound (by decide +kernel)⟩
  have given' : later.apply middle = .ok final :=
    (ends' final).mpr ⟨overlays_iff.mpr rfl,
      TransportConfig.validate_of_sound (by decide +kernel)⟩
  have fault : later.apply base = .error (.configuration
      (TransportConfig.Fault.host "peer").message) :=
    (fails _).mpr ⟨_, overlays_iff.mpr rfl,
      TransportConfig.validate_of_fault (by decide +kernel)⟩
  obtain ⟨detail, same⟩ := faults _ fault
  exact ⟨⟨detail, same ▸ fault⟩, given, given', next later middle given ▸ given'⟩

end Overrides

end RemoteMessaging
