import RemoteMessaging.Proofs.Candidates
import RemoteMessaging.Proofs.Identifier

/-!
# Ports that are chosen

A listener whose port is left to the allocator has one of the candidates as its port,
unless the candidate that was bound is zero: then the operating system has chosen.  So
all such listeners keep to their allocator exactly if zero is not among its
candidates, or all other ports are.
-/

namespace RemoteMessaging

variable {σ : Type}

/-- The operating system never comes to choose among ports that are not offered. -/
def PortAllocator.Decides (allocator : PortAllocator) : Prop :=
  allocator.Offers 0 → ∀ port, port ≠ 0 → allocator.Offers port

/-- An operating system on which all ports but one are in use.  That one is also bound
for port zero. -/
def OperatingSystem.withFree (ip : Ip) (free : Port) : OperatingSystem Unit where
  create _ _ := (.ok (), ())
  setOption _ _ _ := (.ok (), ())
  bind _ address _ :=
    if address = ⟨ip, 0⟩ ∨ address = ⟨ip, free⟩ then (.ok (), ())
    else (.error (IoError.ofErrno .eaddrinuse), ())
  listen _ _ _ := (.ok (), ())
  connect _ _ _ _ := (.error (IoError.ofErrno .econnrefused), ())
  register _ _ := (.ok (), ())
  localAddress _ _ := (.ok ⟨ip, free⟩, ())
  close _ _ := ()
  startPool _ _ _ := (.ok (), ())

namespace OperatingSystem

variable {ip : Ip} {free : Port} {options : SocketOptions} {address : SocketAddress}

theorem exists_listen_withFree (fits : address = ⟨ip, 0⟩ ∨ address = ⟨ip, free⟩)
    (resources : Resources Unit) :
    ∃ handle after, resources.listen (withFree ip free) options address =
      (.ok (handle, ⟨ip, free⟩), after) := by
  simp [Resources.listen, Resources.openSocket, Resources.create, Resources.prepare,
    Resources.call, SocketOptions.listening, withFree, fits]

theorem exists_listen_withFree_taken
    (taken : ¬ (address = ⟨ip, 0⟩ ∨ address = ⟨ip, free⟩))
    (resources : Resources Unit) :
    ∃ after, resources.listen (withFree ip free) options address =
      (.error (IoError.ofErrno .eaddrinuse), after) := by
  simp [Resources.listen, Resources.openSocket, Resources.create, Resources.prepare,
    Resources.call, SocketOptions.listening, withFree, taken]

theorem bindsAsAsked_withFree (ip : Ip) (free : Port) :
    (withFree ip free).BindsAsAsked := by
  intro options address own handle resources after opened
  by_cases fits : address = ⟨ip, 0⟩ ∨ address = ⟨ip, free⟩
  · obtain ⟨handle', after', opens⟩ := exists_listen_withFree fits resources
    rw [opens] at opened
    obtain ⟨-, rfl⟩ := Prod.mk.inj (Except.ok.inj (Prod.mk.inj opened).1)
    rcases fits with rfl | rfl
    · exact ⟨rfl, fun nonzero => (nonzero rfl).elim⟩
    · exact ⟨rfl, fun _ => rfl⟩
  · obtain ⟨after', fails⟩ := exists_listen_withFree_taken fits resources
    rw [fails] at opened
    cases opened

theorem exists_startPools_withFree (plan : List (String × UInt64))
    (started : List Pool) (resources : Resources Unit) :
    ∃ pools after, resources.startPools (withFree ip free) started plan =
      (.ok pools, after) := by
  induction plan generalizing started resources with
  | nil => exact ⟨started, resources, rfl⟩
  | cons pool plan induction => exact induction _ _

end OperatingSystem

namespace Binder

variable {binder : Binder} {os : OperatingSystem σ} {resources after : Resources σ}
variable {bound : Bound} {port free : Port}

/-- Whenever a listener is left to the allocator, its port is a candidate. -/
def Confined (binder : Binder) : Prop :=
  ∀ {σ : Type} {os : OperatingSystem σ} {resources after : Resources σ} {bound : Bound},
    os.BindsAsAsked → binder.bind os 0 resources = (.ok bound, after) →
      bound.address.port ∈ binder.allocator.candidates.toList

theorem port_of_bind (asked : os.BindsAsAsked)
    (ends : binder.bind os 0 resources = (.ok bound, after)) :
    bound.address.port ∈ binder.allocator.candidates.toList ∨
      0 ∈ binder.allocator.candidates.toList ∧
        ∃ before, binder.bindPort os 0 before = (.ok bound, after) := by
  obtain ⟨port, before, among, made⟩ := exists_bindPort ends
  rw [portsFor, if_pos rfl] at among
  by_cases zero : port = 0
  · subst zero
    exact .inr ⟨among, before, made⟩
  · obtain ⟨-, same⟩ := address_of_bindPort asked made
    rw [same zero]
    exact .inl among

theorem confined_of_decides (decides : binder.allocator.Decides) :
    binder.Confined := by
  intro σ os resources after bound asked ends
  rcases port_of_bind asked ends with among | ⟨zero, -⟩
  · exact among
  · by_cases unset : bound.address.port = 0
    · rwa [unset]
    · rw [PortAllocator.mem_candidates_iff] at zero ⊢
      exact decides zero _ unset

theorem exists_bindPort_withFree (fits : port = 0 ∨ port = free)
    (resources : Resources Unit) :
    ∃ handle after, binder.bindPort (.withFree binder.host free) port resources =
      (.ok ⟨handle, ⟨binder.host, free⟩⟩, after) := by
  have fits' : (⟨binder.host, port⟩ : SocketAddress) = ⟨binder.host, 0⟩ ∨
      (⟨binder.host, port⟩ : SocketAddress) = ⟨binder.host, free⟩ :=
    fits.imp (congrArg (SocketAddress.mk _)) (congrArg (SocketAddress.mk _))
  obtain ⟨handle, after, opens⟩ := OperatingSystem.exists_listen_withFree fits' resources
  exact ⟨handle, after, by rw [bindPort, opens]⟩

theorem exists_bindPort_withFree_taken (nonzero : port ≠ 0) (taken : port ≠ free)
    (resources : Resources Unit) :
    ∃ after, binder.bindPort (.withFree binder.host free) port resources =
      (.error (IoError.ofErrno .eaddrinuse), after) := by
  have taken' : ¬ ((⟨binder.host, port⟩ : SocketAddress) = ⟨binder.host, 0⟩ ∨
      (⟨binder.host, port⟩ : SocketAddress) = ⟨binder.host, free⟩) := by
    rintro (same | same)
    · exact nonzero (congrArg SocketAddress.port same)
    · exact taken (congrArg SocketAddress.port same)
  obtain ⟨after, fails⟩ := OperatingSystem.exists_listen_withFree_taken taken' resources
  exact ⟨after, by rw [bindPort, fails]⟩

/-- If only a port that is no candidate is free, a scan passes over all candidates
before zero, and leaves the choice to the operating system there. -/
theorem exists_scan_withFree {candidates : List Port} (zero : 0 ∈ candidates)
    (other : free ∉ candidates) (tried : Nat) (resources : Resources Unit) :
    ∃ handle after,
      binder.scan (.withFree binder.host free) tried candidates resources =
        (.ok ⟨handle, ⟨binder.host, free⟩⟩, after) := by
  induction candidates generalizing tried resources with
  | nil => exact absurd zero List.not_mem_nil
  | cons port candidates induction =>
      by_cases chosen : port = 0
      · obtain ⟨handle, after, made⟩ := exists_bindPort_withFree (.inl chosen) resources
        refine ⟨handle, after, scan_of_free made ?_⟩
        rintro ⟨error, fails, -⟩
        cases fails
      · -- The port is in use, so zero is still to come.
        have taken : port ≠ free := (List.ne_of_not_mem_cons other).symm
        obtain ⟨middle, made⟩ := exists_bindPort_withFree_taken chosen taken resources
        rw [scan_of_taken made ⟨_, rfl, rfl⟩]
        exact induction ((List.mem_cons.mp zero).resolve_left (Ne.symm chosen))
          (List.not_mem_of_not_mem_cons other) (tried + 1) middle

theorem exists_bind_withFree (binder : Binder) (zero : binder.allocator.Offers 0)
    (other : ¬ binder.allocator.Offers free) (resources : Resources Unit) :
    ∃ handle after, binder.bind (.withFree binder.host free) 0 resources =
      (.ok ⟨handle, ⟨binder.host, free⟩⟩, after) := by
  rw [bind, if_neg (not_not_intro rfl)]
  rw [← PortAllocator.mem_candidates_iff] at zero other
  exact exists_scan_withFree zero other 0 resources

theorem confined_iff_decides : binder.Confined ↔ binder.allocator.Decides := by
  refine ⟨fun confined zero port _ => ?_, confined_of_decides⟩
  by_contra other
  obtain ⟨handle, after, ends⟩ := binder.exists_bind_withFree zero other (.start ())
  have among := confined (OperatingSystem.bindsAsAsked_withFree _ _) ends
  exact other (PortAllocator.mem_candidates_iff.mp among)

end Binder

namespace Transport

variable {config : TransportConfig} {free : Port}

/-- Whenever a transport is bound with a configuration, the port of its listener is a
candidate. -/
def Confined (config : TransportConfig) : Prop :=
  ∀ {σ η : Type} {os : OperatingSystem σ} {resolved : Except Error String}
    {resources after : Resources σ} {transport : Transport η}, os.BindsAsAsked →
    bind os config resolved resources = (.ok transport, after) →
      transport.listener.address.port ∈ config.portAllocator.candidates.toList

theorem exists_chooseHost (valid : config.validate = .ok ()) :
    ∃ resolved host ip, chooseHost config resolved = .ok (host, ip) := by
  cases configured : config.hostAddress with
  | none =>
      have read : Ip.read "127.0.0.1".toList = some (.v4 .localhost) := by
        decide +kernel
      have found : hostFor config (.ok "127.0.0.1") = .ok "127.0.0.1" := by
        rw [hostFor, configured]
      exact ⟨_, _, _, chooseHost_eq_ok_iff.mpr ⟨valid, found, read⟩⟩
  | some host =>
      have found : hostFor config (.ok host) = .ok host := by
        rw [hostFor, configured]
      cases read : Ip.read host.toList with
      | some ip => exact ⟨_, _, _, chooseHost_eq_ok_iff.mpr ⟨valid, found, read⟩⟩
      | none =>
          simp [TransportConfig.validate, TransportConfig.fault?, configured, read,
            Option.filter] at valid

theorem exists_bind_withFree (probed : config.listenPort = 0)
    (valid : config.validate = .ok ()) (zero : config.portAllocator.Offers 0)
    (other : ¬ config.portAllocator.Offers free) :
    ∃ (ip : Ip) (resolved : Except Error String) (transport : Transport Unit)
      (after : Resources Unit),
      bind (.withFree ip free) config resolved (.start ()) = (.ok transport, after) ∧
      transport.listener.address.port = free := by
  obtain ⟨resolved, host, ip, chosen⟩ := exists_chooseHost valid
  let binder : Binder := ⟨ip, config.portAllocator, config.socket⟩
  obtain ⟨handle, middle, listens⟩ :=
    binder.exists_bind_withFree zero other (.start ())
  obtain ⟨pools, after, starts⟩ := OperatingSystem.exists_startPools_withFree
    (WorkerPools.plan s!"remote-{free}" config.pools) [] middle
  refine ⟨ip, resolved, assemble config host ⟨handle, ⟨ip, free⟩⟩ ⟨pools⟩, after, ?_,
    rfl⟩
  rw [bind, chosen]
  dsimp only
  rw [probed, listens]
  dsimp only
  rw [WorkerPools.start, starts]
  rfl

theorem confined_iff_decides (probed : config.listenPort = 0)
    (valid : config.validate = .ok ()) :
    Confined config ↔ config.portAllocator.Decides := by
  constructor
  · intro confined zero port _
    by_contra other
    obtain ⟨ip, resolved, transport, after, bound, same⟩ :=
      exists_bind_withFree probed valid zero other
    have among := confined (OperatingSystem.bindsAsAsked_withFree ip port) bound
    rw [same, PortAllocator.mem_candidates_iff] at among
    exact other among
  · intro decides σ η os resolved resources after transport asked bound
    obtain ⟨host, ip, listener, workers, middle, -, listens, rfl⟩ :=
      assembled_of_bind bound
    have confined : (⟨ip, config.portAllocator, config.socket⟩ : Binder).Confined :=
      Binder.confined_of_decides decides
    rw [probed] at listens
    exact confined asked listens

/-- The port of a listener that is left to the allocator is a candidate, or zero is a
candidate and was bound, so that the operating system has chosen.  So all listeners of
a binder keep to its allocator exactly if the allocator does not offer zero or offers
all other ports, and so do the listeners of all transports with a valid configuration
in which the port is zero. -/
theorem obeys_allocator (allocator : PortAllocator) :
    (∀ binder : Binder, binder.allocator = allocator →
      (∀ {σ : Type} {os : OperatingSystem σ} {resources after : Resources σ}
        {bound : Bound}, os.BindsAsAsked →
        binder.bind os 0 resources = (.ok bound, after) →
          bound.address.port ∈ allocator.candidates.toList ∨
            allocator.Offers 0 ∧
              ∃ before, binder.bindPort os 0 before = (.ok bound, after)) ∧
      (binder.Confined ↔ allocator.Decides)) ∧
    ∀ config : TransportConfig, config.portAllocator = allocator →
      config.listenPort = 0 → config.validate = .ok () →
        (Confined config ↔ allocator.Decides) := by
  constructor
  · rintro binder rfl
    refine ⟨fun asked ends => ?_, Binder.confined_iff_decides⟩
    rw [← PortAllocator.mem_candidates_iff]
    exact Binder.port_of_bind asked ends
  · rintro config rfl probed valid
    exact confined_iff_decides probed valid

/-- The default range does not reach down to zero, a list with zero and one other port
leaves the choice of all others open. -/
theorem obeys_allocator_by_default :
    Confined TransportConfig.default ∧
      ¬ Confined { TransportConfig.default with portAllocator := .list [0, 20000] } := by
  constructor
  · refine ((obeys_allocator .default).2 _ rfl rfl rfl).mpr fun zero => ?_
    have low : (10000 : Port).toNat ≤ (0 : Port).toNat := zero.1
    exact absurd low (by decide)
  · intro confined
    have decides := ((obeys_allocator (.list [0, 20000])).2 _ rfl rfl rfl).mp confined
    have among : (1 : Port) ∈ ([0, 20000] : List Port) :=
      decides (by simp [PortAllocator.Offers]) 1 (by decide)
    exact absurd among (by decide)

end Transport

/-- A binder that offers zero and one other port is given a third one. -/
theorem Binder.listens_beside_candidates :
    let resources := Resources.start (Network.start false NetworkFaults.none)
    let binder : Binder :=
      ⟨.v4 .localhost, .list [0, 20000], SocketOptions.default⟩
    let bound : Bound := ⟨0, ⟨.v4 .localhost, 50000⟩⟩
    Network.os.BindsAsAsked ∧ (binder.bind Network.os 0 resources).1 = .ok bound ∧
      bound.address.port ∉ binder.allocator.candidates.toList := by
  intro resources binder bound
  refine ⟨Network.bindsAsAsked, ?_, ?_⟩
  · have scans : binder.bind Network.os 0 resources =
        binder.scan Network.os 0 [0, 20000] resources := by
      simp [bind, binder, PortAllocator.candidates]
    rw [scans]
    rfl
  · simp [binder, bound, PortAllocator.candidates]

end RemoteMessaging
