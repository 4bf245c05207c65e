import RemoteMessaging.Os.Network
import RemoteMessaging.Proofs.AddressForms
import RemoteMessaging.Proofs.Listening
import RemoteMessaging.Transport.Basic

/-!
# The identifier of a transport

The identifier that a transport hands out leads back to its listener: it is read as
the advertised address, which is resolved to the address of the listening socket.
What is asked of the operating system is only that a listener has the address to
which it was bound.
-/

namespace RemoteMessaging

variable {σ η : Type}

/-- A listener has the IP address to which it was bound, and the port unless that
was zero. -/
def OperatingSystem.BindsAsAsked (os : OperatingSystem σ) : Prop :=
  ∀ {options : SocketOptions} {address own : SocketAddress} {handle : Handle}
    {resources after : Resources σ},
    resources.listen os options address = (.ok (handle, own), after) →
      own.ip = address.ip ∧ (address.port ≠ 0 → own.port = address.port)

namespace Resources

variable {os : OperatingSystem σ} {resources after : Resources σ}

theorem system_of_call {α : Type} {request : SystemCall σ α}
    {outcome : Except IoError α} (asked : resources.call request = (outcome, after)) :
    request resources.system = (outcome, after.system) := by
  obtain ⟨rfl, rfl⟩ := Prod.mk.inj asked
  rfl

theorem call_of_prepare {handle : Handle} {request : SystemCall σ Unit}
    {requests : List (SystemCall σ Unit)}
    (prepared : resources.prepare os handle (request :: requests) = (.ok (), after)) :
    ∃ next : Resources σ, request resources.system = (.ok (), next.system) ∧
      next.prepare os handle requests = (.ok (), after) := by
  cases asked : resources.call request with
  | mk outcome next =>
  rw [prepare, asked] at prepared
  cases outcome with
  | ok _ => exact ⟨next, system_of_call asked, prepared⟩
  | error error => simp at prepared

end Resources

namespace Network

variable {network after : Network}

theorem find?_bind {handle : Handle} {address : SocketAddress}
    (bound : network.bind handle address = (.ok (), after)) :
    ∃ socket, after.bound.find? (·.handle = handle) = some socket ∧
      socket.address.ip = address.ip ∧
      (address.port ≠ 0 → socket.address.port = address.port) := by
  unfold bind at bound
  split at bound
  · simp at bound
  generalize named : (if address.port = 0 then
    (⟨address.ip, network.nextBound⟩ : SocketAddress) else address) = chosen at bound
  have kept : chosen.ip = address.ip ∧ (address.port ≠ 0 → chosen.port = address.port) := by
    by_cases zero : address.port = 0
    · rw [if_pos zero] at named
      exact named ▸ ⟨rfl, fun other => (other zero).elim⟩
    · rw [if_neg zero] at named
      exact named ▸ ⟨rfl, fun _ => rfl⟩
  dsimp only at bound
  split at bound
  · simp at bound
  · obtain ⟨-, rfl⟩ := Prod.mk.inj bound
    exact ⟨_, List.find?_cons_of_pos (by simp), kept⟩

theorem find?_listen {handle other : Handle} {socket : BoundSocket}
    (listening : network.listen handle = (.ok (), after))
    (found : network.bound.find? (·.handle = other) = some socket) :
    ∃ socket', after.bound.find? (·.handle = other) = some socket' ∧
      socket'.address = socket.address := by
  unfold listen at listening
  split at listening
  · simp at listening
  · split at listening
    · simp at listening
    · obtain ⟨-, rfl⟩ := Prod.mk.inj listening
      rw [List.find?_map]
      have same : ((fun entry : BoundSocket => decide (entry.handle = other)) ∘
          fun entry => if entry.handle = handle then { entry with listening := true }
            else entry) = fun entry => decide (entry.handle = other) := by
        funext entry
        simp only [Function.comp_apply]
        split <;> rfl
      rw [same, found]
      refine ⟨_, rfl, ?_⟩
      dsimp only
      split <;> rfl

theorem localAddress_of_bound {handle : Handle} {socket : BoundSocket}
    {own : SocketAddress} (found : network.bound.find? (·.handle = handle) = some socket)
    (told : network.localAddress handle = (.ok own, after)) :
    own = socket.address := by
  unfold localAddress at told
  simp only [addressOf?, found, Option.map_some, Option.some_or] at told
  split at told
  · simp at told
  · rename_i own' eq
    rw [← Except.ok.inj (Prod.mk.inj told).1]
    exact (Option.some.inj eq).symm
  · simp at told

theorem bindsAsAsked : Network.os.BindsAsAsked := by
  intro options address own handle resources after opened
  unfold Resources.listen Resources.openSocket at opened
  split at opened
  · simp at opened
  rename_i handle' made create
  split at opened
  · simp at opened
  rename_i ready prepared
  obtain ⟨_, -, prepared⟩ := Resources.call_of_prepare prepared
  obtain ⟨_, -, prepared⟩ := Resources.call_of_prepare prepared
  obtain ⟨_, bound, prepared⟩ := Resources.call_of_prepare prepared
  obtain ⟨_, listening, prepared⟩ := Resources.call_of_prepare prepared
  obtain ⟨last, nonBlocking, prepared⟩ := Resources.call_of_prepare prepared
  obtain ⟨-, rfl⟩ := Prod.mk.inj prepared
  obtain ⟨socket, found, sameIp, samePort⟩ := find?_bind bound
  obtain ⟨socket', found, same⟩ := find?_listen listening found
  rw [(Prod.mk.inj nonBlocking).2] at found
  split at opened
  · simp at opened
  rename_i told
  obtain ⟨rfl, rfl⟩ := Prod.mk.inj (Except.ok.inj (Prod.mk.inj opened).1)
  rw [localAddress_of_bound found (Resources.system_of_call told), same]
  exact ⟨sameIp, samePort⟩

end Network

namespace Binder

variable {binder : Binder} {os : OperatingSystem σ}
variable {resources after : Resources σ}

def portsFor (binder : Binder) (requested : Port) : List Port :=
  if requested = 0 then binder.allocator.candidates.toList else [requested]

theorem exists_bindPort {requested : Port} {bound : Bound}
    (ends : binder.bind os requested resources = (.ok bound, after)) :
    ∃ port before, port ∈ binder.portsFor requested ∧
      binder.bindPort os port before = (.ok bound, after) := by
  by_cases zero : requested = 0
  · rw [bind, if_neg (not_not_intro zero)] at ends
    obtain ⟨attempts, tries, concludes⟩ :=
      exists_tries_scan binder os 0 binder.allocator.candidates.toList resources
    rw [ends] at tries concludes
    rw [portsFor, if_pos zero]
    generalize told : (Except.ok bound : Except Error Bound) = answer at concludes
    cases concludes with
    | exhausted => cases told
    | @decided earlier last taken free first =>
        obtain ⟨before, made⟩ := tries.last
        rw [Attempt.verdict_eq_ok_iff.mp told.symm] at made
        refine ⟨last.port, before, first.subset ?_, made⟩
        simp
  · rw [bind, if_pos zero] at ends
    rw [portsFor, if_neg zero]
    split at ends
    · rename_i made
      obtain ⟨same, rfl⟩ := Prod.mk.inj ends
      obtain rfl := Except.ok.inj same
      exact ⟨requested, resources, List.mem_singleton_self _, made⟩
    · simp at ends

theorem address_of_bindPort (asked : os.BindsAsAsked) {port : Port} {bound : Bound}
    (made : binder.bindPort os port resources = (.ok bound, after)) :
    bound.address.ip = binder.host ∧ (port ≠ 0 → bound.address.port = port) := by
  rw [bindPort] at made
  split at made
  · simp at made
  · rename_i opened
    obtain ⟨same, rfl⟩ := Prod.mk.inj made
    obtain rfl := Except.ok.inj same
    exact asked opened

end Binder

namespace Transport

variable {os : OperatingSystem σ} {config : TransportConfig}
variable {resolved : Except Error String} {resources after : Resources σ}
variable {transport : Transport η}

/-- A host is chosen if the configuration is valid and the host spells an IP address,
which is the one that is bound. -/
theorem chooseHost_eq_ok_iff {host : String} {ip : Ip} :
    chooseHost config resolved = .ok (host, ip) ↔
      config.validate = .ok () ∧ hostFor config resolved = .ok host ∧
        Ip.read host.toList = some ip := by
  unfold chooseHost
  cases config.validate with
  | error error => simp [Bind.bind, Except.bind]
  | ok _ =>
  cases hostFor config resolved with
  | error error => simp [Bind.bind, Except.bind]
  | ok chosen =>
  cases read : Ip.read chosen.toList with
  | none =>
      simp only [ipOf, read, Bind.bind, Except.bind]
      refine iff_of_false nofun ?_
      rintro ⟨-, ⟨⟩, other⟩
      simp [read] at other
  | some own =>
      simp only [ipOf, read, Bind.bind, Except.bind]
      constructor
      · rintro ⟨⟩
        exact ⟨trivial, rfl, read⟩
      · rintro ⟨-, ⟨⟩, other⟩
        rw [read] at other
        obtain rfl := Option.some.inj other
        rfl

/-- A transport that is bound has been assembled for the host that was chosen and a
listener that was bound to its IP address. -/
theorem assembled_of_bind
    (bound : bind os config resolved resources = (.ok transport, after)) :
    ∃ host ip listener workers middle, Ip.read host.toList = some ip ∧
      (⟨ip, config.portAllocator, config.socket⟩ : Binder).bind os config.listenPort
        resources = (.ok listener, middle) ∧
      transport = assemble config host listener workers := by
  unfold bind at bound
  split at bound
  · simp at bound
  rename_i host ip chosen
  dsimp only at bound
  split at bound
  · simp at bound
  rename_i listener middle listens
  split at bound
  · simp at bound
  rename_i workers ready started
  split at bound
  · simp at bound
  obtain ⟨same, -⟩ := Prod.mk.inj bound
  exact ⟨host, ip, listener, workers, middle, (chooseHost_eq_ok_iff.mp chosen).2.2, listens,
    (Except.ok.inj same).symm⟩

/-- The identifier of a transport that is bound is read as the advertised address.
That address is resolved to the address of the listener, whatever names are known.
The port is that of the configuration or, if that is zero, a candidate of the
allocator. -/
theorem identifier_leads_back (asked : os.BindsAsAsked)
    (bound : bind os config resolved resources = (.ok transport, after)) :
    Address.parse transport.identifier = .ok transport.advertised ∧
      (∀ names : NameService,
        transport.advertised.resolve names = .ok transport.listener.address) ∧
      (config.listenPort ≠ 0 →
        transport.advertised.port = config.listenPort) ∧
      (config.listenPort = 0 → 0 ∉ config.portAllocator.candidates.toList →
        transport.advertised.port ∈ config.portAllocator.candidates.toList) := by
  obtain ⟨host, ip, listener, workers, middle, read, listens, rfl⟩ :=
    assembled_of_bind bound
  obtain ⟨port, before, among, made⟩ := Binder.exists_bindPort listens
  obtain ⟨sameIp, samePort⟩ := Binder.address_of_bindPort asked made
  have own : listener.address = ⟨ip, listener.address.port⟩ :=
    congrArg (fun ip => (⟨ip, listener.address.port⟩ : SocketAddress)) sameIp
  have advertised : (assemble config host listener workers : Transport η).advertised =
      ⟨host, listener.address.port⟩ := Address.ofHost_of_read read _
  refine ⟨Address.parse_ofHost read _, fun names => ?_, fun fixed => ?_,
    fun probed nonzero => ?_⟩
  · rw [advertised, Address.resolve_of_read read, ← own]
    rfl
  · rw [Binder.portsFor, if_neg fixed, List.mem_singleton] at among
    rw [advertised]
    exact (samePort (among ▸ fixed)).trans among
  · rw [Binder.portsFor, if_pos probed] at among
    have other : port ≠ 0 := fun zero => nonzero (zero ▸ among)
    rw [advertised]
    exact (samePort other).symm ▸ among

/-- A transport whose host is given by the resolver, as a mapped IPv4 address in
capital letters, and whose port is the second candidate. -/
theorem identifier_leads_back_of_mapped :
    let faults : NetworkFaults :=
      { NetworkFaults.none with bind := [(20000, .eaddrinuse)] }
    let config : TransportConfig :=
      { TransportConfig.default with portAllocator := .list [20000, 20001] }
    let address : SocketAddress :=
      ⟨.v6 ⟨[0, 0, 0, 0, 0, 0xffff, 0x7f00, 1], rfl⟩, 20001⟩
    ∃ (transport : Transport Unit) (after : Resources Network),
      bind Network.os config (.ok "::FFFF:127.0.0.1")
        (.start (Network.start false faults)) = (.ok transport, after) ∧
      transport.identifier = "[::FFFF:127.0.0.1]:20001" ∧
      Address.parse transport.identifier = .ok transport.advertised ∧
      ∀ names, transport.advertised.resolve names = .ok address := by
  intro faults config address
  cases ends : bind (η := Unit) Network.os config (.ok "::FFFF:127.0.0.1")
    (.start (Network.start false faults)) with
  | mk answer after =>
  have answers := congrArg Prod.fst ends
  dsimp only at answers
  have named : answer.toOption.map identifier = some "[::FFFF:127.0.0.1]:20001" := by
    rw [← answers]
    decide +kernel
  have listens : answer.toOption.map (·.listener.address) = some address := by
    rw [← answers]
    decide +kernel
  cases answer with
  | error error => simp [Except.toOption] at named
  | ok transport =>
      obtain ⟨parsed, resolves, -⟩ := identifier_leads_back Network.bindsAsAsked ends
      refine ⟨transport, after, rfl, Option.some.inj named, parsed, fun names => ?_⟩
      rw [resolves names]
      exact congrArg Except.ok (Option.some.inj listens)

end Transport

end RemoteMessaging
