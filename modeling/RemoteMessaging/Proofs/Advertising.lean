import RemoteMessaging.Proofs.Identifier
import RemoteMessaging.Proofs.Resolving

/-!
# Whether the resolved address is an IP address

A transport without a configured host advertises what its resolver gives, and that has
to be an IP address.  A host name leads to IP addresses only, and the loopback address
is one.  But a container's resolver takes the text of its file as it is, and keeps it.
-/

namespace RemoteMessaging

variable {σ η : Type}

namespace Binder

variable {os : OperatingSystem σ}

theorem scan_ne_configuration (binder : Binder) (tried : Nat) (candidates : List Port)
    (resources : Resources σ) (detail : String) :
    (binder.scan os tried candidates resources).1 ≠ .error (.configuration detail) := by
  induction candidates generalizing tried resources with
  | nil => simp [scan]
  | cons port candidates induction =>
      rw [scan]
      split
      · simp
      · split
        · exact induction _ _
        · simp [failure]

theorem bind_ne_configuration (binder : Binder) (requested : Port)
    (resources : Resources σ) (detail : String) :
    (binder.bind os requested resources).1 ≠ .error (.configuration detail) := by
  rw [bind]
  split
  · split <;> simp [failure]
  · exact binder.scan_ne_configuration _ _ resources detail

end Binder

namespace Transport

variable {os : OperatingSystem σ} {config : TransportConfig}
variable {resolved : Except Error String} {resources : Resources σ}
variable {host address detail : String} {error : Error} {ip : Ip}

def notIp (host : String) : Error :=
  .configuration
    s!"advertised host `{host}` is not an IP address: {Ip.syntaxMessage}"

theorem notIp_injective (same : notIp host = notIp address) : host = address := by
  have texts := congrArg String.toList (Error.configuration.inj same)
  simp only [String.toList_append, List.append_assoc, List.append_right_inj,
    List.append_left_inj] at texts
  exact String.toList_injective texts

theorem bind_ne_configuration (os : OperatingSystem σ)
    (chosen : chooseHost config resolved = .ok (host, ip)) (resources : Resources σ)
    (detail : String) :
    (bind os config resolved resources : Except Error (Transport η) × _).1 ≠
      .error (.configuration detail) := by
  let binder : Binder := ⟨ip, config.portAllocator, config.socket⟩
  have never : (binder.bind os config.listenPort resources).1 ≠ _ :=
    binder.bind_ne_configuration config.listenPort resources detail
  rw [bind, chosen]
  dsimp only
  split
  · rename_i failed
    intro same
    refine never ?_
    rw [failed]
    exact congrArg Except.error (Except.error.inj same)
  · split
    · simp [Operation.failed]
    · split <;> simp [Operation.failed]

theorem bind_eq_notIp_iff (os : OperatingSystem σ) (resources : Resources σ)
    (valid : config.validate = .ok ()) (unset : config.hostAddress = none)
    (other : resolved ≠ .error (notIp address)) :
    (bind os config resolved resources : Except Error (Transport η) × _).1 =
        .error (notIp address) ↔
      resolved = .ok address ∧ Ip.read address.toList = none := by
  have host : hostFor config resolved = resolved := by rw [hostFor, unset]
  cases resolved with
  | error error =>
      have chosen : chooseHost config (.error error) = .error error := by
        rw [chooseHost, valid, host]
        rfl
      rw [bind, chosen]
      simp only [reduceCtorEq, false_and, iff_false]
      exact fun same => other (congrArg Except.error (Except.error.inj same))
  | ok host' =>
      cases read : Ip.read host'.toList with
      | none =>
          have chosen : chooseHost config (.ok host') = .error (notIp host') := by
            have refused : ipOf host' = .error (notIp host') := by
              rw [ipOf, read]
              rfl
            rw [chooseHost, valid, host]
            simp only [Bind.bind, Except.bind, refused]
          rw [bind, chosen]
          constructor
          · intro same
            obtain rfl := notIp_injective (Except.error.inj same)
            exact ⟨rfl, read⟩
          · rintro ⟨same, -⟩
            obtain rfl := Except.ok.inj same
            rfl
      | some ip =>
          have chosen := chooseHost_eq_ok_iff.mpr ⟨valid, host, read⟩
          refine iff_of_false (bind_ne_configuration os chosen resources _) ?_
          rintro ⟨same, none⟩
          obtain rfl := Except.ok.inj same
          cases read.symm.trans none

end Transport

theorem Ip.read_toString (ip : Ip) : Ip.read (toString ip).toList = some ip := by
  rw [show (toString ip).toList = ip.toChars from String.toList_ofList]
  exact ip.read_toChars

theorem NameService.resolveHostName_cases (names : NameService) :
    (∃ detail, names.resolveHostName = .error (.addressResolution detail)) ∨
      ∃ ip : Ip, names.resolveHostName = .ok (toString ip) := by
  fun_cases NameService.resolveHostName names with
  | case5 => exact .inr ⟨_, rfl⟩
  | _ => exact .inl ⟨_, rfl⟩

theorem PathSource.Fails.ne_notIp {source : PathSource} {around : Surroundings}
    {detail : String} (fails : source.Fails around detail) (host : String) :
    Error.configuration detail ≠ Transport.notIp host := by
  intro same
  have heads := congrArg (·.toList.head?) (Error.configuration.inj same)
  cases fails <;>
    simp only [String.toList_append, List.head?_append, toString] at heads <;>
    cases heads

namespace Resolver

/-- A resolver that nobody has asked yet. -/
inductive Unasked : Resolver → Prop where
  | hostname : Unasked .hostname
  | loopback : Unasked .loopback
  | container (source : PathSource) : Unasked (.container source none)

/-- The first address that a container's file has shown is no IP address. -/
inductive Misfiled : Resolver → List Surroundings → String → Prop where
  | intro {source : PathSource} {looks : List Surroundings} {address : String}
      (first : source.ShowsFirst looks address)
      (foreign : Ip.read address.toList = none) :
      Misfiled (.container source none) looks address

variable {source : PathSource} {address : String}

theorem resolve_eq_ok_iff (source : PathSource) (kept : Option String)
    (around : Surroundings) :
    ((container source kept).resolve around).1 = .ok address ↔
      ((container source kept).resolve around).2 =
        .container source (some address) := by
  cases kept with
  | some found => simp [resolve]
  | none =>
      rcases source.shows_or_fails around with ⟨found, shows⟩ | ⟨detail, fails⟩
      · simp [resolve_of_shows shows]
      · simp [resolve_of_fails fails]

/-- A container's resolver gives the first address that was shown up to now. -/
theorem resolve_after_eq_ok_iff (source : PathSource) (calls : List Call)
    (around : Surroundings) :
    (((container source none).after calls).resolve around).1 = .ok address ↔
      source.ShowsFirst (looks calls ++ [around]) address := by
  have next : (((container source none).after calls).resolve around).2 =
      (container source none).after (calls ++ [⟨.resolve, around⟩]) :=
    (after_append _ calls [⟨.resolve, around⟩]).symm
  have looked : looks (calls ++ [⟨.resolve, around⟩]) = looks calls ++ [around] :=
    looks_append calls _
  obtain ⟨kept, same⟩ : ∃ kept,
      (container source none).after calls = .container source kept := by
    rcases after_cases source calls with ⟨-, same⟩ | ⟨found, -, same⟩
    · exact ⟨none, same⟩
    · exact ⟨some found, same⟩
  rw [← looked, ← after_eq_kept_iff, ← next, same]
  exact resolve_eq_ok_iff source kept around

theorem resolve_ne_notIp {resolver : Resolver} (unasked : resolver.Unasked)
    (calls : List Call) (around : Surroundings) (host : String) :
    ((resolver.after calls).resolve around).1 ≠ .error (Transport.notIp host) := by
  cases unasked with
  | hostname =>
      rw [after_of_resolve (fun _ => rfl)]
      rcases around.names.resolveHostName_cases with ⟨detail, fails⟩ | ⟨ip, resolved⟩
      · simp [resolve, fails, Transport.notIp]
      · simp [resolve, resolved]
  | loopback =>
      rw [after_of_resolve (fun _ => rfl)]
      simp [resolve]
  | container source =>
      rcases after_cases source calls with ⟨-, same⟩ | ⟨found, -, same⟩
      · rw [same]
        rcases source.shows_or_fails around with ⟨found, shows⟩ | ⟨detail, fails⟩
        · simp [resolve_of_shows shows]
        · rw [resolve_of_fails fails]
          exact fun same => fails.ne_notIp host (Except.error.inj same)
      · rw [same]
        simp [resolve]

/-- What a resolver gives is no IP address exactly if it was found in a file. -/
theorem misfiled_iff {resolver : Resolver} (unasked : resolver.Unasked)
    (calls : List Call) (around : Surroundings) :
    ((resolver.after calls).resolve around).1 = .ok address ∧
        Ip.read address.toList = none ↔
      resolver.Misfiled (looks calls ++ [around]) address := by
  cases unasked with
  | hostname =>
      rw [after_of_resolve (fun _ => rfl)]
      refine iff_of_false ?_ nofun
      rintro ⟨resolved, foreign⟩
      rcases around.names.resolveHostName_cases with ⟨detail, fails⟩ | ⟨ip, same⟩
      · cases fails.symm.trans resolved
      · obtain rfl := Except.ok.inj (same.symm.trans resolved)
        cases (Ip.read_toString ip).symm.trans foreign
  | loopback =>
      rw [after_of_resolve (fun _ => rfl)]
      refine iff_of_false ?_ nofun
      rintro ⟨resolved, foreign⟩
      obtain rfl := Except.ok.inj resolved
      cases (Ip.read_toString _).symm.trans foreign
  | container source =>
      rw [resolve_after_eq_ok_iff]
      constructor
      · rintro ⟨first, foreign⟩
        exact .intro first foreign
      · rintro ⟨first, foreign⟩
        exact ⟨first, foreign⟩

/-- Over any requests, a resolver gives an IP address, unless it is that of a container
and the first address that its file has shown is none.  That address it gives, then
and for ever; and a transport with a valid configuration that leaves the host to the
resolver fails for want of an IP address then, and only then. -/
theorem resolves_ip_unless_misfiled (resolver : Resolver) (unasked : resolver.Unasked)
    (calls : List Call) (around : Surroundings) (address : String) :
    let outcome := ((resolver.after calls).resolve around).1
    let misfiled := resolver.Misfiled (looks calls ++ [around]) address
    (outcome = .ok address ∧ Ip.read address.toList = none ↔ misfiled) ∧
      (∀ (os : OperatingSystem σ) (config : TransportConfig) (resources : Resources σ),
        config.validate = .ok () → config.hostAddress = none →
          ((Transport.bind os config outcome resources :
              Except Error (Transport η) × Resources σ).1 =
            .error (Transport.notIp address) ↔ misfiled)) ∧
      (misfiled → ∀ (later : List Call) (around' : Surroundings),
        ((resolver.after (calls ++ ⟨.resolve, around⟩ :: later)).resolve around').1 =
          .ok address) := by
  intro outcome misfiled
  have either : _ ↔ misfiled := misfiled_iff unasked calls around
  refine ⟨either, ?_, ?_⟩
  · intro os config resources valid unset
    exact (Transport.bind_eq_notIp_iff os resources valid unset
      (resolve_ne_notIp unasked calls around address)).trans either
  · rintro ⟨first, -⟩ later around'
    have kept := after_eq_kept_iff.mpr
      ((looks_append calls [⟨.resolve, around⟩]).symm ▸ first)
    rw [List.append_cons, after_append, kept, after_of_kept]
    rfl

/-- A variable is unset at first; then it leads to a file with an address that has a
zone.  That file is mended afterwards. -/
theorem resolves_ip_unless_misfiled_of_zoned :
    let files (content : String) : FileSystem :=
      ⟨[(["ip"], .file (Text.utf8 content.toList))]⟩
    let names : NameService := ⟨.ok [], []⟩
    let environment : Environment := [(addressFileVariable, "/ip")]
    let unset : Surroundings := ⟨names, [], files "10.0.0.9"⟩
    let zoned : Surroundings := ⟨names, environment, files " fe80::1%eth0\n"⟩
    let mended : Surroundings := ⟨names, environment, files "10.0.0.9"⟩
    let calls : List Call := [⟨.resolve, unset⟩, ⟨.describe, zoned⟩]
    let outcome := ((ofEnvironment.after calls).resolve zoned).1
    ofEnvironment.Unasked ∧ outcome = .ok "fe80::1%eth0" ∧
      (Transport.bind Network.os default outcome (.start (.start false .none)) :
          Except Error (Transport Unit) × Resources Network).1 =
        .error (Transport.notIp "fe80::1%eth0") ∧
      ((ofEnvironment.after (calls ++ [⟨.resolve, zoned⟩])).resolve mended).1 =
        .ok "fe80::1%eth0" := by
  intro files names environment unset zoned mended calls outcome
  have unasked : ofEnvironment.Unasked := .container _
  obtain ⟨gives, binds, stays⟩ := resolves_ip_unless_misfiled (σ := Network) (η := Unit)
    ofEnvironment unasked calls zoned "fe80::1%eth0"
  have hidden : ∀ address, ¬ (PathSource.variable addressFileVariable).Shows unset
      address :=
    not_shows_of_fails (.unset rfl (.inl rfl))
  have leads : (PathSource.variable addressFileVariable).Leads environment "/ip" :=
    .named rfl (by decide)
  have holds : zoned.files.content? "/ip" =
      some (.ok (Text.utf8 " fe80::1%eth0\n".toList)) := by decide
  have shows : (PathSource.variable addressFileVariable).Shows zoned "fe80::1%eth0" :=
    .intro leads holds (Text.trim_eq_iff.mp (by decide)) (by decide)
  have misfiled : ofEnvironment.Misfiled [unset, zoned] "fe80::1%eth0" :=
    .intro (.later hidden (.here shows [])) (by decide +kernel)
  exact ⟨unasked, (gives.mpr misfiled).1, (binds _ _ _ (by decide) rfl).mpr misfiled,
    stays misfiled [] mended⟩

/-- A file with a name in it. -/
theorem resolves_name_in_file :
    let around : Surroundings :=
      ⟨⟨.ok [], []⟩, [], ⟨[(["ip"], .file (Text.utf8 "node-7".toList))]⟩⟩
    let outcome := ((container (.fixed "/ip") none).resolve around).1
    outcome = .ok "node-7" ∧ Ip.read "node-7".toList = none ∧
      (Transport.bind Network.os default outcome (.start (.start false .none)) :
          Except Error (Transport Unit) × Resources Network).1 =
        .error (.configuration ("advertised host `node-7` is not an IP address: " ++
          "invalid IP address syntax")) := by
  intro around outcome
  have holds : around.files.content? "/ip" =
      some (.ok (Text.utf8 "node-7".toList)) := by decide
  have shows : (PathSource.fixed "/ip").Shows around "node-7" :=
    .intro (.fixed _ _) holds (Text.trim_eq_iff.mp (by decide)) (by decide)
  have resolved : outcome = .ok "node-7" := congrArg Prod.fst (resolve_of_shows shows)
  have foreign : Ip.read "node-7".toList = none := by decide +kernel
  have other : outcome ≠ .error (Transport.notIp "node-7") := by
    rw [resolved]
    simp
  have valid : (default : TransportConfig).validate = .ok () := by decide
  exact ⟨resolved, foreign,
    (Transport.bind_eq_notIp_iff _ _ valid rfl other).mpr ⟨resolved, foreign⟩⟩

end Resolver

end RemoteMessaging
