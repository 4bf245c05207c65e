import RemoteMessaging.Os.Network
import RemoteMessaging.Proofs.Addresses
import RemoteMessaging.Proofs.Calls.Trying
import RemoteMessaging.Transport.Open

/-!
# Opening links to addresses that cannot be resolved

A host may have no IP address to connect to.  Then opening a link fails with that
error after one attempt, and nothing is asked of the operating system.  But attempts
are repeated or not by the kind of their error alone: if the name service itself was
refused, the address counts as refused.
-/

namespace RemoteMessaging

open Caller

namespace LookupFailure

/-- The lookup was refused itself. -/
inductive Refused : LookupFailure → Prop where
  | system : Refused (.system .econnrefused)
  | other {error : IoError} (refused : error.isConnectRefused = true) :
      Refused (.other error)

theorem isConnectRefused_toIoError (failure : LookupFailure) :
    failure.toIoError.isConnectRefused = true ↔ failure.Refused := by
  constructor
  · intro refused
    cases failure with
    | system errno =>
        cases errno <;> first | exact .system | cases refused
    | other error => exact .other refused
    | _ => cases refused
  · rintro (_ | refused)
    · rfl
    · exact refused

end LookupFailure

namespace Address

variable {names : NameService} {address : Address} {error : IoError}

/-- A host has no IP address to connect to, and the error says why. -/
inductive Unresolved (names : NameService) (address : Address) :
    IoError → Prop where
  | zero (zero : '\x00' ∈ address.host.toList) :
      Unresolved names address
        ⟨.invalidInput, "file name contained an unexpected NUL byte"⟩
  | failed {failure : LookupFailure} (plain : '\x00' ∉ address.host.toList)
      (named : Ip.read address.host.toList = none)
      (looked : names.table.lookup address.host = some (.error failure)) :
      Unresolved names address failure.toIoError
  | unknown (plain : '\x00' ∉ address.host.toList)
      (named : Ip.read address.host.toList = none)
      (looked : names.table.lookup address.host = none) :
      Unresolved names address LookupFailure.noName.toIoError
  | empty (plain : '\x00' ∉ address.host.toList)
      (named : Ip.read address.host.toList = none)
      (looked : names.table.lookup address.host = some (.ok [])) :
      Unresolved names address ⟨.notFound, s!"no address found for {address}"⟩

theorem read_eq_none_of_zero {host : List Char} (zero : '\x00' ∈ host) :
    Ip.read host = none := by
  cases read : Ip.read host with
  | none => rfl
  | some ip => exact absurd (Ip.spells_of_read read _ zero) (by decide)

theorem exists_target (ip : Ip) (rest : List Ip) :
    ∃ target, ((ip :: rest).find? Ip.isV4).or (ip :: rest).head? = some target := by
  cases (ip :: rest).find? Ip.isV4 with
  | none => exact ⟨ip, rfl⟩
  | some first => exact ⟨first, rfl⟩

theorem candidates_of_plain (plain : '\x00' ∉ address.host.toList)
    (named : Ip.read address.host.toList = none) :
    candidates names address = names.lookup address.host := by
  rw [candidates, named]
  exact if_neg plain

/-- The errors with which an address is not resolved. -/
theorem resolve_eq_error_iff :
    address.resolve names = .error error ↔ address.Unresolved names error := by
  constructor
  · intro failed
    cases read : Ip.read address.host.toList with
    | some ip =>
        cases (resolve_of_read read address.port names).symm.trans failed
    | none =>
        by_cases plain : '\x00' ∈ address.host.toList
        · rw [resolve, candidates, read] at failed
          simp only [if_pos plain] at failed
          cases failed
          exact .zero plain
        · rw [resolve, candidates_of_plain plain read, NameService.lookup] at failed
          cases looked : names.table.lookup address.host with
          | none =>
              rw [looked] at failed
              cases failed
              exact .unknown plain read looked
          | some answer =>
              rw [looked] at failed
              rcases answer with failure | _ | ⟨ip, rest⟩
              · cases failed
                exact .failed plain read looked
              · cases failed
                exact .empty plain read looked
              · obtain ⟨target, chosen⟩ := exists_target ip rest
                simp only [bind, Except.bind, chosen] at failed
                cases failed
  · intro unresolved
    cases unresolved with
    | zero zero =>
        rw [resolve, candidates, read_eq_none_of_zero zero]
        simp only [if_pos zero]
        rfl
    | failed plain named looked | unknown plain named looked
    | empty plain named looked =>
        rw [resolve, candidates_of_plain plain named, NameService.lookup, looked]
        rfl

theorem Unresolved.isConnectRefused_iff (unresolved : address.Unresolved names error) :
    error.isConnectRefused = true ↔
      '\x00' ∉ address.host.toList ∧ ∃ failure,
        names.table.lookup address.host = some (.error failure) ∧
          failure.Refused := by
  cases unresolved with
  | zero zero =>
      exact ⟨fun refused => (nomatch refused), fun found => absurd zero found.1⟩
  | failed plain named looked =>
      rw [LookupFailure.isConnectRefused_toIoError, looked]
      constructor
      · intro refused
        exact ⟨plain, _, rfl, refused⟩
      · rintro ⟨-, failure, same, refused⟩
        cases same
        exact refused
  | unknown plain named looked | empty plain named looked =>
      rw [looked]
      refine ⟨fun refused => (nomatch refused), ?_⟩
      rintro ⟨-, failure, same, -⟩
      cases same

end Address

namespace Transport

variable {σ η : Type}

/-- During a pause nobody works on the transport. -/
def undisturbed (_ : Nat) (transport : Transport η) (resources : Resources σ) :
    Transport η × Resources σ :=
  (transport, resources)

/-- Opening a link fails after these attempts and pauses.  The operating system is
asked for nothing, and each address keeps its link. -/
def FailsAfter (os : OperatingSystem σ) (names : NameService)
    (meanwhile : Nat → Transport η → Resources σ → Transport η × Resources σ)
    (transport : Transport η) (address : Address) (resources : Resources σ)
    (attempts : List (Attempt Link)) (pauses : List Duration) (error : Error) :
    Prop :=
  transport.attempts os names meanwhile address resources = attempts ∧
    ∃ cache warnings, (∀ other, cache.get? other = transport.get? other) ∧
      transport.openLink os names meanwhile address resources =
        (some (.error error),
          ⟨{ transport with cache := cache }, resources, pauses, warnings⟩)

section Unresolved

variable {os : OperatingSystem σ} {names : NameService}
variable {meanwhile : Nat → Transport η → Resources σ → Transport η × Resources σ}
variable {transport : Transport η} {address : Address} {error : IoError}
variable {resources : Resources σ}

theorem connect_of_unresolved (os : OperatingSystem σ)
    (meanwhile : Nat → Transport η → Resources σ → Transport η × Resources σ)
    (unresolved : address.resolve names = .error error)
    (opening : Opening σ η) (alive : opening.transport.closed = false)
    (cache : LinkCache Link) (noted : List (Attempt Link)) :
    (outside os names meanwhile).noting.connect address cache (noted, opening) =
      (.failed error, cache, noted ++ [.failed error], opening) := by
  simp only [Outside.noting, outside, Transport.connect, alive, unresolved,
    keepChannel]
  rfl

theorem failsAfter_of_returns (alive : transport.closed = false)
    {after held : LinkCache Link} {attempts : List (Attempt Link)}
    {pauses : List Duration} {warnings : List String} {failure : Error}
    (links : ∀ other, after.get? other = transport.get? other)
    (returns : (startLive 0 address transport.config.retry).Returns
      (outside os names meanwhile).noting transport.cache
      ([], ⟨transport, resources, [], []⟩) (.error failure) after
      (attempts, ⟨{ transport with cache := held }, resources, pauses, warnings⟩)) :
    transport.FailsAfter os names meanwhile address resources attempts pauses
      failure := by
  obtain ⟨last, ends, ended⟩ := returns
  obtain ⟨told, noted⟩ := run_noting (outside os names meanwhile)
    (startLive 0 address transport.config.retry) transport.cache []
    ⟨transport, resources, [], []⟩
  constructor
  · simp only [Transport.attempts, alive, Caller.attempts, ends]
    rfl
  · refine ⟨after, warnings, links, ?_⟩
    obtain ⟨same, rest⟩ := Prod.mk.inj (noted.symm.trans ends)
    obtain ⟨same', rest⟩ := Prod.mk.inj rest
    obtain ⟨-, same''⟩ := Prod.mk.inj rest
    simp only [openLink, alive, same, same', same'', ended, outcome]
    rfl

theorem failsAfter_of_other (unresolved : address.resolve names = .error error)
    (alive : transport.closed = false) (unlinked : transport.cache.Unlinked address)
    (other : error.isConnectRefused = false) :
    transport.FailsAfter os names meanwhile address resources [.failed error] []
      (.io "connect" error) := by
  let caller : Caller Link := start 0 address transport.config.retry
  let noting := (outside os names meanwhile).noting
  obtain ⟨id, entered, vacant, -, links, -, enters⟩ :=
    exists_vacant_run noting caller unlinked
  obtain ⟨last, ends, ended⟩ := returns_of_failed vacant
    (connect_of_unresolved os meanwhile unresolved ⟨transport, resources, [], []⟩
      alive _ []) other
  have returns : caller.Returns noting transport.cache
      ([], ⟨transport, resources, [], []⟩) (.error (.io "connect" error)) entered
      ([.failed error], ⟨transport, resources, [], []⟩) :=
    ⟨last, (enters _).trans ends, ended⟩
  exact failsAfter_of_returns alive links (returns_of_failure returns (by simp) _)

/-- An error that is a refusal is met again in each attempt. -/
theorem returns_of_refusals (os : OperatingSystem σ)
    (refused : error.isConnectRefused = true)
    {id : ReferenceId} {cache : LinkCache Link} (count : Nat) (caller : Caller Link)
    (unresolved : caller.address.resolve names = .error error)
    (vacant : Calls.Vacant cache caller.address id)
    (enough : caller.attempt.toNat + count = caller.policy.retries.toNat)
    (opening : Opening σ η) (alive : opening.transport.closed = false)
    (noted : List (Attempt Link)) :
    ∃ held warnings, (caller.enterPhase (.inspect id)).Returns
      (outside os names undisturbed).noting cache (noted, opening)
      (.error (.connect caller.address caller.policy.attempts)) cache
      (noted ++ List.replicate (count + 1) (.failed error),
        ⟨{ opening.transport with cache := held }, opening.resources,
          opening.pauses ++ List.replicate count caller.policy.backoff,
          warnings⟩) := by
  induction count generalizing caller opening noted with
  | zero =>
      have last : caller.attempt = caller.policy.retries :=
        UInt32.toNat_inj.mp enough
      refine ⟨opening.transport.cache, opening.warnings ++ [caller.refusal], ?_⟩
      rw [List.replicate_zero, List.append_nil]
      exact returns_of_refused vacant
        (connect_of_unresolved os undisturbed unresolved opening alive _ noted) refused
        last
  | succ count induction =>
      have more : caller.attempt < caller.policy.retries :=
        UInt32.lt_iff_toNat_lt.mpr (by omega)
      have next := Caller.toNat_next_attempt more
      have again := run_of_refused vacant
        (connect_of_unresolved os undisturbed unresolved opening alive _ noted) refused
        more rfl
      let paused : Opening σ η :=
        ⟨{ opening.transport with cache := cache }, opening.resources,
          opening.pauses ++ [caller.policy.backoff],
          opening.warnings ++ [caller.refusal]⟩
      obtain ⟨held, warnings, last, ends, ended⟩ :=
        induction { caller with attempt := caller.attempt + 1 } unresolved vacant
          (by simp only [next]; omega) paused alive (noted ++ [.failed error])
      refine ⟨held, warnings, last, again.trans (ends.trans ?_), ended⟩
      simp only [paused, List.append_assoc, List.replicate_succ, List.singleton_append]

theorem failsAfter_of_refused (unresolved : address.resolve names = .error error)
    (alive : transport.closed = false) (unlinked : transport.cache.Unlinked address)
    (refused : error.isConnectRefused = true) :
    transport.FailsAfter os names undisturbed address resources
      (List.replicate (transport.config.retry.retries.toNat + 1) (.failed error))
      (List.replicate transport.config.retry.retries.toNat
        transport.config.retry.backoff)
      (.connect address transport.config.retry.attempts) := by
  let caller : Caller Link := start 0 address transport.config.retry
  let noting : Outside (List (Attempt Link) × Opening σ η) Link :=
    (outside os names undisturbed).noting
  obtain ⟨id, entered, vacant, -, links, -, enters⟩ :=
    exists_vacant_run noting caller unlinked
  obtain ⟨held, warnings, last, ends, ended⟩ :=
    returns_of_refusals os refused transport.config.retry.retries.toNat
      caller unresolved vacant (Nat.zero_add _) ⟨transport, resources, [], []⟩ alive
      []
  exact failsAfter_of_returns alive links
    (returns_of_failure ⟨last, (enters _).trans ends, ended⟩ (by simp) _)

end Unresolved

/-- Opening a link to an address that cannot be resolved fails after one attempt and
without a pause, with the error of the lookup.  But if the lookup itself was refused,
the same attempt is made again and again, with all the pauses of the policy, and the
error tells of a peer that refuses connections.

Before that, any callers may have used the cache, if those at the address have
ended and left no link there. -/
theorem tries_unresolved_once_unless_refused (os : OperatingSystem σ)
    (names : NameService) (transport : Transport η) (address : Address)
    (resources : Resources σ) (error : IoError) (actions : List (Calls.Action Link))
    (reached : transport.cache = (Calls.start.run actions).cache)
    (ended : ∀ caller ∈ (Calls.start.run actions).callers,
      caller.address = address → caller.result?.isSome = true)
    (missing : transport.get? address = none) (alive : transport.closed = false)
    (unresolved : address.Unresolved names error) :
    let policy := transport.config.retry
    (error.isConnectRefused = false → ∀ meanwhile,
      transport.FailsAfter os names meanwhile address resources [.failed error] []
        (.io "connect" error)) ∧
      (error.isConnectRefused = true →
        transport.FailsAfter os names undisturbed address resources
          (List.replicate (policy.retries.toNat + 1) (.failed error))
          (List.replicate policy.retries.toNat policy.backoff)
          (.connect address policy.attempts)) ∧
      (error.isConnectRefused = true ↔
        '\x00' ∉ address.host.toList ∧ ∃ failure,
          names.table.lookup address.host = some (.error failure) ∧
            failure.Refused) := by
  intro policy
  obtain ⟨owner, sound⟩ := Calls.sound_run actions
  have unlinked : transport.cache.Unlinked address := by
    rw [reached]
    exact sound.unlinked ended (reached ▸ missing)
  have fails := Address.resolve_eq_error_iff.mpr unresolved
  exact ⟨fun other _ => failsAfter_of_other fails alive unlinked other,
    failsAfter_of_refused fails alive unlinked, unresolved.isConnectRefused_iff⟩

/-- The first call for a name has timed out, and now the name cannot be looked up. -/
theorem tries_unresolved_once_after_timeout :
    let address : Address := ⟨"peer", 9000⟩
    let policy : RetryPolicy := ⟨2, .ofMillis 20⟩
    let earlier : List (Calls.Action Link) :=
      .call address policy false :: List.replicate 4 (.turn 0) ++
        [.connected 0 (.failed (IoError.ofKind .timedOut)), .turn 0]
    let names : NameService := ⟨.ok [], [("peer", .error .tryAgain)]⟩
    let holding (cache : LinkCache Link) : Transport Unit :=
      { assemble { (default : TransportConfig) with retry := policy } "127.0.0.1"
          ⟨0, ⟨.v4 .localhost, 20000⟩⟩ ⟨[]⟩ with
        cache := cache }
    let transport := holding (Calls.start.run earlier).cache
    let resources := Resources.start (Network.start true .none)
    transport.cache.find? address = some 0 ∧
      transport.FailsAfter Network.os names undisturbed address resources
        [.failed LookupFailure.tryAgain.toIoError] []
        (.io "connect" LookupFailure.tryAgain.toIoError) := by
  intro address policy earlier names holding transport resources
  have unresolved : address.Unresolved names LookupFailure.tryAgain.toIoError :=
    .failed (by decide) (by decide) (by decide)
  have ended : ∀ caller ∈ (Calls.start.run earlier).callers,
      caller.address = address → caller.result?.isSome = true := by
    decide
  have missing : transport.get? address = none := by decide
  have holds : ∀ cache, (holding cache).cache = cache := fun _ => rfl
  have reached : transport.cache = (Calls.start.run earlier).cache := holds _
  have once := (tries_unresolved_once_unless_refused Network.os names transport
    address resources _ earlier reached ended missing rfl unresolved).1
  exact ⟨by decide, once rfl undisturbed⟩

/-- The name service cannot be reached: three attempts, of which none gets beyond
the name, and two pauses. -/
theorem retries_refused_lookup :
    let address : Address := ⟨"peer", 9000⟩
    let error := IoError.ofErrno .econnrefused
    let names : NameService :=
      ⟨.ok [], [("peer", .error (.system .econnrefused))]⟩
    let transport : Transport Unit :=
      assemble { (default : TransportConfig) with retry := ⟨2, .ofMillis 20⟩ }
        "127.0.0.1" ⟨0, ⟨.v4 .localhost, 20000⟩⟩ ⟨[]⟩
    let resources := Resources.start (Network.start true .none)
    let opened := transport.openLink Network.os names undisturbed address resources
    address.resolve names = .error error ∧ transport.get? address = none ∧
      transport.closed = false ∧
      transport.attempts Network.os names undisturbed address resources =
        [.failed error, .failed error, .failed error] ∧
      opened.2.pauses = [.ofMillis 20, .ofMillis 20] ∧
      opened.1 = some (.error (.connect address 3)) := by
  intro address error names transport resources opened
  let failure : LookupFailure := .system .econnrefused
  have unresolved : address.Unresolved names failure.toIoError :=
    .failed (by decide) (by decide) rfl
  have fails : address.resolve names = .error error :=
    Address.resolve_eq_error_iff.mpr unresolved
  obtain ⟨owner, sound⟩ := Calls.sound_run ([] : List (Calls.Action Link))
  have unlinked : transport.cache.Unlinked address :=
    sound.unlinked (fun _ nobody => (List.not_mem_nil nobody).elim) rfl
  have refused : transport.FailsAfter Network.os names undisturbed address resources
      [.failed error, .failed error, .failed error] [.ofMillis 20, .ofMillis 20]
      (.connect address 3) :=
    failsAfter_of_refused fails rfl unlinked rfl
  obtain ⟨attempts, cache, warnings, -, ends⟩ := refused
  have pauses : opened.2.pauses = [.ofMillis 20, .ofMillis 20] :=
    congrArg (·.2.pauses) ends
  have outcome : opened.1 = some (.error (.connect address 3)) :=
    congrArg Prod.fst ends
  exact ⟨fails, rfl, rfl, attempts, pauses, outcome⟩

end Transport

end RemoteMessaging
