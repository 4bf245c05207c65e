import Mathlib.Data.List.Forall2
import RemoteMessaging.Config.Json
import RemoteMessaging.Proofs.Json.Decoding
import RemoteMessaging.Proofs.Json.Records

/-!
# Partial configurations

A configuration that is read is the default one, with those fields replaced that are
present.  Options of sockets and sizes of pools are partial in the same way, a retry
policy and an allocator are complete.
-/

namespace RemoteMessaging

open Json (Decodes Fits HasMeaning MeansBool MeansList MeansNat MeansOption MeansRecord
  MeansText MeansUInt16 MeansUInt32 MeansUInt64 Overrides Present Rearranged Repeated
  SameRecord Sound Tagged known)

def Duration.Means (value : Json) (duration : Duration) : Prop :=
  ∃ millis, MeansNat maxMillis value millis ∧ duration = ofMillis millis

theorem Duration.decodes : Decodes ofJson? Means := by
  intro value duration
  rw [ofJson?, Option.map_eq_some_iff]
  refine exists_congr fun millis => ?_
  rw [Json.decodes_nat maxMillis value millis, eq_comm (b := duration)]

/-- A complete policy. -/
structure RetryPolicy.Given (fields : List (String × Json)) (policy : RetryPolicy) :
    Prop where
  retries : Present fields "retries" MeansUInt32 policy.retries
  backoff : Present fields "backoff_ms" Duration.Means policy.backoff

def RetryPolicy.fieldNames : List String := ["retries", "backoff_ms"]

def RetryPolicy.Means : Json → RetryPolicy → Prop :=
  MeansRecord fieldNames Given

theorem RetryPolicy.decodes : Decodes ofJson? Means := by
  refine Decodes.record (by decide) fun fields distinct policy => ?_
  simp only [Option.bind_eq_bind, Option.bind_eq_some_iff, Option.pure_def,
    Option.some.injEq, Json.decodes_uint32.field distinct,
    Duration.decodes.field distinct]
  constructor
  · rintro ⟨retries, first, backoff, second, rfl⟩
    exact ⟨first, second⟩
  · rintro ⟨first, second⟩
    exact ⟨_, first, _, second, rfl⟩

theorem RetryPolicy.Given.perm {fields fields' : List (String × Json)}
    {policy : RetryPolicy} (given : Given fields policy)
    (permuted : fields.Perm fields') : Given fields' policy :=
  ⟨given.retries.perm permuted, given.backoff.perm permuted⟩

/-- Options of which any may be missing. -/
structure SocketOptions.Given (fields : List (String × Json))
    (options : SocketOptions) : Prop where
  reuseAddress : Overrides fields "reuse_address" MeansBool default.reuseAddress
    options.reuseAddress
  keepAlive : Overrides fields "keep_alive" MeansBool default.keepAlive
    options.keepAlive
  backlog : Overrides fields "backlog" MeansUInt32 default.backlog options.backlog
  connectTimeout : Overrides fields "connect_timeout_ms"
    (MeansOption Duration.Means) default.connectTimeout options.connectTimeout
  maxFrameLength : Overrides fields "max_frame_length" MeansUInt64
    default.maxFrameLength options.maxFrameLength

def SocketOptions.Means : Json → SocketOptions → Prop :=
  MeansRecord fieldNames Given

theorem SocketOptions.decodes : Decodes ofJson? Means := by
  refine Decodes.record (by decide) fun fields distinct options => ?_
  simp only [Option.bind_eq_bind, Option.bind_eq_some_iff, Option.pure_def,
    Option.some.injEq, Json.decodes_bool.fieldOr distinct,
    Json.decodes_uint32.fieldOr distinct, Json.decodes_uint64.fieldOr distinct,
    Duration.decodes.option.fieldOr distinct]
  constructor
  · rintro ⟨reuse, first, keep, second, backlog, third, timeout, fourth, length,
      fifth, rfl⟩
    exact ⟨first, second, third, fourth, fifth⟩
  · rintro ⟨first, second, third, fourth, fifth⟩
    exact ⟨_, first, _, second, _, third, _, fourth, _, fifth, rfl⟩

theorem SocketOptions.Given.perm {fields fields' : List (String × Json)}
    {options : SocketOptions} (given : Given fields options)
    (permuted : fields.Perm fields') : Given fields' options :=
  ⟨given.reuseAddress.perm permuted, given.keepAlive.perm permuted,
    given.backlog.perm permuted, given.connectTimeout.perm permuted,
    given.maxFrameLength.perm permuted⟩

def SocketOptions.fieldTable : List (String × (Json → Prop)) :=
  [("reuse_address", HasMeaning MeansBool), ("keep_alive", HasMeaning MeansBool),
    ("backlog", HasMeaning MeansUInt32),
    ("connect_timeout_ms", HasMeaning (MeansOption Duration.Means)),
    ("max_frame_length", HasMeaning MeansUInt64)]

theorem SocketOptions.exists_given_iff {fields : List (String × Json)}
    (distinct : (fields.map Prod.fst).Nodup) :
    (∃ options, Given fields options) ↔
      ∀ member ∈ fields, Fits fieldTable member := by
  simp only [Fits, fieldTable, List.forall_mem_cons, List.not_mem_nil,
    false_implies, implies_true, and_true]
  constructor
  · rintro ⟨options, given⟩ member found
    exact ⟨given.reuseAddress.hasMeaning distinct found,
      given.keepAlive.hasMeaning distinct found,
      given.backlog.hasMeaning distinct found,
      given.connectTimeout.hasMeaning distinct found,
      given.maxFrameLength.hasMeaning distinct found⟩
  · intro fits
    simp only [forall_and] at fits
    obtain ⟨reuse, keep, backlog, timeout, length⟩ := fits
    obtain ⟨_, reuse⟩ := Json.exists_overrides reuse
    obtain ⟨_, keep⟩ := Json.exists_overrides keep
    obtain ⟨_, backlog⟩ := Json.exists_overrides backlog
    obtain ⟨_, timeout⟩ := Json.exists_overrides timeout
    obtain ⟨_, length⟩ := Json.exists_overrides length
    exact ⟨⟨_, _, _, _, _⟩, reuse, keep, backlog, timeout, length⟩

/-- Sizes of which any may be missing. -/
structure PoolSizes.Given (fields : List (String × Json)) (sizes : PoolSizes) :
    Prop where
  serverBoss : Overrides fields "server_boss" MeansUInt64 default.serverBoss
    sizes.serverBoss
  serverWorker : Overrides fields "server_worker" MeansUInt64 default.serverWorker
    sizes.serverWorker
  clientWorker : Overrides fields "client_worker" MeansUInt64 default.clientWorker
    sizes.clientWorker

def PoolSizes.Means : Json → PoolSizes → Prop :=
  MeansRecord fieldNames Given

theorem PoolSizes.decodes : Decodes ofJson? Means := by
  refine Decodes.record (by decide) fun fields distinct sizes => ?_
  simp only [Option.bind_eq_bind, Option.bind_eq_some_iff, Option.pure_def,
    Option.some.injEq, Json.decodes_uint64.fieldOr distinct]
  constructor
  · rintro ⟨boss, first, server, second, client, third, rfl⟩
    exact ⟨first, second, third⟩
  · rintro ⟨first, second, third⟩
    exact ⟨_, first, _, second, _, third, rfl⟩

theorem PoolSizes.Given.perm {fields fields' : List (String × Json)}
    {sizes : PoolSizes} (given : Given fields sizes)
    (permuted : fields.Perm fields') : Given fields' sizes :=
  ⟨given.serverBoss.perm permuted, given.serverWorker.perm permuted,
    given.clientWorker.perm permuted⟩

def PoolSizes.fieldTable : List (String × (Json → Prop)) :=
  [("server_boss", HasMeaning MeansUInt64), ("server_worker", HasMeaning MeansUInt64),
    ("client_worker", HasMeaning MeansUInt64)]

theorem PoolSizes.exists_given_iff {fields : List (String × Json)}
    (distinct : (fields.map Prod.fst).Nodup) :
    (∃ sizes, Given fields sizes) ↔ ∀ member ∈ fields, Fits fieldTable member := by
  simp only [Fits, fieldTable, List.forall_mem_cons, List.not_mem_nil,
    false_implies, implies_true, and_true]
  constructor
  · rintro ⟨sizes, given⟩ member found
    exact ⟨given.serverBoss.hasMeaning distinct found,
      given.serverWorker.hasMeaning distinct found,
      given.clientWorker.hasMeaning distinct found⟩
  · intro fits
    simp only [forall_and] at fits
    obtain ⟨boss, server, client⟩ := fits
    obtain ⟨_, boss⟩ := Json.exists_overrides boss
    obtain ⟨_, server⟩ := Json.exists_overrides server
    obtain ⟨_, client⟩ := Json.exists_overrides client
    exact ⟨⟨_, _, _⟩, boss, server, client⟩

namespace PortAllocator

def MeansRange : Json → Port × UInt32 → Prop :=
  MeansRecord ["begin", "count"] fun fields range =>
    Present fields "begin" MeansUInt16 range.1 ∧
    Present fields "count" MeansUInt32 range.2

theorem decodes_range :
    Decodes (fun value => (value.fields? ["begin", "count"]).bind fun fields =>
      (Json.field? fields "begin" Json.toUInt16?).bind fun first =>
        (Json.field? fields "count" Json.toUInt32?).map fun count => (first, count))
      MeansRange := by
  refine Decodes.record (by decide) fun fields distinct ⟨first, count⟩ => ?_
  simp only [Option.bind_eq_some_iff, Option.map_eq_some_iff,
    Json.decodes_uint16.field distinct, Json.decodes_uint32.field distinct]
  simp

def MeansPorts : Json → List Port → Prop :=
  MeansRecord ["ports"] fun fields =>
    Present fields "ports" (MeansList MeansUInt16)

theorem decodes_ports :
    Decodes (fun value => (value.fields? ["ports"]).bind fun fields =>
      Json.field? fields "ports" (Json.toList? Json.toUInt16?)) MeansPorts :=
  Decodes.record (by decide) fun _ distinct _ =>
    Json.decodes_uint16.list.field distinct

/-- An allocator by its strategy and all that this strategy needs. -/
inductive Means (outer : Nat) (value : Json) : PortAllocator → Prop where
  | range {rest : Json} {first : Port} {count : UInt32} (sound : Sound outer value)
      (tagged : Tagged tagName value "range" rest)
      (range : MeansRange rest (first, count)) : Means outer value (.range first count)
  | list {rest : Json} {ports : List Port} (sound : Sound outer value)
      (tagged : Tagged tagName value "list" rest) (each : MeansPorts rest ports) :
      Means outer value (.list ports)
  | set {rest : Json} {ports : List Port} (sound : Sound outer value)
      (tagged : Tagged tagName value "set" rest) (each : MeansPorts rest ports) :
      Means outer value (.set (PortSet.ofList ports))

theorem decodes (outer : Nat) : Decodes (ofJson? outer) (Means outer) := by
  intro value allocator
  simp only [ofJson?, Option.bind_eq_bind, Option.bind_eq_some_iff, Prod.exists,
    Json.tagged?_eq_some_iff]
  constructor
  · rintro ⟨strategy, rest, ⟨sound, tagged⟩, read⟩
    by_cases isRange : strategy = "range"
    · subst isRange
      simp only [if_true, Option.bind_eq_some_iff, Option.pure_def,
        Option.some.injEq] at read
      obtain ⟨fields, given, first, start, count, length, rfl⟩ := read
      exact .range sound tagged
        ((decodes_range rest _).mp (by simp [given, start, length]))
    by_cases isList : strategy = "list"
    · subst isList
      simp only [isRange, if_true, if_false, Option.bind_eq_some_iff,
        Option.pure_def, Option.some.injEq] at read
      obtain ⟨fields, given, ports, each, rfl⟩ := read
      exact .list sound tagged ((decodes_ports rest _).mp (by simp [given, each]))
    by_cases isSet : strategy = "set"
    · subst isSet
      simp only [isRange, isList, if_true, if_false, Option.bind_eq_some_iff,
        Option.pure_def, Option.some.injEq] at read
      obtain ⟨fields, given, ports, each, rfl⟩ := read
      exact .set sound tagged ((decodes_ports rest _).mp (by simp [given, each]))
    · simp [isRange, isList, isSet] at read
  · intro means
    cases means with
    | range sound tagged range =>
        have read := (decodes_range _ _).mpr range
        simp only [Option.bind_eq_some_iff, Option.map_eq_some_iff] at read
        obtain ⟨fields, given, first, start, count, length, same⟩ := read
        obtain ⟨rfl, rfl⟩ := Prod.mk.inj same
        exact ⟨_, _, ⟨sound, tagged⟩, by simp [given, start, length]⟩
    | list sound tagged each =>
        obtain ⟨fields, given, each⟩ :=
          Option.bind_eq_some_iff.mp ((decodes_ports _ _).mpr each)
        exact ⟨_, _, ⟨sound, tagged⟩, by simp [given, each]⟩
    | set sound tagged each =>
        obtain ⟨fields, given, each⟩ :=
          Option.bind_eq_some_iff.mp ((decodes_ports _ _).mpr each)
        exact ⟨_, _, ⟨sound, tagged⟩, by simp [given, each]⟩

end PortAllocator

namespace TransportConfig

/-- The default configuration, with those fields replaced that are present. -/
structure Given (fields : List (String × Json)) (config : TransportConfig) : Prop where
  hostAddress : Overrides fields "host_address" (MeansOption MeansText)
    default.hostAddress config.hostAddress
  listenPort : Overrides fields "listen_port" MeansUInt16 default.listenPort
    config.listenPort
  retry : Overrides fields "retry" RetryPolicy.Means default.retry config.retry
  orderingGuarantee : Overrides fields "ordering_guarantee" MeansBool
    default.orderingGuarantee config.orderingGuarantee
  portAllocator : Overrides fields "port_allocator" (PortAllocator.Means 1)
    default.portAllocator config.portAllocator
  socket : Overrides fields "socket" SocketOptions.Means default.socket config.socket
  pools : Overrides fields "pools" PoolSizes.Means default.pools config.pools
  shutdownGrace : Overrides fields "shutdown_grace_ms" Duration.Means
    default.shutdownGrace config.shutdownGrace

theorem decodes : Decodes ofJson? (MeansRecord fieldNames Given) := by
  refine Decodes.record (by decide) fun fields distinct config => ?_
  simp only [Option.bind_eq_bind, Option.bind_eq_some_iff, Option.pure_def,
    Option.some.injEq, Json.decodes_text.option.fieldOr distinct,
    Json.decodes_uint16.fieldOr distinct, Json.decodes_bool.fieldOr distinct,
    RetryPolicy.decodes.fieldOr distinct, SocketOptions.decodes.fieldOr distinct,
    PoolSizes.decodes.fieldOr distinct, Duration.decodes.fieldOr distinct,
    (PortAllocator.decodes 1).fieldOr distinct]
  constructor
  · rintro ⟨host, first, port, second, retry, third, ordered, fourth, allocator,
      fifth, socket, sixth, pools, seventh, grace, eighth, rfl⟩
    exact ⟨first, second, third, fourth, fifth, sixth, seventh, eighth⟩
  · rintro ⟨first, second, third, fourth, fifth, sixth, seventh, eighth⟩
    exact ⟨_, first, _, second, _, third, _, fourth, _, fifth, _, sixth, _, seventh,
      _, eighth, rfl⟩

/-- The fields, with the values that suit them. -/
def fieldTable : List (String × (Json → Prop)) :=
  [("host_address", HasMeaning (MeansOption MeansText)),
    ("listen_port", HasMeaning MeansUInt16),
    ("retry", HasMeaning RetryPolicy.Means),
    ("ordering_guarantee", HasMeaning MeansBool),
    ("port_allocator", HasMeaning (PortAllocator.Means 1)),
    ("socket", HasMeaning SocketOptions.Means),
    ("pools", HasMeaning PoolSizes.Means),
    ("shutdown_grace_ms", HasMeaning Duration.Means)]

theorem exists_given_iff {fields : List (String × Json)}
    (distinct : (fields.map Prod.fst).Nodup) :
    (∃ config, Given fields config) ↔ ∀ member ∈ fields, Fits fieldTable member := by
  simp only [Fits, fieldTable, List.forall_mem_cons, List.not_mem_nil,
    false_implies, implies_true, and_true]
  constructor
  · rintro ⟨config, given⟩ member found
    exact ⟨given.hostAddress.hasMeaning distinct found,
      given.listenPort.hasMeaning distinct found,
      given.retry.hasMeaning distinct found,
      given.orderingGuarantee.hasMeaning distinct found,
      given.portAllocator.hasMeaning distinct found,
      given.socket.hasMeaning distinct found,
      given.pools.hasMeaning distinct found,
      given.shutdownGrace.hasMeaning distinct found⟩
  · intro fits
    simp only [forall_and] at fits
    obtain ⟨host, port, retry, ordered, allocator, socket, pools, grace⟩ := fits
    obtain ⟨_, host⟩ := Json.exists_overrides host
    obtain ⟨_, port⟩ := Json.exists_overrides port
    obtain ⟨_, retry⟩ := Json.exists_overrides retry
    obtain ⟨_, ordered⟩ := Json.exists_overrides ordered
    obtain ⟨_, allocator⟩ := Json.exists_overrides allocator
    obtain ⟨_, socket⟩ := Json.exists_overrides socket
    obtain ⟨_, pools⟩ := Json.exists_overrides pools
    obtain ⟨_, grace⟩ := Json.exists_overrides grace
    exact ⟨⟨_, _, _, _, _, _, _, _⟩, host, port, retry, ordered, allocator, socket,
      pools, grace⟩

/-- The fields that are records, with the names of their own fields. -/
def records : List (String × List String) :=
  [("retry", RetryPolicy.fieldNames), ("socket", SocketOptions.fieldNames),
    ("pools", PoolSizes.fieldNames)]

/-- Two values say the same to a field: they are the same, or, if the field is a record,
the same up to the order of their members and to unknown members. -/
def Same (name : String) (value value' : Json) : Prop :=
  value = value' ∨
    ∃ names, records.lookup name = some names ∧ SameRecord names value value'

theorem Same.eq {name : String} {value value' : Json} (same : Same name value value')
    (other : records.lookup name = none) : value = value' := by
  rcases same with same | ⟨names, isRecord, -⟩
  · exact same
  · exact nomatch other.symm.trans isRecord

theorem Same.symm {name : String} {value value' : Json}
    (same : Same name value value') : Same name value' value :=
  same.imp Eq.symm fun ⟨names, isRecord, same⟩ => ⟨names, isRecord, same.symm⟩

theorem Same.sameRecord {name : String} {names : List String} {value value' : Json}
    (same : Same name value value') (isRecord : records.lookup name = some names) :
    SameRecord names value value' := by
  rcases same with rfl | ⟨names', isRecord', same⟩
  · exact .refl value
  · exact Option.some.inj (isRecord'.symm.trans isRecord) ▸ same

theorem Given.rearranged {fields fields' : List (String × Json)}
    {config : TransportConfig} (given : Given fields config)
    (same : Rearranged Same fields fields') : Given fields' config where
  hostAddress := given.hostAddress.rearranged same fun _ _ same means =>
    same.eq rfl ▸ means
  listenPort := given.listenPort.rearranged same fun _ _ same means =>
    same.eq rfl ▸ means
  retry := given.retry.rearranged same fun _ _ same =>
    (same.sameRecord rfl).means fun _ _ permuted given =>
      given.perm permuted
  orderingGuarantee := given.orderingGuarantee.rearranged same fun _ _ same means =>
    same.eq rfl ▸ means
  portAllocator := given.portAllocator.rearranged same fun _ _ same means =>
    same.eq rfl ▸ means
  socket := given.socket.rearranged same fun _ _ same =>
    (same.sameRecord rfl).means fun _ _ permuted given =>
      given.perm permuted
  pools := given.pools.rearranged same fun _ _ same =>
    (same.sameRecord rfl).means fun _ _ permuted given =>
      given.perm permuted
  shutdownGrace := given.shutdownGrace.rearranged same fun _ _ same means =>
    same.eq rfl ▸ means

/-- What an object is loaded as. -/
theorem parse?_eq_some_iff {text : String} {members : List (String × Json)}
    (document : Json.read text.toList = some (.ofMembers members))
    (config : TransportConfig) :
    parse? text = some config ↔
      ¬ Repeated fieldNames members ∧ Given (known fieldNames members) config := by
  rw [parse?, document, Option.bind_some, decodes]
  exact Json.meansRecord_ofMembers_iff

theorem parse?_eq_none_iff {text : String} {members : List (String × Json)}
    (document : Json.read text.toList = some (.ofMembers members)) :
    parse? text = none ↔
      Repeated fieldNames members ∨
        ∃ member ∈ known fieldNames members, ¬ Fits fieldTable member := by
  have loads : (∃ config, parse? text = some config) ↔
      ¬ Repeated fieldNames members ∧
        ∀ member ∈ known fieldNames members, Fits fieldTable member := by
    rw [← Json.hasMeaning_ofMembers_iff fun _ => exists_given_iff]
    simp only [HasMeaning, Json.meansRecord_ofMembers_iff,
      parse?_eq_some_iff document]
  rw [← Option.not_isSome_iff_eq_none, Option.isSome_iff_exists, loads,
    not_and_or, not_not]
  simp only [not_forall, exists_prop]

/-- A configuration is loaded from an object unless a known key is repeated or the value
of a known member does not suit its field; a partial object of options or sizes suits
under the same condition.  What is loaded is the default configuration with just the
present fields replaced.  Neither the order of members nor unknown members make a
difference, in the object itself or in the records that are its fields. -/
theorem loads_partial_object {text : String} {members : List (String × Json)}
    (document : Json.read text.toList = some (.ofMembers members)) :
    (parse? text = none ↔
      Repeated fieldNames members ∨
        ∃ member ∈ known fieldNames members, ¬ Fits fieldTable member) ∧
    (∀ config, parse? text = some config ↔
      ¬ Repeated fieldNames members ∧ Given (known fieldNames members) config) ∧
    (∀ inner, HasMeaning SocketOptions.Means (.ofMembers inner) ↔
      ¬ Repeated SocketOptions.fieldNames inner ∧
        ∀ member ∈ known SocketOptions.fieldNames inner,
          Fits SocketOptions.fieldTable member) ∧
    (∀ inner, HasMeaning PoolSizes.Means (.ofMembers inner) ↔
      ¬ Repeated PoolSizes.fieldNames inner ∧
        ∀ member ∈ known PoolSizes.fieldNames inner,
          Fits PoolSizes.fieldTable member) ∧
    ∀ text' members', Json.read text'.toList = some (.ofMembers members') →
      Rearranged Same (known fieldNames members) (known fieldNames members') →
      parse? text' = parse? text := by
  refine ⟨parse?_eq_none_iff document, parse?_eq_some_iff document,
    fun inner => Json.hasMeaning_ofMembers_iff fun _ => SocketOptions.exists_given_iff,
    fun inner => Json.hasMeaning_ofMembers_iff fun _ => PoolSizes.exists_given_iff, ?_⟩
  intro text' members' document' same
  ext config
  rw [parse?_eq_some_iff document, parse?_eq_some_iff document',
    Json.repeated_iff_of_perm same.keys]
  exact and_congr_right fun _ =>
    ⟨fun given => given.rearranged (same.symm fun _ _ _ => Same.symm),
      fun given => given.rearranged same⟩

/-- Members in two orders, with unknown ones among them. -/
theorem loads_partial_object_of_shuffled :
    let retry (members : List (String × Json)) := ("retry", Json.ofMembers members)
    let pools (members : List (String × Json)) := ("pools", Json.ofMembers members)
    let text (members : List (String × Json)) := (Json.ofMembers members).toText
    let document :=
      [pools [("spare", .null), ("client_worker", .ofNat 7)],
        ("listen_port", .ofNat 80),
        retry [("retries", .ofNat 2), ("backoff_ms", .ofNat 5)]]
    let shuffled :=
      [("comment", .ofText "x"), ("listen_port", .ofNat 80),
        retry [("backoff_ms", .ofNat 5), ("retries", .ofNat 2)],
        pools [("client_worker", .ofNat 7)]]
    let config : TransportConfig :=
      { default with
        listenPort := 80
        retry := ⟨2, .ofMillis 5⟩
        pools := { PoolSizes.default with clientWorker := 7 } }
    parse? (text document) = some config ∧
    parse? (text shuffled) = parse? (text document) := by
  intro retry pools text document shuffled config
  have read : Json.read (text document).toList = some (.ofMembers document) := by
    refine Json.read_toText (Json.wellFormed_ofMembers ?_)
    simp [document, retry, pools, Json.wellFormed_ofMembers, Json.wellFormed_ofNat,
      Json.WellFormed.null]
  have read' : Json.read (text shuffled).toList = some (.ofMembers shuffled) := by
    refine Json.read_toText (Json.wellFormed_ofMembers ?_)
    simp [shuffled, retry, pools, Json.ofText, Json.wellFormed_ofMembers,
      Json.wellFormed_ofNat, Json.WellFormed.string]
  have sameRetry : Same "retry"
      (.ofMembers [("retries", .ofNat 2), ("backoff_ms", .ofNat 5)])
      (.ofMembers [("backoff_ms", .ofNat 5), ("retries", .ofNat 2)]) :=
    .inr ⟨_, rfl, .object (.swap _ _ _)⟩
  have samePools : Same "pools"
      (.ofMembers [("spare", .null), ("client_worker", .ofNat 7)])
      (.ofMembers [("client_worker", .ofNat 7)]) :=
    .inr ⟨_, rfl, .object (.refl _)⟩
  have same : Rearranged Same (known fieldNames document) (known fieldNames shuffled) :=
    ⟨_, (List.perm_append_singleton _ [_, _]).symm,
      .cons ⟨rfl, .inl rfl⟩ (.cons ⟨rfl, sameRetry⟩ (.cons ⟨rfl, samePools⟩ .nil))⟩
  refine ⟨?_, (loads_partial_object read).2.2.2.2 _ _ read' same⟩
  rw [parse?, read]
  decide +kernel

end TransportConfig

end RemoteMessaging
