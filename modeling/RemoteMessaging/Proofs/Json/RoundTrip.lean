import RemoteMessaging.Config.Json
import RemoteMessaging.Proofs.Json.Decoding
import RemoteMessaging.Resolver.Descriptor

/-!
# Configurations survive JSON

A configuration is read from its text up to fractions of milliseconds, and an
allocator or the description of a resolver exactly.
-/

namespace RemoteMessaging

open Json (field? fieldOr? fields?_ofMembers plain_ofNat plain_ofOption
  tagged?_ofMembers toOption?_ofText toUInt16?_ofNat
  toUInt32?_ofNat toUInt64?_ofNat wellFormed_ofMembers wellFormed_ofNat
  wellFormed_ofOption)

/-- The duration in whole milliseconds, of which a 64-bit number can be written. -/
def Duration.inMillis (duration : Duration) : Duration :=
  .ofMillis (min (duration.nanoseconds / 1000000) (UInt64.size - 1))

theorem Duration.ofJson?_toJson (duration : Duration) :
    ofJson? duration.toJson = some duration.inMillis := by
  have within : duration.toMillis ≤ maxMillis := Nat.min_le_right _ _
  rw [ofJson?, toJson, Json.toNat?_ofNat within]
  rfl

example : Duration.ofJson? (Duration.ofSeconds 0 1999999).toJson =
    some (.ofMillis 1) := by
  decide +kernel

theorem Duration.toMillis_ofMillis {millis : Nat} (within : millis ≤ maxMillis) :
    (ofMillis millis).toMillis = millis := by
  simp only [toMillis, ofMillis]
  omega

theorem Duration.toJson_inMillis (duration : Duration) :
    duration.inMillis.toJson = duration.toJson :=
  congrArg Json.ofNat (toMillis_ofMillis (Nat.min_le_right _ _))

theorem Duration.inMillis_ofMillis {millis : Nat} (within : millis ≤ maxMillis) :
    (ofMillis millis).inMillis = ofMillis millis :=
  congrArg ofMillis (toMillis_ofMillis within)

theorem Duration.inMillis_of_ofJson? {value : Json} {duration : Duration}
    (read : ofJson? value = some duration) : duration.inMillis = duration := by
  obtain ⟨millis, number, rfl⟩ := Option.map_eq_some_iff.mp read
  refine inMillis_ofMillis ?_
  unfold Json.toNat? at number
  split at number
  · obtain ⟨n, -, within⟩ := Option.bind_eq_some_iff.mp number
    split at within
    · obtain rfl := Option.some.inj within
      assumption
    · exact nomatch within
  · exact nomatch number

theorem Json.fieldOr?_cases {α : Type} {fields : List (String × Json)}
    {name : String} {read : Json → Option α} {default result : α}
    (found : fieldOr? fields name read default = some result) :
    result = default ∨ ∃ value, read value = some result := by
  unfold fieldOr? at found
  split at found
  · exact .inl (Option.some.inj found).symm
  · exact .inr ⟨_, found⟩

namespace RetryPolicy

def inMillis (policy : RetryPolicy) : RetryPolicy :=
  { policy with backoff := policy.backoff.inMillis }

theorem ofJson?_toJson (policy : RetryPolicy) :
    ofJson? policy.toJson = some policy.inMillis := by
  have fields : policy.toJson.fields? ["retries", "backoff_ms"] = some _ :=
    fields?_ofMembers rfl (by decide)
  simp only [ofJson?, fields, field?, List.lookup_cons, String.reduceBEq,
    Option.bind_eq_bind, Option.bind_some, Option.pure_def, toUInt32?_ofNat,
    Duration.ofJson?_toJson, inMillis]

theorem toJson_inMillis (policy : RetryPolicy) :
    policy.inMillis.toJson = policy.toJson := by
  simp only [toJson, inMillis, Duration.toJson_inMillis]

theorem wellFormed_toJson (policy : RetryPolicy) : policy.toJson.WellFormed := by
  refine wellFormed_ofMembers ?_
  simp [wellFormed_ofNat, Duration.toJson]

theorem inMillis_of_ofJson? {value : Json} {policy : RetryPolicy}
    (read : ofJson? value = some policy) : policy.inMillis = policy := by
  simp only [ofJson?, Option.bind_eq_bind, Option.bind_eq_some_iff,
    Option.pure_def, Option.some.injEq] at read
  obtain ⟨fields, -, retries, -, backoff, found, rfl⟩ := read
  obtain ⟨content, -, read⟩ := Option.bind_eq_some_iff.mp found
  exact congrArg (RetryPolicy.mk retries) (Duration.inMillis_of_ofJson? read)

end RetryPolicy

namespace SocketOptions

def inMillis (options : SocketOptions) : SocketOptions :=
  { options with connectTimeout := options.connectTimeout.map Duration.inMillis }

theorem toOption?_ofOption (timeout : Option Duration) :
    (Json.ofOption (timeout.map Duration.toJson)).toOption? Duration.ofJson? =
      some (timeout.map Duration.inMillis) := by
  cases timeout with
  | none => rfl
  | some duration =>
      have read := Duration.ofJson?_toJson duration
      rw [Duration.toJson, Json.ofNat] at read
      simp [Json.ofOption, Json.toOption?, Duration.toJson, Json.ofNat, read]

theorem ofJson?_toJson (options : SocketOptions) :
    ofJson? options.toJson = some options.inMillis := by
  have fields : options.toJson.fields? fieldNames = some _ :=
    fields?_ofMembers rfl (by decide)
  simp only [ofJson?, fields, fieldOr?, List.lookup_cons, String.reduceBEq,
    Option.bind_eq_bind, Option.bind_some, Option.pure_def, toUInt32?_ofNat,
    toUInt64?_ofNat, toOption?_ofOption, Json.toBool?, inMillis]

theorem toJson_inMillis (options : SocketOptions) :
    options.inMillis.toJson = options.toJson := by
  have same : Duration.toJson ∘ Duration.inMillis = Duration.toJson :=
    funext Duration.toJson_inMillis
  simp only [toJson, inMillis, Option.map_map, same]

theorem wellFormed_toJson (options : SocketOptions) :
    options.toJson.WellFormed := by
  refine wellFormed_ofMembers ?_
  have timeout : (Json.ofOption
      (options.connectTimeout.map Duration.toJson)).WellFormed := by
    refine wellFormed_ofOption fun content present => ?_
    obtain ⟨duration, -, rfl⟩ := Option.map_eq_some_iff.mp present
    exact wellFormed_ofNat _
  simp [wellFormed_ofNat, Json.WellFormed.bool, timeout]

theorem inMillis_of_ofJson? {value : Json} {options : SocketOptions}
    (read : ofJson? value = some options) : options.inMillis = options := by
  simp only [ofJson?, Option.bind_eq_bind, Option.bind_eq_some_iff,
    Option.pure_def, Option.some.injEq] at read
  obtain ⟨fields, -, reuse, -, keep, -, backlog, -, timeout, found, limit, -,
    rfl⟩ := read
  have same : timeout.map Duration.inMillis = timeout := by
    rcases Json.fieldOr?_cases found with rfl | ⟨content, read⟩
    · rfl
    · unfold Json.toOption? at read
      split at read
      · obtain rfl := Option.some.inj read
        rfl
      · obtain ⟨duration, number, rfl⟩ := Option.map_eq_some_iff.mp read
        exact congrArg some (Duration.inMillis_of_ofJson? number)
  simp [inMillis, same]

end SocketOptions

namespace PoolSizes

theorem ofJson?_toJson (sizes : PoolSizes) : ofJson? sizes.toJson = some sizes := by
  have fields : sizes.toJson.fields? fieldNames = some _ :=
    fields?_ofMembers rfl (by decide)
  simp only [ofJson?, fields, fieldOr?, List.lookup_cons, String.reduceBEq,
    Option.bind_eq_bind, Option.bind_some, Option.pure_def, toUInt64?_ofNat]

theorem wellFormed_toJson (sizes : PoolSizes) : sizes.toJson.WellFormed := by
  refine wellFormed_ofMembers ?_
  simp [wellFormed_ofNat]

end PoolSizes

theorem PortSet.ofList_members (set : PortSet) : ofList set.members = set := by
  have same : ∀ ports : List Port, ports.Pairwise (· < ·) →
      (ofList ports).members = ports := by
    intro ports ascending
    induction ports with
    | nil => rfl
    | cons port ports induction =>
        obtain ⟨below, ascending⟩ := List.pairwise_cons.mp ascending
        have step : (ofList (port :: ports)).members =
            place port (ofList ports).members := rfl
        rw [step, induction ascending]
        cases ports with
        | nil => rfl
        | cons next ports => rw [place, if_pos (below next List.mem_cons_self)]
  obtain ⟨members, ascending⟩ := set
  have members := same members ascending
  generalize ofList _ = other at members
  obtain ⟨others, _⟩ := other
  subst members
  rfl

namespace PortAllocator

theorem toList?_array (ports : List Port) :
    (Json.array (ports.map fun port => .ofNat port.toNat)).toList? Json.toUInt16? =
      some ports := by
  rw [Json.toList?]
  induction ports with
  | nil => rfl
  | cons port ports induction =>
      simp [toUInt16?_ofNat, induction]

theorem plain_port (port : Port) : Json.Plain (.ofNat port.toNat) :=
  plain_ofNat (Nat.lt_trans port.toNat_lt (by decide))

theorem plain_count (n : UInt32) : Json.Plain (.ofNat n.toNat) :=
  plain_ofNat n.toNat_lt_size

theorem plain_ports (ports : List Port) :
    Json.Plain (.array (ports.map fun port => .ofNat port.toNat)) := by
  refine Json.plain_array ?_ ?_
  · rw [List.forall_mem_map]
    exact fun port _ => plain_port port
  · rw [List.forall_mem_map]
    exact fun _ _ => Nat.zero_le 0

theorem fields?_ports (ports : List Port) :
    (Json.ofMembers [("ports",
        .array (ports.map fun port => .ofNat port.toNat))]).fields? ["ports"] =
      some [("ports", .array (ports.map fun port => .ofNat port.toNat))] :=
  fields?_ofMembers rfl (by decide)

theorem ofJson?_toJson (allocator : PortAllocator) (outer : Nat)
    (within : outer + 2 ≤ Json.maxDepth) :
    ofJson? outer allocator.toJson = some allocator := by
  cases allocator with
  | range first count =>
      have tagged : (range first count).toJson.tagged? tagName outer = some _ :=
        tagged?_ofMembers ["begin", "count"] rfl (by decide)
          (by simp [plain_port, plain_count]) within
      have fields : (Json.ofMembers [("begin", .ofNat first.toNat),
          ("count", .ofNat count.toNat)]).fields? ["begin", "count"] = some _ :=
        fields?_ofMembers rfl (by decide)
      simp [ofJson?, tagged, fields, field?, List.lookup_cons, toUInt16?_ofNat,
        toUInt32?_ofNat]
  | list ports =>
      have tagged : (list ports).toJson.tagged? tagName outer = some _ :=
        tagged?_ofMembers ["ports"] rfl (by decide) (by simp [plain_ports]) within
      simp [ofJson?, tagged, fields?_ports, field?, toList?_array]
  | set ports =>
      have tagged : (set ports).toJson.tagged? tagName outer = some _ :=
        tagged?_ofMembers ["ports"] rfl (by decide) (by simp [plain_ports]) within
      simp [ofJson?, tagged, fields?_ports, field?, toList?_array,
        PortSet.ofList_members]

theorem wellFormed_toJson (allocator : PortAllocator) :
    allocator.toJson.WellFormed := by
  cases allocator <;> refine wellFormed_ofMembers ?_ <;>
    simp [Json.ofText, Json.WellFormed.string, wellFormed_ofNat,
      (plain_ports _).wellFormed]

end PortAllocator

namespace TransportConfig

def inMillis (config : TransportConfig) : TransportConfig :=
  { config with
    retry := config.retry.inMillis
    socket := config.socket.inMillis
    shutdownGrace := config.shutdownGrace.inMillis }

theorem ofJson?_toJson (config : TransportConfig) :
    ofJson? config.toJson = some config.inMillis := by
  have fields : config.toJson.fields? fieldNames = some _ :=
    fields?_ofMembers rfl (by decide)
  have allocator := config.portAllocator.ofJson?_toJson 1 (by decide)
  simp only [ofJson?, fields, fieldOr?, List.lookup_cons, String.reduceBEq,
    Option.bind_eq_bind, Option.bind_some, Option.pure_def, toUInt16?_ofNat,
    toOption?_ofText, RetryPolicy.ofJson?_toJson, SocketOptions.ofJson?_toJson,
    PoolSizes.ofJson?_toJson, Duration.ofJson?_toJson, allocator, Json.toBool?,
    inMillis]

theorem wellFormed_toJson (config : TransportConfig) :
    config.toJson.WellFormed := by
  refine wellFormed_ofMembers ?_
  simp [(plain_ofOption _).wellFormed, wellFormed_ofNat, Json.WellFormed.bool,
    Duration.toJson, RetryPolicy.wellFormed_toJson,
    SocketOptions.wellFormed_toJson, PoolSizes.wellFormed_toJson,
    PortAllocator.wellFormed_toJson]

theorem parse?_toText (config : TransportConfig) :
    parse? config.toJson.toText = some config.inMillis := by
  rw [parse?, Json.read_toText config.wellFormed_toJson, Option.bind_some,
    ofJson?_toJson]

theorem toJson_inMillis (config : TransportConfig) :
    config.inMillis.toJson = config.toJson := by
  simp only [toJson, inMillis, RetryPolicy.toJson_inMillis,
    SocketOptions.toJson_inMillis, Duration.toJson_inMillis]

/-- What was read can be written without loss. -/
theorem inMillis_of_parse? {text : String} {config : TransportConfig}
    (read : parse? text = some config) : config.inMillis = config := by
  obtain ⟨value, -, read⟩ := Option.bind_eq_some_iff.mp read
  simp only [ofJson?, Option.bind_eq_bind, Option.bind_eq_some_iff,
    Option.pure_def, Option.some.injEq] at read
  obtain ⟨fields, -, host, -, port, -, retry, policy, ordered, -, allocator, -,
    socket, options, pools, -, grace, duration, rfl⟩ := read
  have retry' : retry.inMillis = retry := by
    rcases Json.fieldOr?_cases policy with rfl | ⟨content, read⟩
    · rfl
    · exact RetryPolicy.inMillis_of_ofJson? read
  have socket' : socket.inMillis = socket := by
    rcases Json.fieldOr?_cases options with rfl | ⟨content, read⟩
    · rfl
    · exact SocketOptions.inMillis_of_ofJson? read
  have grace' : grace.inMillis = grace := by
    rcases Json.fieldOr?_cases duration with rfl | ⟨content, read⟩
    · rfl
    · exact Duration.inMillis_of_ofJson? read
  simp only [inMillis, retry', socket', grace']

end TransportConfig

namespace ResolverDescriptor

theorem ofJson?_toJson (descriptor : ResolverDescriptor) :
    ofJson? descriptor.toJson = some descriptor := by
  cases descriptor with
  | hostname =>
      have tagged : hostname.toJson.tagged? tagName 0 = some _ :=
        tagged?_ofMembers [] rfl (by decide) (by simp) (by decide)
      simp [ofJson?, tagged, isBare, Json.ofMembers]
  | loopback =>
      have tagged : loopback.toJson.tagged? tagName 0 = some _ :=
        tagged?_ofMembers [] rfl (by decide) (by simp) (by decide)
      simp [ofJson?, tagged, isBare, Json.ofMembers]
  | container host =>
      have tagged : (container host).toJson.tagged? tagName 0 = some _ :=
        tagged?_ofMembers ["host_address"] rfl (by decide)
          (by simp [plain_ofOption]) (by decide)
      have fields : (Json.ofMembers [("host_address",
          .ofOption (host.map .ofText))]).fields? ["host_address"] = some _ :=
        fields?_ofMembers rfl (by decide)
      have read : readContainer (.ofMembers [("host_address",
          .ofOption (host.map .ofText))]) =
        ((Json.ofMembers [("host_address",
          .ofOption (host.map .ofText))]).fields? ["host_address"]).bind
            fun fields => fieldOr? fields "host_address"
              (Json.toOption? Json.toText?) none := rfl
      simp [ofJson?, tagged, read, fields, fieldOr?, toOption?_ofText]

theorem wellFormed_toJson (descriptor : ResolverDescriptor) :
    descriptor.toJson.WellFormed := by
  cases descriptor <;> refine wellFormed_ofMembers ?_ <;>
    simp [Json.ofText, Json.WellFormed.string, (plain_ofOption _).wellFormed]

end ResolverDescriptor

/-- A configuration is read from its text with its durations cut to milliseconds,
which changes neither the text nor the verdict on the configuration.  So nothing is
lost of a configuration that was read before, and nothing ever of an allocator or of
the description of a resolver. -/
theorem TransportConfig.survives_json :
    (∀ config : TransportConfig,
      parse? config.toJson.toText = some config.inMillis ∧
      config.inMillis.toJson.toText = config.toJson.toText ∧
      config.inMillis.validate = config.validate) ∧
    (∀ (text : String) (config : TransportConfig), parse? text = some config →
      parse? config.toJson.toText = some config) ∧
    (∀ allocator : PortAllocator,
      PortAllocator.parse? allocator.toJson.toText = some allocator) ∧
    ∀ descriptor : ResolverDescriptor,
      ResolverDescriptor.parse? descriptor.toJson.toText = some descriptor := by
  refine ⟨fun config => ⟨config.parse?_toText, ?_, rfl⟩, ?_, ?_, ?_⟩
  · rw [toJson_inMillis]
  · intro text config read
    rw [parse?_toText, inMillis_of_parse? read]
  · intro allocator
    rw [PortAllocator.parse?, Json.read_toText allocator.wellFormed_toJson,
      Option.bind_some, PortAllocator.ofJson?_toJson _ 0 (by decide)]
  · intro descriptor
    rw [ResolverDescriptor.parse?, Json.read_toText descriptor.wellFormed_toJson,
      Option.bind_some, ResolverDescriptor.ofJson?_toJson]

/-- A configuration that was read from a text with few fields and many blanks. -/
theorem TransportConfig.survives_json_of_sparse :
    let text := "\x7b \"retry\": [1, 7], \"unknown\": 1e9, \"shutdown_grace_ms\":
      18446744073709551615 \x7d"
    let config : TransportConfig :=
      { default with
        retry := ⟨1, .ofMillis 7⟩
        shutdownGrace := .ofMillis 18446744073709551615 }
    parse? text = some config ∧ parse? config.toJson.toText = some config := by
  intro text config
  have read : parse? text = some config := by
    decide +kernel
  exact ⟨read, survives_json.2.1 text config read⟩

end RemoteMessaging
