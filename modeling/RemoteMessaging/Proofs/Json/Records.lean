import Mathlib.Data.List.Nodup
import Mathlib.Data.List.Perm.Basic
import RemoteMessaging.Json.Decode
import RemoteMessaging.Proofs.Addresses

/-!
# What JSON values mean

What a value means is said here without a reader: by the literal of a scalar, and by
the fields of a record.  A record is an object without a known key that occurs twice,
or an array that is not too long.  Neither the order of members matters, nor what
other members there are.
-/

namespace RemoteMessaging.Json

variable {α : Type}

/-- A reader gives exactly what a value means. -/
def Decodes (read : Json → Option α) (Means : Json → α → Prop) : Prop :=
  ∀ value content, read value = some content ↔ Means value content

variable {read : Json → Option α} {Means : Json → α → Prop}

/-! ## Scalars -/

/-- A literal in plain digits, of which the value is not above a limit. -/
inductive MeansNat (limit : Nat) : Json → Nat → Prop where
  | intro {digits : List Char} (within : digitsValue digits ≤ limit) :
      MeansNat limit (.number ⟨false, digits, none, none⟩) (digitsValue digits)

theorem MeansNat.le {limit n : Nat} {value : Json} (means : MeansNat limit value n) :
    n ≤ limit := by
  cases means with
  | intro within => exact within

theorem decodes_nat (limit : Nat) : Decodes (toNat? limit) (MeansNat limit) := by
  intro value n
  constructor
  · intro read
    cases value with
    | number literal =>
        obtain ⟨negative, whole, fraction, exponent⟩ := literal
        obtain ⟨value, plain, within⟩ := Option.bind_eq_some_iff.mp read
        cases negative with
        | true => cases plain
        | false =>
            cases fraction <;> cases exponent <;> cases plain
            split at within
            · rename_i small
              obtain rfl := Option.some.inj within
              exact .intro small
            · cases within
    | _ => cases read
  · rintro ⟨within⟩
    exact if_pos within

theorem decodes_map {limit : Nat} {ofNat : Nat → α} {toNat : α → Nat}
    (back : ∀ n ≤ limit, toNat (ofNat n) = n) (forth : ∀ x, ofNat (toNat x) = x) :
    Decodes (fun value => (value.toNat? limit).map ofNat)
      fun value x => MeansNat limit value (toNat x) := by
  intro value x
  rw [Option.map_eq_some_iff]
  constructor
  · rintro ⟨n, read, rfl⟩
    have means := (decodes_nat limit value n).mp read
    rwa [back n means.le]
  · intro means
    exact ⟨toNat x, (decodes_nat limit value _).mpr means, forth x⟩

def MeansUInt16 (value : Json) (n : UInt16) : Prop :=
  MeansNat (UInt16.size - 1) value n.toNat

def MeansUInt32 (value : Json) (n : UInt32) : Prop :=
  MeansNat (UInt32.size - 1) value n.toNat

def MeansUInt64 (value : Json) (n : UInt64) : Prop :=
  MeansNat (UInt64.size - 1) value n.toNat

theorem decodes_uint16 : Decodes toUInt16? MeansUInt16 := by
  refine decodes_map (fun n small => ?_) fun _ => UInt16.ofNat_toNat
  exact UInt16.toNat_ofNat_of_lt (Nat.lt_of_le_pred (by decide) small)

theorem decodes_uint32 : Decodes toUInt32? MeansUInt32 := by
  refine decodes_map (fun n small => ?_) fun _ => UInt32.ofNat_toNat
  exact UInt32.toNat_ofNat_of_lt (Nat.lt_of_le_pred (by decide) small)

theorem decodes_uint64 : Decodes toUInt64? MeansUInt64 := by
  refine decodes_map (fun n small => ?_) fun _ => UInt64.ofNat_toNat
  exact UInt64.toNat_ofNat_of_lt (Nat.lt_of_le_pred (by decide) small)

inductive MeansBool : Json → Bool → Prop where
  | intro (content : Bool) : MeansBool (.bool content) content

theorem decodes_bool : Decodes toBool? MeansBool := by
  intro value content
  constructor
  · intro read
    cases value <;> cases read
    exact .intro content
  · rintro ⟨⟩
    rfl

inductive MeansText : Json → String → Prop where
  | intro (content : String) : MeansText (.ofText content) content

theorem decodes_text : Decodes toText? MeansText := by
  intro value content
  constructor
  · intro read
    cases value with
    | string text =>
        obtain rfl : text = some content := read
        exact .intro content
    | _ => cases read
  · rintro ⟨⟩
    rfl

/-- Null means nothing, every other value what it means by itself. -/
inductive MeansOption (Means : Json → α → Prop) : Json → Option α → Prop where
  | none : MeansOption Means .null none
  | some {value : Json} {content : α} (present : value ≠ .null)
      (means : Means value content) : MeansOption Means value (some content)

theorem Decodes.option (decodes : Decodes read Means) :
    Decodes (toOption? read) (MeansOption Means) := by
  intro value content
  by_cases present : value = .null
  · subst present
    constructor
    · rintro ⟨⟩
      exact .none
    · rintro ⟨⟩
      · rfl
      · contradiction
  · have same : value.toOption? read = (read value).map some := by
      cases value <;> first | contradiction | rfl
    rw [same, Option.map_eq_some_iff]
    constructor
    · rintro ⟨content, means, rfl⟩
      exact .some present ((decodes _ _).mp means)
    · rintro (⟨⟩ | ⟨-, means⟩)
      · contradiction
      · exact ⟨_, (decodes _ _).mpr means, rfl⟩

/-- The items of an array mean these values, one by one. -/
inductive MeansList (Means : Json → α → Prop) : Json → List α → Prop where
  | intro {items : List Json} {contents : List α}
      (each : List.Forall₂ Means items contents) :
      MeansList Means (.array items) contents

theorem Decodes.list (decodes : Decodes read Means) :
    Decodes (toList? read) (MeansList Means) := by
  intro value contents
  constructor
  · intro known
    cases value with
    | array items =>
        have each := Text.mapM_eq_some_iff.mp known
        exact .intro (each.imp fun item content => (decodes item content).mp)
    | _ => cases known
  · rintro ⟨each⟩
    exact Text.mapM_eq_some_iff.mpr
      (each.imp fun item content => (decodes item content).mpr)

/-! ## Records -/

section Records

variable {names : List String} {members fields : List (String × Json)}
variable {name : String} {value : Json} {content default : α}

def known (names : List String) (members : List (String × Json)) :
    List (String × Json) :=
  members.filter fun member => member.1 ∈ names

def Repeated (names : List String) (members : List (String × Json)) : Prop :=
  ∃ name ∈ names, 1 < (members.map Prod.fst).count name

/-- The fields of a record that are present, by name. -/
inductive Record (names : List String) : Json → List (String × Json) → Prop where
  | object {members : List (String × Json)} (sound : ¬ Repeated names members) :
      Record names (.ofMembers members) (known names members)
  | array {items : List Json} (few : items.length ≤ names.length) :
      Record names (.array items) (names.zip items)

theorem keys_known (names : List String) (members : List (String × Json)) :
    (known names members).map Prod.fst =
      (members.map Prod.fst).filter (· ∈ names) := by
  rw [List.filter_map]
  rfl

theorem nodup_known_iff :
    ((known names members).map Prod.fst).Nodup ↔ ¬ Repeated names members := by
  rw [keys_known, List.nodup_iff_count_le_one]
  constructor
  · rintro once ⟨name, isKnown, twice⟩
    have count := once name
    rw [List.count_filter (by simpa using isKnown)] at count
    omega
  · intro sound name
    by_cases isKnown : name ∈ names
    · rw [List.count_filter (by simpa using isKnown)]
      exact Nat.le_of_not_lt fun twice => sound ⟨name, isKnown, twice⟩
    · rw [List.count_eq_zero_of_not_mem (by simp [isKnown])]
      exact Nat.zero_le 1

theorem lookup_eq_none_iff_notMem :
    members.lookup name = none ↔ name ∉ members.map Prod.fst := by
  rw [List.lookup_eq_none_iff]
  constructor
  · intro other member
    obtain ⟨found, isMember, rfl⟩ := List.mem_map.mp member
    simpa using other found isMember
  · intro absent member isMember
    rw [bne_iff_ne]
    rintro rfl
    exact absent (List.mem_map_of_mem isMember)

/-- The members that are read are the known ones, unless a known key is repeated. -/
theorem knownMembers_eq_some_iff :
    knownMembers names (members.map fun member => (some member.1, member.2)) =
        some fields ↔
      ¬ Repeated names members ∧ fields = known names members := by
  rw [← nodup_known_iff]
  induction members generalizing fields with
  | nil => simp [knownMembers, known, eq_comm]
  | cons member members induction =>
      obtain ⟨key, value⟩ := member
      rw [List.map_cons, knownMembers, Option.bind_eq_bind, Option.bind_eq_some_iff]
      simp only [induction]
      by_cases isKnown : key ∈ names
      · have here : known names ((key, value) :: members) =
            (key, value) :: known names members :=
          List.filter_cons_of_pos (by simpa using isKnown)
        simp only [here, List.map_cons, List.nodup_cons, ← lookup_eq_none_iff_notMem]
        cases found : (known names members).lookup key <;>
          simp [found, isKnown, eq_comm]
      · have there : known names ((key, value) :: members) = known names members :=
          List.filter_cons_of_neg (by simpa using isKnown)
        simp [there, isKnown, eq_comm]

theorem exists_texts {members : List (Option String × Json)}
    (each : ∀ member ∈ members, member.1.isSome) :
    ∃ texts : List (String × Json),
      members = texts.map fun member => (some member.1, member.2) := by
  induction members with
  | nil => exact ⟨[], rfl⟩
  | cons member members induction =>
      obtain ⟨key, value⟩ := member
      obtain ⟨first, others⟩ := List.forall_mem_cons.mp each
      obtain ⟨key, rfl⟩ := Option.isSome_iff_exists.mp first
      obtain ⟨texts, rfl⟩ := induction others
      exact ⟨(key, value) :: texts, rfl⟩

theorem isSome_of_knownMembers {members : List (Option String × Json)}
    (read : knownMembers names members = some fields) :
    ∀ member ∈ members, member.1.isSome := by
  induction members generalizing fields with
  | nil => exact fun _ member => nomatch member
  | cons member members induction =>
      obtain ⟨key, value⟩ := member
      cases key with
      | none => cases read
      | some key =>
          obtain ⟨others, read, -⟩ := Option.bind_eq_some_iff.mp read
          exact List.forall_mem_cons.mpr ⟨rfl, induction read⟩

theorem decodes_record (names : List String) :
    Decodes (fields? names) (Record names) := by
  intro value fields
  constructor
  · intro read
    cases value with
    | object members =>
        obtain ⟨texts, rfl⟩ := exists_texts (isSome_of_knownMembers read)
        obtain ⟨sound, rfl⟩ := knownMembers_eq_some_iff.mp read
        exact .object sound
    | array items =>
        rw [fields?] at read
        split at read
        · rename_i few
          obtain rfl := Option.some.inj read
          exact .array few
        · cases read
    | _ => cases read
  · intro record
    cases record with
    | object sound => exact knownMembers_eq_some_iff.mpr ⟨sound, rfl⟩
    | array few => exact if_pos few

theorem Record.nodup (distinct : names.Nodup) (record : Record names value fields) :
    (fields.map Prod.fst).Nodup := by
  cases record with
  | object sound => exact nodup_known_iff.mpr sound
  | @array items few =>
      refine distinct.sublist ?_
      clear few distinct
      induction names generalizing items with
      | nil => exact List.Sublist.refl []
      | cons name names induction =>
          cases items with
          | nil => exact List.nil_sublist _
          | cons item items => exact List.Sublist.cons_cons name induction

theorem record_ofMembers_iff :
    Record names (.ofMembers members) fields ↔
      ¬ Repeated names members ∧ fields = known names members :=
  (decodes_record names _ _).symm.trans knownMembers_eq_some_iff

/-! ### Fields -/

/-- A field is present and means something. -/
def Present (fields : List (String × Json)) (name : String)
    (Means : Json → α → Prop) (content : α) : Prop :=
  ∃ value, (name, value) ∈ fields ∧ Means value content

/-- A field means something if it is present, and keeps its default otherwise. -/
def Overrides (fields : List (String × Json)) (name : String)
    (Means : Json → α → Prop) (default content : α) : Prop :=
  Present fields name Means content ∨
    name ∉ fields.map Prod.fst ∧ content = default

theorem lookup_eq_some_iff_mem (distinct : (fields.map Prod.fst).Nodup) :
    fields.lookup name = some value ↔ (name, value) ∈ fields := by
  induction fields with
  | nil => simp
  | cons field fields induction =>
      obtain ⟨key, content⟩ := field
      obtain ⟨new, distinct⟩ := List.nodup_cons.mp distinct
      rw [List.lookup_cons, List.mem_cons]
      by_cases same : name = key
      · subst same
        have others : (name, value) ∉ fields := fun member =>
          new (List.mem_map.mpr ⟨_, member, rfl⟩)
        simp [others, eq_comm]
      · have other : (name == key) = false := beq_false_of_ne same
        simp [other, same, induction distinct]

theorem Decodes.field (decodes : Decodes read Means)
    (distinct : (fields.map Prod.fst).Nodup) :
    field? fields name read = some content ↔ Present fields name Means content := by
  simp only [field?, Option.bind_eq_some_iff, lookup_eq_some_iff_mem distinct,
    decodes _ content, Present]

theorem Decodes.fieldOr (decodes : Decodes read Means)
    (distinct : (fields.map Prod.fst).Nodup) :
    fieldOr? fields name read default = some content ↔
      Overrides fields name Means default content := by
  rw [Overrides, ← decodes.field distinct, field?, fieldOr?,
    ← lookup_eq_none_iff_notMem]
  cases fields.lookup name with
  | none => simp [eq_comm]
  | some value => simp

def HasMeaning (Means : Json → α → Prop) (value : Json) : Prop :=
  ∃ content, Means value content

/-- The value of a member suits the field of its name, if there is such a field. -/
def Fits (table : List (String × (Json → Prop))) (member : String × Json) : Prop :=
  ∀ field ∈ table, member.1 = field.1 → field.2 member.2

theorem Overrides.hasMeaning (distinct : (fields.map Prod.fst).Nodup)
    (overrides : Overrides fields name Means default content)
    {field : String × Json} (found : field ∈ fields) (here : field.1 = name) :
    HasMeaning Means field.2 := by
  subst here
  rcases overrides with ⟨value, member, means⟩ | ⟨absent, -⟩
  · have same := ((lookup_eq_some_iff_mem distinct).mpr member).symm.trans
      ((lookup_eq_some_iff_mem distinct).mpr found)
    exact ⟨content, Option.some.inj same ▸ means⟩
  · exact absurd (List.mem_map_of_mem found) absent

theorem exists_overrides
    (each : ∀ field ∈ fields, field.1 = name → HasMeaning Means field.2) :
    ∃ content, Overrides fields name Means default content := by
  by_cases present : name ∈ fields.map Prod.fst
  · obtain ⟨field, found, rfl⟩ := List.mem_map.mp present
    obtain ⟨content, means⟩ := each field found rfl
    exact ⟨content, .inl ⟨field.2, found, means⟩⟩
  · exact ⟨default, .inr ⟨present, rfl⟩⟩

/-! ### Contents -/

/-- What the fields of a record mean together. -/
def MeansRecord (names : List String) (Content : List (String × Json) → α → Prop)
    (value : Json) (content : α) : Prop :=
  ∃ fields, Record names value fields ∧ Content fields content

variable {Content : List (String × Json) → α → Prop}

theorem Decodes.record (distinct : names.Nodup)
    {build : List (String × Json) → Option α}
    (each : ∀ fields : List (String × Json), (fields.map Prod.fst).Nodup →
      ∀ content, build fields = some content ↔ Content fields content) :
    Decodes (fun value => (value.fields? names).bind build)
      (MeansRecord names Content) := by
  intro value content
  rw [Option.bind_eq_some_iff]
  refine exists_congr fun fields => ?_
  rw [decodes_record names value fields]
  exact and_congr_right fun record => each fields (record.nodup distinct) content

theorem meansRecord_ofMembers_iff :
    MeansRecord names Content (.ofMembers members) content ↔
      ¬ Repeated names members ∧ Content (known names members) content := by
  simp [MeansRecord, record_ofMembers_iff, and_assoc]

theorem hasMeaning_ofMembers_iff {table : List (String × (Json → Prop))}
    (each : ∀ fields : List (String × Json), (fields.map Prod.fst).Nodup →
      ((∃ content, Content fields content) ↔ ∀ member ∈ fields, Fits table member)) :
    HasMeaning (MeansRecord names Content) (.ofMembers members) ↔
      ¬ Repeated names members ∧ ∀ member ∈ known names members, Fits table member := by
  simp only [HasMeaning, meansRecord_ofMembers_iff, exists_and_left]
  exact and_congr_right fun sound => each _ (nodup_known_iff.mpr sound)

/-! ### Order -/

variable {members' fields' : List (String × Json)} {value' : Json}
variable {Same : String → Json → Json → Prop}

/-- The same fields in another order, where values may be replaced by others that say
the same to a field of this name. -/
def Rearranged (Same : String → Json → Json → Prop) :
    List (String × Json) → List (String × Json) → Prop :=
  Relation.Comp List.Perm
    (List.Forall₂ fun field field' =>
      field.1 = field'.1 ∧ Same field.1 field.2 field'.2)

theorem Rearranged.symm
    (back : ∀ name value value', Same name value value' → Same name value' value)
    (same : Rearranged Same fields fields') : Rearranged Same fields' fields := by
  obtain ⟨permuted, permutation, each⟩ := same
  have flipped := each.imp fun field field' ⟨key, value⟩ =>
    And.intro key.symm (back _ _ _ (key ▸ value))
  rw [Rearranged, ← List.forall₂_comp_perm_eq_perm_comp_forall₂]
  exact ⟨permuted, flipped.flip, permutation.symm⟩

theorem Rearranged.of_perm (permuted : fields.Perm fields') :
    Rearranged (fun _ => (· = ·)) fields fields' :=
  ⟨fields', permuted, List.forall₂_same.mpr fun _ _ => ⟨rfl, rfl⟩⟩

theorem Rearranged.keys (same : Rearranged Same fields fields') :
    (fields.map Prod.fst).Perm (fields'.map Prod.fst) := by
  obtain ⟨permuted, permutation, each⟩ := same
  have keys : List.Forall₂ (· = ·) (permuted.map Prod.fst) (fields'.map Prod.fst) :=
    List.forall₂_map_left_iff.mpr
      (List.forall₂_map_right_iff.mpr (each.imp fun _ _ => And.left))
  rw [List.forall₂_eq_eq_eq] at keys
  exact keys ▸ permutation.map Prod.fst

theorem Rearranged.mem (same : Rearranged Same fields fields')
    (found : (name, value) ∈ fields) :
    ∃ value', (name, value') ∈ fields' ∧ Same name value value' := by
  obtain ⟨permuted, permutation, each⟩ := same
  have found := permutation.mem_iff.mp found
  clear permutation
  induction each with
  | nil => cases found
  | cons first others induction =>
      rcases List.mem_cons.mp found with rfl | found
      · obtain ⟨rfl, same⟩ := first
        exact ⟨_, List.mem_cons_self, same⟩
      · obtain ⟨value', member, same⟩ := induction found
        exact ⟨value', List.mem_cons_of_mem _ member, same⟩

theorem Present.rearranged (present : Present fields name Means content)
    (same : Rearranged Same fields fields')
    (keeps : ∀ value value', Same name value value' →
      Means value content → Means value' content) :
    Present fields' name Means content := by
  obtain ⟨value, found, means⟩ := present
  obtain ⟨value', found', said⟩ := same.mem found
  exact ⟨value', found', keeps value value' said means⟩

theorem Overrides.rearranged (overrides : Overrides fields name Means default content)
    (same : Rearranged Same fields fields')
    (keeps : ∀ value value', Same name value value' →
      Means value content → Means value' content) :
    Overrides fields' name Means default content := by
  refine overrides.imp (·.rearranged same keeps) (And.imp_left fun absent found => ?_)
  exact absent (same.keys.mem_iff.mpr found)

theorem Present.perm (present : Present fields name Means content)
    (permuted : fields.Perm fields') : Present fields' name Means content :=
  present.rearranged (.of_perm permuted) fun _ _ same means => same ▸ means

theorem Overrides.perm (overrides : Overrides fields name Means default content)
    (permuted : fields.Perm fields') : Overrides fields' name Means default content :=
  overrides.rearranged (.of_perm permuted) fun _ _ same means => same ▸ means

/-- Two values are the same up to the order of members and to unknown members. -/
inductive SameRecord (names : List String) : Json → Json → Prop where
  | refl (value : Json) : SameRecord names value value
  | object {members members' : List (String × Json)}
      (permuted : (known names members).Perm (known names members')) :
      SameRecord names (.ofMembers members) (.ofMembers members')

theorem SameRecord.symm (same : SameRecord names value value') :
    SameRecord names value' value := by
  cases same with
  | refl => exact .refl value
  | object permuted => exact .object permuted.symm

theorem repeated_iff_of_perm
    (keys : ((known names members).map Prod.fst).Perm
      ((known names members').map Prod.fst)) :
    Repeated names members ↔ Repeated names members' := by
  rw [← not_iff_not, ← nodup_known_iff, ← nodup_known_iff, keys.nodup_iff]

theorem SameRecord.means (same : SameRecord names value value')
    (invariant : ∀ fields fields', List.Perm fields fields' →
      Content fields content → Content fields' content)
    (means : MeansRecord names Content value content) :
    MeansRecord names Content value' content := by
  cases same with
  | refl => exact means
  | object permuted =>
      rw [meansRecord_ofMembers_iff] at means ⊢
      rw [← repeated_iff_of_perm (permuted.map Prod.fst)]
      exact means.imp_right (invariant _ _ permuted)

end Records

/-! ## Tagged values -/

/-- All of a value has a meaning, and it is not too deep inside the containers around
it. -/
structure Sound (outer : Nat) (value : Json) : Prop where
  meaningful : value.isMeaningful = true
  shallow : outer + value.depth ≤ maxDepth

/-- A value is tagged with a name, and this is the rest of it without the tag. -/
inductive Tagged (tag : String) : Json → String → Json → Prop where
  | object {members : List (String × Json)} {name : String}
      (once : members.filter (·.1 = tag) = [(tag, ofText name)]) :
      Tagged tag (.ofMembers members) name (.ofMembers (members.filter (·.1 ≠ tag)))
  | array (name : String) (items : List Json) :
      Tagged tag (.array (.ofText name :: items)) name (.array items)

theorem areMeaningful_eq_all (items : List Json) :
    areMeaningful items = items.all isMeaningful := by
  induction items with
  | nil => rfl
  | cons item items induction => rw [areMeaningful, induction, List.all_cons]

theorem areMeaningfulMembers_eq_all (members : List (Option String × Json)) :
    areMeaningfulMembers members =
      members.all fun member => member.1.isSome && member.2.isMeaningful := by
  induction members with
  | nil => rfl
  | cons member members induction =>
      rw [areMeaningfulMembers, induction, List.all_cons]

theorem isSome_of_areMeaningfulMembers {members : List (Option String × Json)}
    (meaningful : areMeaningfulMembers members = true) :
    ∀ member ∈ members, member.1.isSome := by
  rw [areMeaningfulMembers_eq_all, List.all_eq_true] at meaningful
  exact fun member found => (Bool.and_eq_true_iff.mp (meaningful member found)).1

theorem filter_texts_eq (tag : String) (members : List (String × Json)) :
    (members.map fun member => (some member.1, member.2)).filter (·.1 = some tag) =
      (members.filter (·.1 = tag)).map fun member => (some member.1, member.2) := by
  rw [List.filter_map]
  simp only [Function.comp_def, Option.some.injEq]

theorem filter_texts_ne (tag : String) (members : List (String × Json)) :
    (members.map fun member => (some member.1, member.2)).filter (·.1 ≠ some tag) =
      (members.filter (·.1 ≠ tag)).map fun member => (some member.1, member.2) := by
  rw [List.filter_map]
  simp only [Function.comp_def, ne_eq, Option.some.injEq]

theorem tagged?_eq_some_iff {tag : String} {outer : Nat} {value : Json}
    {name : String} {rest : Json} :
    value.tagged? tag outer = some (name, rest) ↔
      Sound outer value ∧ Tagged tag value name rest := by
  by_cases unsound : value.isMeaningful = false ∨ maxDepth < outer + value.depth
  · have other : ¬ Sound outer value := fun sound =>
      unsound.elim (by simp [sound.meaningful]) (Nat.not_lt.mpr sound.shallow)
    simp [tagged?, unsound, other]
  obtain ⟨meaningful, shallow⟩ := not_or.mp unsound
  rw [Bool.not_eq_false] at meaningful
  rw [tagged?.eq_def, if_neg unsound,
    and_iff_right ⟨meaningful, Nat.not_lt.mp shallow⟩]
  constructor
  · intro read
    cases value with
    | array items =>
        cases items with
        | nil => cases read
        | cons item items =>
            cases item with
            | string content =>
                cases content with
                | none => cases read
                | some name =>
                    cases read
                    exact .array name items
            | _ => cases read
    | object members =>
        obtain ⟨members, rfl⟩ :=
          exists_texts (isSome_of_areMeaningfulMembers meaningful)
        dsimp only at read
        split at read
        · rename_i key name once
          cases read
          rw [filter_texts_eq, List.map_eq_singleton_iff] at once
          obtain ⟨⟨tag', value⟩, once, same⟩ := once
          obtain ⟨-, rfl⟩ := Prod.mk.inj same
          have found : (tag', _) ∈ members.filter (·.1 = tag) :=
            once ▸ List.mem_singleton_self _
          obtain rfl : tag' = tag := by simpa using (List.mem_filter.mp found).2
          rw [filter_texts_ne]
          exact .object once
        · cases read
    | _ => cases read
  · intro tagged
    cases tagged with
    | array name items => rfl
    | object once =>
        simp only [ofMembers, filter_texts_eq, filter_texts_ne, once]
        rfl

end RemoteMessaging.Json
