import RemoteMessaging.Proofs.Cutting
import RemoteMessaging.Proofs.Utf8
import RemoteMessaging.Resolver.History

/-!
# The address that a container keeps

A container's resolver reads its file at every request, until one shows an address.
That address it gives from then on, whatever happens to the file.
-/

namespace RemoteMessaging

namespace PathSource

variable {source : PathSource} {environment : Environment} {around : Surroundings}
variable {path address detail : String}

/-- A path to the file is set. -/
inductive Leads : PathSource → Environment → String → Prop where
  | named {name path : String} {environment : Environment}
      (set : environment.value? name = some path) (filled : path ≠ "") :
      Leads (.variable name) environment path
  | fixed (path : String) (environment : Environment) :
      Leads (.fixed path) environment path

/-- The path leads to a regular file, which is read as a text that is not blank. -/
inductive Shows (source : PathSource) (around : Surroundings) : String → Prop where
  | intro {path address : String} {text : List Char}
      (leads : source.Leads around.environment path)
      (holds : around.files.content? path = some (.ok (Text.utf8 text)))
      (trimmed : Text.Trimmed text address.toList) (filled : address ≠ "") :
      Shows source around address

/-- Why no address can be read, in the order in which this is found out. -/
inductive Fails (source : PathSource) (around : Surroundings) : String → Prop where
  | unset {name : String} (named : source = .variable name)
      (unset : around.environment.value? name = none ∨
        around.environment.value? name = some "") :
      Fails source around s!"environment variable must be set for {name}"
  | irregular {path : String} (leads : source.Leads around.environment path)
      (irregular : around.files.content? path = none) :
      Fails source around s!"host address path points to invalid file: {path}"
  | unreadable {path : String} {error : IoError}
      (leads : source.Leads around.environment path)
      (unreadable : around.files.content? path = some (.error error)) :
      Fails source around s!"cannot read {path}: {error.message}"
  | foreign {path : String} {bytes : List UInt8}
      (leads : source.Leads around.environment path)
      (holds : around.files.content? path = some (.ok bytes))
      (foreign : ∀ text, bytes ≠ Text.utf8 text) :
      Fails source around s!"cannot read {path}: stream did not contain valid UTF-8"
  | blank {path : String} {text : List Char}
      (leads : source.Leads around.environment path)
      (holds : around.files.content? path = some (.ok (Text.utf8 text)))
      (blank : Text.Trimmed text []) :
      Fails source around s!"host address file {path} is empty"

theorem path_of_leads (leads : source.Leads environment path) :
    source.path environment = .ok path := by
  cases leads with
  | fixed => rfl
  | named set filled => simp [PathSource.path, set, filled]

theorem path_of_unset {name : String}
    (unset : environment.value? name = none ∨ environment.value? name = some "") :
    (PathSource.variable name).path environment =
      .error (.configuration s!"environment variable must be set for {name}") := by
  rcases unset with unset | unset <;> simp [PathSource.path, unset, path.missing]

theorem leads_or_unset (source : PathSource) (environment : Environment) :
    (∃ path, source.Leads environment path) ∨
      ∃ name, source = .variable name ∧ (environment.value? name = none ∨
        environment.value? name = some "") := by
  rcases source with name | path
  · cases value : environment.value? name with
    | none => exact .inr ⟨name, rfl, .inl value⟩
    | some path =>
        by_cases empty : path = ""
        · exact .inr ⟨name, rfl, .inr (empty ▸ value)⟩
        · exact .inl ⟨path, .named value empty⟩
  · exact .inl ⟨path, .fixed path environment⟩

/-- Either an address is shown, or there is a reason why none is. -/
theorem shows_or_fails (source : PathSource) (around : Surroundings) :
    (∃ address, source.Shows around address) ∨
      ∃ detail, source.Fails around detail := by
  rcases source.leads_or_unset around.environment with
    ⟨path, leads⟩ | ⟨name, named, unset⟩
  · cases holds : around.files.content? path with
    | none => exact .inr ⟨_, .irregular leads holds⟩
    | some content =>
        cases content with
        | error error => exact .inr ⟨_, .unreadable leads holds⟩
        | ok bytes =>
            by_cases decoded : ∃ text, bytes = Text.utf8 text
            · obtain ⟨text, rfl⟩ := decoded
              by_cases blank : Text.trim text = []
              · exact .inr ⟨_, .blank leads holds (Text.trim_eq_iff.mp blank)⟩
              · refine .inl ⟨String.ofList (Text.trim text), .intro leads holds ?_ ?_⟩
                · rw [String.toList_ofList]
                  exact Text.trimmed_trim text
                · simpa using blank
            · exact .inr ⟨_, .foreign leads holds (not_exists.mp decoded)⟩
  · exact .inr ⟨_, .unset named unset⟩

end PathSource

namespace Resolver

variable {source : PathSource} {around : Surroundings} {path address detail : String}

theorem resolve_of_leads (leads : source.Leads around.environment path) :
    (container source none).resolve around =
      ((around.files.readAddress path),
        match around.files.readAddress path with
        | .ok address => .container source (some address)
        | .error _ => .container source none) := by
  rw [resolve, PathSource.path_of_leads leads]
  simp only
  cases around.files.readAddress path <;> rfl

theorem resolve_of_shows (shows : source.Shows around address) :
    (container source none).resolve around =
      (.ok address, .container source (some address)) := by
  cases shows with
  | intro leads holds trimmed filled =>
      have nonempty : address.toList ≠ [] := by simpa using filled
      rw [resolve_of_leads leads, FileSystem.readAddress, holds]
      simp only [Text.decodeUtf8_utf8, trimmed.trim]
      obtain ⟨c, rest, same⟩ := List.exists_cons_of_ne_nil nonempty
      rw [same]
      simp only [← same, String.ofList_toList]

theorem resolve_of_fails (fails : source.Fails around detail) :
    (container source none).resolve around =
      (.error (.configuration detail), .container source none) := by
  cases fails with
  | unset named unset =>
      subst named
      rw [resolve, PathSource.path_of_unset unset]
  | irregular leads irregular =>
      rw [resolve_of_leads leads, FileSystem.readAddress, irregular]
  | unreadable leads unreadable =>
      rw [resolve_of_leads leads, FileSystem.readAddress, unreadable]
  | @foreign path bytes leads holds foreign =>
      rw [resolve_of_leads leads, FileSystem.readAddress, holds]
      cases decoded : Text.decodeUtf8 bytes with
      | error fault => simp only [decoded]
      | ok text => exact absurd (Text.decodeUtf8_eq_ok_iff.mp decoded) (foreign text)
  | blank leads holds blank =>
      rw [resolve_of_leads leads, FileSystem.readAddress, holds]
      simp only [Text.decodeUtf8_utf8, blank.trim]

theorem shows_unique {other : String} (shows : source.Shows around address)
    (shows' : source.Shows around other) : address = other :=
  Except.ok.inj (congrArg Prod.fst
    ((resolve_of_shows shows).symm.trans (resolve_of_shows shows')))

theorem not_shows_of_fails (fails : source.Fails around detail) (address : String) :
    ¬ source.Shows around address := by
  intro shows
  cases (resolve_of_fails fails).symm.trans (resolve_of_shows shows)

end Resolver

namespace PathSource

variable {source : PathSource} {around : Surroundings} {looks : List Surroundings}
variable {address : String}

def ShowsNothing (source : PathSource) (looks : List Surroundings) : Prop :=
  ∀ around ∈ looks, ∀ address, ¬ source.Shows around address

/-- An address is the first that is shown. -/
inductive ShowsFirst (source : PathSource) : List Surroundings → String → Prop where
  | here {around : Surroundings} {address : String}
      (shows : source.Shows around address) (later : List Surroundings) :
      ShowsFirst source (around :: later) address
  | later {around : Surroundings} {looks : List Surroundings} {address : String}
      (hidden : ∀ address, ¬ source.Shows around address)
      (rest : ShowsFirst source looks address) :
      ShowsFirst source (around :: looks) address

theorem ShowsFirst.unique {other : String} (first : source.ShowsFirst looks address)
    (first' : source.ShowsFirst looks other) : address = other := by
  induction first with
  | here shows later =>
      cases first' with
      | here shows' => exact Resolver.shows_unique shows shows'
      | later hidden => exact (hidden _ shows).elim
  | later hidden rest induction =>
      cases first' with
      | here shows' => exact (hidden _ shows').elim
      | later _ rest' => exact induction rest'

theorem ShowsFirst.not_showsNothing (first : source.ShowsFirst looks address) :
    ¬ source.ShowsNothing looks := by
  intro nothing
  induction first with
  | here shows later => exact nothing _ List.mem_cons_self _ shows
  | later hidden rest induction =>
      exact induction (List.forall_mem_cons.mp nothing).2

end PathSource

namespace Resolver

theorem after_append (resolver : Resolver) (calls later : List Call) :
    resolver.after (calls ++ later) = (resolver.after calls).after later :=
  List.foldl_append

theorem looks_append (calls later : List Call) :
    looks (calls ++ later) = looks calls ++ looks later :=
  List.filterMap_append

theorem after_of_resolve {resolver : Resolver}
    (same : ∀ around, (resolver.resolve around).2 = resolver) (calls : List Call) :
    resolver.after calls = resolver := by
  induction calls with
  | nil => rfl
  | cons call calls induction =>
      have stays : (resolver.answer call).2 = resolver := by
        obtain ⟨request, around⟩ := call
        cases request with
        | resolve => exact same around
        | describe => rfl
      exact (congrArg (·.after calls) stays).trans induction

theorem after_of_kept (source : PathSource) (address : String) (calls : List Call) :
    (container source (some address)).after calls =
      .container source (some address) :=
  after_of_resolve (fun _ => rfl) calls

/-- As long as nothing is shown nothing is kept; then the first address is. -/
theorem after_cases (source : PathSource) (calls : List Call) :
    source.ShowsNothing (looks calls) ∧
        (container source none).after calls = .container source none ∨
      ∃ address, source.ShowsFirst (looks calls) address ∧
        (container source none).after calls = .container source (some address) := by
  induction calls with
  | nil => exact .inl ⟨fun _ nobody => (List.not_mem_nil nobody).elim, rfl⟩
  | cons call calls induction =>
      obtain ⟨request, around⟩ := call
      cases request with
      | describe => exact induction
      | resolve =>
          have next : (container source none).after (⟨.resolve, around⟩ :: calls) =
              ((container source none).resolve around).2.after calls := rfl
          rw [next]
          rcases source.shows_or_fails around with ⟨address, shows⟩ | ⟨detail, fails⟩
          · rw [resolve_of_shows shows]
            exact .inr ⟨address, .here shows _, after_of_kept source address calls⟩
          · have hidden := not_shows_of_fails fails
            rw [resolve_of_fails fails]
            rcases induction with ⟨nothing, fresh⟩ | ⟨address, first, kept⟩
            · exact .inl ⟨List.forall_mem_cons.mpr ⟨hidden, nothing⟩, fresh⟩
            · exact .inr ⟨address, .later hidden first, kept⟩

/-- What is kept is the first address that was shown. -/
theorem after_eq_kept_iff {source : PathSource} {calls : List Call} {address : String} :
    (container source none).after calls = .container source (some address) ↔
      source.ShowsFirst (looks calls) address := by
  rcases after_cases source calls with ⟨nothing, same⟩ | ⟨found, first, same⟩
  · rw [same]
    exact iff_of_false (by simp) fun first => first.not_showsNothing nothing
  · rw [same]
    constructor
    · rintro ⟨⟩
      exact first
    · intro first'
      rw [first.unique first']

theorem after_filter (resolver : Resolver) (calls : List Call) :
    resolver.after (calls.filter fun call => call.request = .resolve) =
      resolver.after calls := by
  induction calls generalizing resolver with
  | nil => rfl
  | cons call calls induction =>
      obtain ⟨request, around⟩ := call
      cases request with
      | resolve => exact induction _
      | describe => exact induction resolver

/-- Over any requests, and whatever happens to the environment and the files in
between, a container's resolver keeps nothing until it finds an address.  Until then
each request to resolve reads again and tells what it finds; from then on each gives
the address that was found first.  Descriptions do not matter. -/
theorem keeps_first_address (source : PathSource) (calls : List Call)
    (around : Surroundings) :
    let resolver := (container source none).after calls
    (source.ShowsNothing (looks calls) ∧ resolver = .container source none ∧
        ((∃ detail, source.Fails around detail ∧
            (∀ address, ¬ source.Shows around address) ∧
            resolver.resolve around =
              (.error (.configuration detail), .container source none)) ∨
          ∃ address, source.Shows around address ∧
            resolver.resolve around =
              (.ok address, .container source (some address))) ∨
      ∃ address, source.ShowsFirst (looks calls) address ∧
        resolver = .container source (some address) ∧
        resolver.resolve around = (.ok address, .container source (some address))) ∧
    resolver = (container source none).after
      (calls.filter fun call => call.request = .resolve) := by
  intro resolver
  refine ⟨?_, (after_filter _ calls).symm⟩
  rcases after_cases source calls with ⟨nothing, same⟩ | ⟨address, first, same⟩
  · have fresh : resolver = .container source none := same
    rw [fresh]
    refine .inl ⟨nothing, rfl, ?_⟩
    rcases source.shows_or_fails around with ⟨address, shows⟩ | ⟨detail, fails⟩
    · exact .inr ⟨address, shows, resolve_of_shows shows⟩
    · exact .inl ⟨detail, fails, not_shows_of_fails fails, resolve_of_fails fails⟩
  · have kept : resolver = .container source (some address) := same
    rw [kept]
    exact .inr ⟨address, first, rfl, rfl⟩

end Resolver

end RemoteMessaging
