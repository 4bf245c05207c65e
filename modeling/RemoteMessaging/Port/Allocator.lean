import RemoteMessaging.Error
import RemoteMessaging.Json.Decode
import RemoteMessaging.Port.Candidates
import RemoteMessaging.Port.Set
import RemoteMessaging.Text.Blank
import RemoteMessaging.Text.Record

/-!
# Port allocators

An allocator says which ports a listener may take and in which order they are
tried.  It is a plain value: each sequence of candidates starts afresh.
-/

namespace RemoteMessaging

/-- A choice of ports for a listener. -/
inductive PortAllocator where
  /-- `count` ports from `first` on, cut off at the last port. -/
  | range (first : Port) (count : UInt32)
  | list (ports : List Port)
  | set (ports : PortSet)
  deriving DecidableEq, Repr

namespace PortAllocator

def default : PortAllocator := .range 10000 10000

instance : Inhabited PortAllocator := ⟨default⟩

/-- The sum of two numbers, cut off at the largest 32-bit number. -/
def saturatingAdd (left right : UInt32) : UInt32 :=
  if left.toNat + right.toNat < UInt32.size then left + right else 0xffffffff

def candidates : PortAllocator → PortCandidates
  | .range first count =>
      .span first.toUInt32 (min (saturatingAdd first.toUInt32 count) 65536)
  | .list ports => .ports ports
  | .set ports => .ports ports.members

def toText : PortAllocator → String
  | .range first count => s!"range[{first}; +{count})"
  | .list ports => "list" ++ Text.listed (ports.map toString)
  | .set ports => "set" ++ Text.braced (ports.members.map toString)

def describe : PortAllocator → String
  | .range first count =>
      Text.record "Range" [("begin", toString first), ("count", toString count)]
  | .list ports =>
      Text.record "List" [("ports", Text.listed (ports.map toString))]
  | .set ports =>
      Text.record "Set" [("ports", Text.braced (ports.members.map toString))]

def entries (text : List Char) : List (List Char) :=
  (Text.split ',' text).map Text.trim

/-- Reads the entries in order and stops at the first that is no port. -/
def readEntries : List (List Char) →
    Except (List Char × Text.NumeralFault) (List Port)
  | [] => .ok []
  | entry :: rest =>
      match Text.readUInt16 entry with
      | .error fault => .error (entry, fault)
      | .ok port => (readEntries rest).map (port :: ·)

/-- The allocator for a comma-separated list of ports. -/
def parseList (text : String) : Except Error PortAllocator :=
  match readEntries (entries text.toList) with
  | .ok ports => .ok (.list ports)
  | .error (entry, fault) =>
      .error (.configuration
        s!"invalid port `{String.ofList entry}` in `{text}`: {fault.message}")

def tagName : String := "strategy"

/-- Allocators are tagged by their strategy. -/
def toJson : PortAllocator → Json
  | .range first count =>
      .ofMembers [(tagName, .ofText "range"), ("begin", .ofNat first.toNat),
        ("count", .ofNat count.toNat)]
  | .list ports =>
      .ofMembers [(tagName, .ofText "list"),
        ("ports", .array (ports.map fun port => .ofNat port.toNat))]
  | .set ports =>
      .ofMembers [(tagName, .ofText "set"),
        ("ports", .array (ports.members.map fun port => .ofNat port.toNat))]

/-- Reads an allocator around which `outer` containers stand. -/
def ofJson? (outer : Nat) (value : Json) : Option PortAllocator := do
  let (strategy, rest) ← value.tagged? tagName outer
  if strategy = "range" then
    let fields ← rest.fields? ["begin", "count"]
    let first ← Json.field? fields "begin" Json.toUInt16?
    let count ← Json.field? fields "count" Json.toUInt32?
    return .range first count
  else if strategy = "list" then
    let fields ← rest.fields? ["ports"]
    return .list (← Json.field? fields "ports" (Json.toList? Json.toUInt16?))
  else if strategy = "set" then
    let fields ← rest.fields? ["ports"]
    let ports ← Json.field? fields "ports" (Json.toList? Json.toUInt16?)
    return .set (PortSet.ofList ports)
  else none

end PortAllocator

end RemoteMessaging
