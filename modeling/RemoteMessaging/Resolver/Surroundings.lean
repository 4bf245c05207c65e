import RemoteMessaging.Lookup
import RemoteMessaging.Text.Blank
import RemoteMessaging.Text.Split

/-!
# What a process finds around it

The name service, the environment variables and the files that a process can
look at.  A path is followed component by component, and every component but the
last has to be a directory.
-/

namespace RemoteMessaging

/-- What a path can lead to. -/
inductive FileNode where
  | file (content : List UInt8)
  | unreadable (error : IoError)
  | directory
  deriving DecidableEq, Repr

/-- The components of a place in the tree of files. -/
abbrev FilePlace := List String

/-- The tree of files, as a table of places. -/
structure FileSystem where
  nodes : List (FilePlace × FileNode)
  deriving DecidableEq, Repr

namespace FileSystem

/-- What stands at a place; the root is a directory. -/
def node? (files : FileSystem) (place : FilePlace) : Option FileNode :=
  if place.isEmpty then some .directory else files.nodes.lookup place

/-- Follows the components of a path from a place.  Empty components and `.`
stay, and `..` goes back. -/
def follow (files : FileSystem) : FilePlace → List String → Option FilePlace
  | place, [] => some place
  | place, component :: rest =>
      if files.node? place = some .directory then
        if component = "" ∨ component = "." then files.follow place rest
        else if component = ".." then files.follow place.dropLast rest
        else files.follow (place ++ [component]) rest
      else none

/-- The place that a path leads to.  A path with a zero character leads
nowhere. -/
def locate (files : FileSystem) (path : String) : Option FilePlace :=
  if '\x00' ∈ path.toList then none
  else files.follow [] ((Text.split '/' path.toList).map String.ofList)

/-- The content of the regular file that a path leads to, or why it cannot be
read. -/
def content? (files : FileSystem) (path : String) :
    Option (Except IoError (List UInt8)) := do
  match ← files.node? (← files.locate path) with
  | .file content => some (.ok content)
  | .unreadable error => some (.error error)
  | .directory => none

def place (files : FileSystem) (place : FilePlace) (node : FileNode) :
    FileSystem :=
  ⟨(place, node) :: files.nodes.filter (·.1 ≠ place)⟩

/-- Writes a file; nothing happens where its directory is missing or a directory
is in its place. -/
def write (files : FileSystem) (path : String) (content : List UInt8) :
    FileSystem :=
  match files.locate path with
  | none => files
  | some target =>
      if files.node? target = some .directory then files
      else files.place target (.file content)

def makeDirectory (files : FileSystem) (path : String) : FileSystem :=
  match files.locate path with
  | none => files
  | some target =>
      if (files.node? target).isSome then files
      else files.place target .directory

def remove (files : FileSystem) (path : String) : FileSystem :=
  match files.locate path with
  | none => files
  | some target =>
      ⟨files.nodes.filter fun entry => !(target.isPrefixOf entry.1)⟩

end FileSystem

abbrev Environment := List (String × String)

namespace Environment

def value? (environment : Environment) (name : String) : Option String :=
  environment.lookup name

def unset (environment : Environment) (name : String) : Environment :=
  environment.filter (·.1 ≠ name)

def set (environment : Environment) (name value : String) : Environment :=
  (name, value) :: environment.unset name

end Environment

/-- All that a resolver can look at. -/
structure Surroundings where
  names : NameService
  environment : Environment
  files : FileSystem

end RemoteMessaging
