import RemoteMessaging.Json.Decode
import RemoteMessaging.Json.Reader
import RemoteMessaging.Json.Writer
import RemoteMessaging.Resolver.Basic
import RemoteMessaging.Text.Record

/-!
# Descriptions of resolvers

A process passes its way of resolving on to the processes that it starts.  The
description of a container's resolver carries the address of the parent.
-/

namespace RemoteMessaging

/-- A resolver in a form that can be written down. -/
inductive ResolverDescriptor where
  | hostname
  | loopback
  | container (hostAddress : Option String)
  deriving DecidableEq, Repr

namespace ResolverDescriptor

/-- The resolver of a description.  The address of the parent is not taken
over. -/
def build : ResolverDescriptor → Resolver
  | .hostname => .hostname
  | .loopback => .loopback
  | .container _ => .ofEnvironment

/-- The address that the parent resolved. -/
def hostAddress? : ResolverDescriptor → Option String
  | .container hostAddress => hostAddress
  | _ => none

def describe : ResolverDescriptor → String
  | .hostname => "Hostname"
  | .loopback => "Loopback"
  | .container hostAddress =>
      Text.record "Container"
        [("host_address", Text.optional (hostAddress.map Text.quoted))]

def tagName : String := "strategy"

/-- Descriptions are tagged by their strategy. -/
def toJson : ResolverDescriptor → Json
  | .hostname => .ofMembers [(tagName, .ofText "hostname")]
  | .loopback => .ofMembers [(tagName, .ofText "loopback")]
  | .container hostAddress =>
      .ofMembers [(tagName, .ofText "container"),
        ("host_address", .ofOption (hostAddress.map .ofText))]

/-- What follows a tag that needs nothing more: any object, or the end of the
array. -/
def isBare : Json → Bool
  | .object _ => true
  | .array [] => true
  | _ => false

/-- The parent's address in the description of a container's resolver.  Only an
object may leave it out. -/
def readContainer : Json → Option (Option String)
  | .array [value] => value.toOption? Json.toText?
  | .object members => do
      let fields ← (Json.object members).fields? ["host_address"]
      Json.fieldOr? fields "host_address" (Json.toOption? Json.toText?) none
  | _ => none

def ofJson? (value : Json) : Option ResolverDescriptor := do
  let (strategy, rest) ← value.tagged? tagName 0
  if strategy = "hostname" then
    if isBare rest then some .hostname else none
  else if strategy = "loopback" then
    if isBare rest then some .loopback else none
  else if strategy = "container" then
    return .container (← readContainer rest)
  else none

def parse? (text : String) : Option ResolverDescriptor :=
  (Json.read text.toList).bind ofJson?

end ResolverDescriptor

/-- Describes a resolver for another process. -/
def Resolver.descriptor (resolver : Resolver) (around : Surroundings) :
    Except Error ResolverDescriptor :=
  match resolver with
  | .hostname => .ok .hostname
  | .loopback => .ok .loopback
  | .container .. =>
      around.names.resolveHostName.map fun address => .container (some address)

end RemoteMessaging
