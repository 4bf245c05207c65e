import RemoteMessaging.Resolver.Surroundings
import RemoteMessaging.Text.Quoted
import RemoteMessaging.Text.Record

/-!
# Resolving the address to advertise

A process that has to tell others how to reach it resolves its own address: by
its host name, as the loopback address, or from a file that the host of a
container has written.  The content of that file is read once and kept; a
failure is not kept, so that the next call reads again.
-/

namespace RemoteMessaging

/-- Where the path of the address file comes from. -/
inductive PathSource where
  | variable (name : String)
  | fixed (path : String)
  deriving DecidableEq, Repr

/-- A way to resolve the local address. -/
inductive Resolver where
  | hostname
  | loopback
  /-- The address stands in a file; `kept` is what was read from it. -/
  | container (source : PathSource) (kept : Option String)
  deriving DecidableEq, Repr

/-- The variable that tells a container where its address file is. -/
def addressFileVariable : String := "HOST_IP_ADDR_PATH"

/-- Of several addresses of a host the first IPv4 address that is no loopback
address, else the first that is none, else the first. -/
def Ip.advertised? (addresses : List Ip) : Option Ip :=
  (addresses.find? fun ip => ip.isV4 && !ip.isLoopback).or
    ((addresses.find? fun ip => !ip.isLoopback).or addresses.head?)

namespace NameService

def resolveHostName (names : NameService) : Except Error String :=
  match names.readHostName with
  | .error error =>
      .error (.addressResolution s!"cannot read hostname: {error.message}")
  | .ok bytes =>
      match Text.decodeUtf8 bytes with
      | .error _ =>
          .error (.addressResolution
            s!"hostname {Text.quotedBytes bytes} is not valid UTF-8")
      | .ok chars =>
          let name := String.ofList chars
          match names.lookup name with
          | .error error =>
              .error (.addressResolution
                s!"cannot resolve hostname `{name}`: {error.message}")
          | .ok addresses =>
              match Ip.advertised? addresses with
              | none =>
                  .error (.addressResolution
                    s!"hostname `{name}` resolved to no address")
              | some ip => .ok (toString ip)

end NameService

namespace PathSource

def path (source : PathSource) (environment : Environment) :
    Except Error String :=
  match source with
  | .fixed path => .ok path
  | .variable name =>
      match environment.value? name with
      | some value =>
          if value.isEmpty then .error (missing name) else .ok value
      | none => .error (missing name)
where
  missing (name : String) : Error :=
    .configuration s!"environment variable must be set for {name}"

end PathSource

namespace FileSystem

/-- The address in a file: its content without blanks around it. -/
def readAddress (files : FileSystem) (path : String) : Except Error String :=
  match files.content? path with
  | none =>
      .error (.configuration
        s!"host address path points to invalid file: {path}")
  | some (.error error) =>
      .error (.configuration s!"cannot read {path}: {error.message}")
  | some (.ok bytes) =>
      match Text.decodeUtf8 bytes with
      | .error _ =>
          .error (.configuration
            s!"cannot read {path}: stream did not contain valid UTF-8")
      | .ok chars =>
          match Text.trim chars with
          | [] =>
              .error (.configuration s!"host address file {path} is empty")
          | trimmed => .ok (String.ofList trimmed)

end FileSystem

namespace Resolver

/-- The resolver of a container, which is told by a variable where to look. -/
def ofEnvironment : Resolver :=
  .container (.variable addressFileVariable) none

/-- Resolves the local address.  The resolver afterwards keeps an address that
was read from a file. -/
def resolve (resolver : Resolver) (around : Surroundings) :
    Except Error String × Resolver :=
  match resolver with
  | .hostname => (around.names.resolveHostName, .hostname)
  | .loopback => (.ok (toString (Ip.v4 Ipv4.localhost)), .loopback)
  | .container source (some address) =>
      (.ok address, .container source (some address))
  | .container source none =>
      match source.path around.environment with
      | .error error => (.error error, .container source none)
      | .ok path =>
          match around.files.readAddress path with
          | .error error => (.error error, .container source none)
          | .ok address => (.ok address, .container source (some address))

def describe : Resolver → String
  | .hostname => "HostnameResolver"
  | .loopback => "LoopbackResolver"
  | .container source kept =>
      Text.record "ContainerFileResolver"
        [("source",
            match source with
            | .variable name => s!"Env({Text.quoted name})"
            | .fixed path => s!"Fixed({Text.quoted path})"),
          ("cached",
            Text.record "Mutex"
              [("data", Text.optional (kept.map Text.quoted))])]

end Resolver

end RemoteMessaging
