import RemoteMessaging.Ip.Basic

/-!
# Addresses of remote processes

An address is a host, by name or as an IP address, and a port.  It is the key
under which links are cached, so two addresses are the same exactly when host
and port are: host names are not normalised.  A host with a colon stands in
brackets in the text form.
-/

namespace RemoteMessaging

/-- The endpoint of a remote process. -/
structure Address where
  host : String
  port : Port
  deriving DecidableEq, Repr

namespace Address

def unbracket (host : List Char) : List Char :=
  match host with
  | '[' :: rest => if rest.getLast? = some ']' then rest.dropLast else host
  | _ => host

/-- The address of a host, which may be given in brackets. -/
def ofHost (host : String) (port : Port) : Address :=
  ⟨String.ofList (unbracket host.toList), port⟩

def ofSocket (socket : SocketAddress) : Address :=
  ofHost (toString socket.ip) socket.port

/-- The text form `host:port`, with brackets around a host that has a colon. -/
def toChars (address : Address) : List Char :=
  let host := address.host.toList
  (if ':' ∈ host then ['['] ++ host ++ [']'] else host) ++ [':'] ++
    Text.decimal address.port.toNat

instance : ToString Address where
  toString address := String.ofList address.toChars

def le (left right : Address) : Bool :=
  if left.host = right.host then decide (left.port ≤ right.port)
  else decide (left.host < right.host)

/-- Why a text is not an address. -/
inductive ReadFault where
  | noPort
  | noHost
  | badPort (fault : Text.NumeralFault)
  deriving DecidableEq, Repr

def ReadFault.message (text : String) : ReadFault → String
  | .noPort => s!"address `{text}` has no port"
  | .noHost => s!"address `{text}` has no host"
  | .badPort fault => s!"address `{text}` has invalid port: {fault.message}"

/-- Reads `host:port`; the last colon divides the two. -/
def read (text : String) : Except ReadFault Address :=
  match Text.splitLast? ':' text.toList with
  | none => .error .noPort
  | some (host, port) =>
      if host.isEmpty then .error .noHost
      else
        match Text.readUInt16 port with
        | .ok number => .ok (ofHost (String.ofList host) number)
        | .error fault => .error (.badPort fault)

end Address

end RemoteMessaging
