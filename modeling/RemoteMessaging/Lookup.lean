import RemoteMessaging.Error
import RemoteMessaging.Ip.Reader

/-!
# Looking up names

The name service is a table: a name has a list of addresses, or an answer that
says why there is none.  A host that is an IP address already is never looked
up.
-/

namespace RemoteMessaging

/-- Why a name has no addresses. -/
inductive LookupFailure where
  | tryAgain
  | fail
  | noData
  | noName
  | system (errno : Errno)
  | other (error : IoError)
  deriving DecidableEq, Repr

namespace LookupFailure

/-- The failure of a name; those of the system have names of their own. -/
def ofName? : String → Option LookupFailure
  | "EAI_AGAIN" => some .tryAgain
  | "EAI_FAIL" => some .fail
  | "EAI_NODATA" => some .noData
  | "EAI_NONAME" => some .noName
  | _ => none

/-- A failed lookup as a system error. -/
def toIoError : LookupFailure → IoError
  | .tryAgain => unresolved "Temporary failure in name resolution"
  | .fail => unresolved "Non-recoverable failure in name resolution"
  | .noData => unresolved "No address associated with hostname"
  | .noName => unresolved "Name or service not known"
  | .system errno => IoError.ofErrno errno
  | .other error => error
where
  unresolved (reason : String) : IoError :=
    ⟨.uncategorized, s!"failed to lookup address information: {reason}"⟩

end LookupFailure

/-- What the local system knows about names: its own host name as raw bytes, and
the addresses of hosts. -/
structure NameService where
  hostName : Except Errno (List UInt8)
  table : List (String × Except LookupFailure (List Ip))

namespace NameService

/-- The addresses of a name; an unknown name is an error of its own. -/
def lookup (names : NameService) (name : String) : Except IoError (List Ip) :=
  match names.table.lookup name with
  | some (.ok addresses) => .ok addresses
  | some (.error failure) => .error failure.toIoError
  | none => .error LookupFailure.noName.toIoError

def maxHostNameLength : Nat := 255

/-- The host name, which ends at its first zero byte and is cut off where it
exceeds its greatest length. -/
def readHostName (names : NameService) : Except IoError (List UInt8) :=
  match names.hostName with
  | .ok bytes => .ok ((bytes.takeWhile (· != 0)).take maxHostNameLength)
  | .error errno => .error (IoError.ofErrno errno)

end NameService

namespace Address

def candidates (names : NameService) (address : Address) :
    Except IoError (List Ip) :=
  match Ip.read address.host.toList with
  | some ip => .ok [ip]
  | none =>
      if '\x00' ∈ address.host.toList then
        .error ⟨.invalidInput, "file name contained an unexpected NUL byte"⟩
      else names.lookup address.host

/-- The socket address to connect to: the first IPv4 candidate, else the first
candidate. -/
def resolve (names : NameService) (address : Address) :
    Except IoError SocketAddress := do
  let addresses ← candidates names address
  match (addresses.find? Ip.isV4).or addresses.head? with
  | some ip => return ⟨ip, address.port⟩
  | none => throw ⟨.notFound, s!"no address found for {address}"⟩

end Address

end RemoteMessaging
