import RemoteMessaging.Text.Numeral
import RemoteMessaging.Text.Split

/-!
# IP addresses and socket addresses

An IPv6 address is written in lower-case hexadecimal groups, with the longest
run of at least two zero groups elided, the first of several equally long ones.
An address that embeds an IPv4 address shows it in dotted form.
-/

namespace RemoteMessaging

/-- An IPv4 address. -/
structure Ipv4 where
  a : UInt8
  b : UInt8
  c : UInt8
  d : UInt8
  deriving DecidableEq, Repr

/-- An IPv6 address: eight groups of sixteen bits. -/
structure Ipv6 where
  groups : List UInt16
  eight : groups.length = 8 := by decide
  deriving DecidableEq, Repr

/-- An IP address of either version. -/
inductive Ip where
  | v4 (address : Ipv4)
  | v6 (address : Ipv6)
  deriving DecidableEq, Repr

namespace Ipv4

def localhost : Ipv4 := ⟨127, 0, 0, 1⟩

/-- Dotted decimal form. -/
def toChars (ip : Ipv4) : List Char :=
  Text.join ['.'] [Text.decimal ip.a.toNat, Text.decimal ip.b.toNat,
    Text.decimal ip.c.toNat, Text.decimal ip.d.toNat]

def isLoopback (ip : Ipv4) : Bool :=
  ip.a == 127

def halves (ip : Ipv4) : UInt16 × UInt16 :=
  (ip.a.toUInt16 * 256 + ip.b.toUInt16, ip.c.toUInt16 * 256 + ip.d.toUInt16)

def ofHalves (high low : UInt16) : Ipv4 :=
  ⟨(high / 256).toUInt8, high.toUInt8, (low / 256).toUInt8, low.toUInt8⟩

end Ipv4

namespace Ipv6

/-- A run of zero groups. -/
structure ZeroRun where
  start : Nat
  length : Nat
  deriving DecidableEq, Repr

/-- The number of zero groups from the given position on. -/
def zerosFrom (groups : List UInt16) (start : Nat) : Nat :=
  ((groups.drop start).takeWhile (· == 0)).length

/-- The longest run of zero groups, the first of several equally long ones. -/
def longestZeroRun (groups : List UInt16) : ZeroRun :=
  (List.range groups.length).foldl
    (fun best start =>
      if best.length < zerosFrom groups start then
        ⟨start, zerosFrom groups start⟩
      else best)
    ⟨0, 0⟩

def groupChars (groups : List UInt16) : List Char :=
  Text.join [':'] (groups.map fun group => Text.hexadecimal group.toNat)

/-- The IPv4 address embedded in a mapped address. -/
def mapped? : List UInt16 → Option Ipv4
  | [0, 0, 0, 0, 0, 0xffff, high, low] => some (Ipv4.ofHalves high low)
  | _ => none

/-- The canonical text form. -/
def toChars (ip : Ipv6) : List Char :=
  match mapped? ip.groups with
  | some embedded => [':', ':', 'f', 'f', 'f', 'f', ':'] ++ embedded.toChars
  | none =>
      let run := longestZeroRun ip.groups
      if 2 ≤ run.length then
        groupChars (ip.groups.take run.start) ++ [':', ':'] ++
          groupChars (ip.groups.drop (run.start + run.length))
      else groupChars ip.groups

def isLoopback (ip : Ipv6) : Bool :=
  ip.groups == [0, 0, 0, 0, 0, 0, 0, 1]

end Ipv6

namespace Ip

/-- The canonical text form. -/
def toChars : Ip → List Char
  | .v4 address => address.toChars
  | .v6 address => address.toChars

instance : ToString Ip where
  toString ip := String.ofList ip.toChars

def isV4 : Ip → Bool
  | .v4 _ => true
  | .v6 _ => false

def isLoopback : Ip → Bool
  | .v4 address => address.isLoopback
  | .v6 address => address.isLoopback

end Ip

abbrev Port := UInt16

/-- An IP address with a port. -/
structure SocketAddress where
  ip : Ip
  port : Port
  deriving DecidableEq, Repr

namespace SocketAddress

/-- The text form; an IPv6 address stands in brackets. -/
def toChars (address : SocketAddress) : List Char :=
  match address.ip with
  | .v4 ip => ip.toChars ++ [':'] ++ Text.decimal address.port.toNat
  | .v6 ip => ['['] ++ ip.toChars ++ [']', ':'] ++ Text.decimal address.port.toNat

instance : ToString SocketAddress where
  toString address := String.ofList address.toChars

end SocketAddress

end RemoteMessaging
