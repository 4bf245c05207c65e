import RemoteMessaging.Ip.Basic

/-!
# Reading IP addresses

IPv4 is four decimal parts of one to three digits without leading zeros.  IPv6
is eight hexadecimal groups of one to four digits; one double colon may stand
for at least one group, and a dotted IPv4 address may stand for the last two.
-/

namespace RemoteMessaging

def Ipv4.readPart (text : List Char) : Option UInt8 := do
  let digits ← text.mapM Text.digitValue?
  let value := digits.foldl (fun value digit => 10 * value + digit) 0
  if digits.length = 0 ∨ 3 < digits.length then none
  else if digits.head? = some 0 ∧ 1 < digits.length then none
  else if value ≤ 255 then some (UInt8.ofNat value)
  else none

def Ipv4.read (text : List Char) : Option Ipv4 :=
  match Text.split '.' text with
  | [a, b, c, d] => do
      return ⟨← readPart a, ← readPart b, ← readPart c, ← readPart d⟩
  | _ => none

namespace Ipv6

def readGroup (text : List Char) : Option UInt16 := do
  let digits ← text.mapM Text.hexDigitValue?
  if digits.length = 0 ∨ 4 < digits.length then none
  else
    some (UInt16.ofNat (digits.foldl (fun value digit => 16 * value + digit) 0))

def readLast (text : List Char) : Option (List UInt16) :=
  match Ipv4.read text with
  | some ip => some [ip.halves.1, ip.halves.2]
  | none => (readGroup text).map fun group => [group]

def readParts : List (List Char) → Option (List UInt16)
  | [] => some []
  | [last] => readLast last
  | part :: parts => do return (← readGroup part) :: (← readParts parts)

def readBefore (text : List Char) : Option (List UInt16) :=
  if text.isEmpty then some [] else (Text.split ':' text).mapM readGroup

def readAfter (text : List Char) : Option (List UInt16) :=
  if text.isEmpty then some [] else readParts (Text.split ':' text)

theorem length_filled (front back : List UInt16)
    (room : front.length + back.length ≤ 7) :
    (front ++ List.replicate (8 - (front.length + back.length)) 0 ++
      back).length = 8 := by
  simp only [List.length_append, List.length_replicate]
  omega

def read (text : List Char) : Option Ipv6 :=
  match Text.splitDouble? ':' text with
  | none => do
      let groups ← readParts (Text.split ':' text)
      if eight : groups.length = 8 then some ⟨groups, eight⟩ else none
  | some (before, after) => do
      let front ← readBefore before
      let back ← readAfter after
      if room : front.length + back.length ≤ 7 then
        let zeros := List.replicate (8 - (front.length + back.length)) 0
        some ⟨front ++ zeros ++ back, length_filled front back room⟩
      else none

end Ipv6

def Ip.read (text : List Char) : Option Ip :=
  match Ipv4.read text with
  | some address => some (.v4 address)
  | none => (Ipv6.read text).map .v6

/-- The wording of the one fault that a text can have as an IP address. -/
def Ip.syntaxMessage : String := "invalid IP address syntax"

/-- Reads a socket address: an IPv6 address stands in brackets. -/
def SocketAddress.read (text : List Char) : Option SocketAddress := do
  let (host, port) ← Text.splitLast? ':' text
  let port ← (Text.readUInt16 port).toOption
  match host with
  | '[' :: rest =>
      if rest.getLast? = some ']' then
        return ⟨.v6 (← Ipv6.read rest.dropLast), port⟩
      else none
  | _ => return ⟨.v4 (← Ipv4.read host), port⟩

end RemoteMessaging
