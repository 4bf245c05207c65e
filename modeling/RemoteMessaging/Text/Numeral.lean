/-!
# Decimal numerals of bounded value

A numeral is an optional plus sign and one or more ASCII digits; leading zeros
are allowed.  Reading goes from left to right and stops at the first fault, so
a digit that leaves the range is reported before a later foreign character.
-/

namespace RemoteMessaging.Text

/-- Why a text is not a numeral of the range asked for. -/
inductive NumeralFault where
  | empty
  | foreign
  | large
  deriving DecidableEq, Repr

namespace NumeralFault

def message : NumeralFault → String
  | .empty => "cannot parse integer from empty string"
  | .foreign => "invalid digit found in string"
  | .large => "number too large to fit in target type"

end NumeralFault

def digitValue? (c : Char) : Option Nat :=
  if '0' ≤ c ∧ c ≤ '9' then some (c.toNat - '0'.toNat) else none

def hexDigitValue? (c : Char) : Option Nat :=
  if '0' ≤ c ∧ c ≤ '9' then some (c.toNat - '0'.toNat)
  else if 'a' ≤ c ∧ c ≤ 'f' then some (c.toNat - 'a'.toNat + 10)
  else if 'A' ≤ c ∧ c ≤ 'F' then some (c.toNat - 'A'.toNat + 10)
  else none

/-- Continues a numeral whose digits so far have the value `value`. -/
def readDigits (limit : Nat) : Nat → List Char → Except NumeralFault Nat
  | value, [] => .ok value
  | value, c :: rest =>
      match digitValue? c with
      | none => .error .foreign
      | some digit =>
          if 10 * value + digit ≤ limit then
            readDigits limit (10 * value + digit) rest
          else .error .large

/-- Reads a numeral of value at most `limit`.  A sign without a digit counts
as a foreign character. -/
def readNumeral (limit : Nat) : List Char → Except NumeralFault Nat
  | [] => .error .empty
  | ['+'] => .error .foreign
  | '+' :: digits => readDigits limit 0 digits
  | digits => readDigits limit 0 digits

def readUInt16 (text : List Char) : Except NumeralFault UInt16 :=
  (readNumeral 65535 text).map UInt16.ofNat

def decimal (n : Nat) : List Char :=
  Nat.toDigits 10 n

def hexadecimal (n : Nat) : List Char :=
  Nat.toDigits 16 n

end RemoteMessaging.Text
