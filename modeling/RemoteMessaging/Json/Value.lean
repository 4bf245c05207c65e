import RemoteMessaging.Text.Numeral

/-!
# JSON values

A value keeps what its text says and no more: numbers are digits, and a string
is absent where an escape stands for half of a surrogate pair.  So a text can be
well formed although some of its literals have no value, and a reader decides
which literals it needs.
-/

namespace RemoteMessaging

/-- The exponent of a number literal. -/
structure Json.Exponent where
  negative : Bool
  digits : List Char
  deriving DecidableEq, Repr

/-- A number literal: its digits before and after the point, and its
exponent. -/
structure Json.Number where
  negative : Bool
  whole : List Char
  fraction : Option (List Char)
  exponent : Option Json.Exponent
  deriving DecidableEq, Repr

/-- A JSON value; an object keeps its members in order, repeated keys
included. -/
inductive Json where
  | null
  | bool (value : Bool)
  | number (literal : Json.Number)
  | string (content : Option String)
  | array (items : List Json)
  | object (members : List (Option String × Json))

namespace Json

def ofNat (n : Nat) : Json :=
  .number ⟨false, Text.decimal n, none, none⟩

def ofInt (n : Int) : Json :=
  .number ⟨n < 0, Text.decimal n.natAbs, none, none⟩

def ofText (text : String) : Json :=
  .string (some text)

def ofMembers (members : List (String × Json)) : Json :=
  .object (members.map fun member => (some member.1, member.2))

def ofOption : Option Json → Json
  | none => .null
  | some value => value

mutual

/-- How many containers stand inside one another, scalars having depth zero. -/
def depth : Json → Nat
  | .array items => 1 + depthItems items
  | .object members => 1 + depthMembers members
  | _ => 0

def depthItems : List Json → Nat
  | [] => 0
  | item :: items => max item.depth (depthItems items)

def depthMembers : List (Option String × Json) → Nat
  | [] => 0
  | (_, value) :: members => max value.depth (depthMembers members)

end

end Json

end RemoteMessaging
