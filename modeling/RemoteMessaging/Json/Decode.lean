import RemoteMessaging.Json.Value

/-!
# Decoding JSON

How JSON values stand for numbers, texts, records and tagged alternatives.

A record is an object, in which unknown members are ignored, or an array of its
fields in order.  Of an ignored member only the form matters.  A tagged value is
an object with a member for the tag, or an array that starts with the tag.  All
of a tagged value has to have a meaning before its tag is looked at: texts
without half surrogates, numbers within the range of double precision, and
bounded nesting.
-/

namespace RemoteMessaging.Json

def digitsValue (digits : List Char) : Nat :=
  digits.foldl
    (fun value c => 10 * value + (Text.digitValue? c).getD 0) 0

/-- The natural number of a literal in plain digits, without sign, point or
exponent. -/
def Number.toNat? (literal : Number) : Option Nat :=
  if literal.negative then none
  else
    match literal.fraction, literal.exponent with
    | none, none => some (digitsValue literal.whole)
    | _, _ => none

/-- The integer of a literal in plain digits, without point or exponent. -/
def Number.toInt? (literal : Number) : Option Int :=
  (toNat? { literal with negative := false }).map fun (size : Nat) =>
    if literal.negative then -size else size

def toInt? : Json → Option Int
  | .number literal => literal.toInt?
  | _ => none

def toNat? (limit : Nat) : Json → Option Nat
  | .number literal =>
      literal.toNat?.bind fun n => if n ≤ limit then some n else none
  | _ => none

def toUInt16? (value : Json) : Option UInt16 :=
  (value.toNat? (UInt16.size - 1)).map UInt16.ofNat

def toUInt32? (value : Json) : Option UInt32 :=
  (value.toNat? (UInt32.size - 1)).map UInt32.ofNat

def toUInt64? (value : Json) : Option UInt64 :=
  (value.toNat? (UInt64.size - 1)).map UInt64.ofNat

def toBool? : Json → Option Bool
  | .bool value => some value
  | _ => none

def toText? : Json → Option String
  | .string content => content
  | _ => none

def toList? {α : Type} (read : Json → Option α) : Json → Option (List α)
  | .array items => items.mapM read
  | _ => none

def toOption? {α : Type} (read : Json → Option α) : Json → Option (Option α)
  | .null => some none
  | value => (read value).map some

/-- The known ones among the members of an object.  Every key has to be a text,
and no known key may occur twice. -/
def knownMembers (names : List String) :
    List (Option String × Json) → Option (List (String × Json))
  | [] => some []
  | (none, _) :: _ => none
  | (some key, value) :: members => do
      let known ← knownMembers names members
      if key ∉ names then return known
      else if (known.lookup key).isSome then none
      else return (key, value) :: known

/-- The fields of a record that are present, by name.  An array holds them in the
order of `names` and may leave out the last ones, but has no more. -/
def fields? (names : List String) : Json → Option (List (String × Json))
  | .object members => knownMembers names members
  | .array items =>
      if items.length ≤ names.length then some (names.zip items) else none
  | _ => none

def field? {α : Type} (fields : List (String × Json)) (name : String)
    (read : Json → Option α) : Option α :=
  (fields.lookup name).bind read

/-- A field that keeps a given value when it is absent. -/
def fieldOr? {α : Type} (fields : List (String × Json)) (name : String)
    (read : Json → Option α) (default : α) : Option α :=
  match fields.lookup name with
  | none => some default
  | some value => read value

/-- Continues the significand of a number by its digits as long as it stays
within 64 bits, and counts the digits that are left over. -/
def significand : Nat → List Char → Nat × Nat
  | value, [] => (value, 0)
  | value, c :: rest =>
      let next := 10 * value + (Text.digitValue? c).getD 0
      if next < UInt64.size then significand next rest else (value, rest.length + 1)

/-- The nearest number of 53 significant bits, ties going to the even one. -/
def nearestDouble (n : Nat) : Nat :=
  let unit := Nat.pow 2 (n.log2 + 1 - 53)
  let quotient := n / unit
  let remainder := n % unit
  if 2 * remainder < unit ∨ (2 * remainder = unit ∧ quotient % 2 = 0) then
    quotient * unit
  else (quotient + 1) * unit

/-- The smallest number that rounds to infinity in double precision. -/
def infinityThreshold : Nat := Nat.pow 2 1024 - Nat.pow 2 970

/-- The literal denotes a number in double precision: the product of significand
and power of ten, both rounded, stays finite. -/
def Number.isFinite (literal : Number) : Bool :=
  let (whole, dropped) := significand 0 literal.whole
  let digits := literal.fraction.getD []
  let (value, rest) := significand whole digits
  let shift : Int :=
    match literal.exponent with
    | none => 0
    | some exponent =>
        let size : Int := digitsValue exponent.digits
        if exponent.negative then -size else size
  let power : Int := dropped - (digits.length - rest : Nat) + shift
  if value = 0 ∨ power < 0 then true
  else if 308 < power then false
  else
    nearestDouble value * nearestDouble (Nat.pow 10 power.toNat) <
      infinityThreshold

mutual

/-- Every text and number in the value has a meaning. -/
def isMeaningful : Json → Bool
  | .number literal => literal.isFinite
  | .string content => content.isSome
  | .array items => areMeaningful items
  | .object members => areMeaningfulMembers members
  | _ => true

def areMeaningful : List Json → Bool
  | [] => true
  | item :: items => item.isMeaningful && areMeaningful items

def areMeaningfulMembers : List (Option String × Json) → Bool
  | [] => true
  | (key, value) :: members =>
      key.isSome && value.isMeaningful && areMeaningfulMembers members

end

/-- The deepest nesting that is read where the content matters. -/
def maxDepth : Nat := 127

/-- The tag of a tagged value and the rest of it without the tag.  `outer`
containers stand around the value. -/
def tagged? (tag : String) (outer : Nat) (value : Json) :
    Option (String × Json) :=
  if value.isMeaningful = false ∨ maxDepth < outer + value.depth then none
  else
    match value with
    | .array (.string (some name) :: items) => some (name, .array items)
    | .object members =>
        match members.filter (·.1 = some tag) with
        | [(_, .string (some name))] =>
            some (name, .object (members.filter (·.1 ≠ some tag)))
        | _ => none
    | _ => none

end RemoteMessaging.Json
