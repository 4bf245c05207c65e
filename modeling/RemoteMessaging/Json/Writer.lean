import RemoteMessaging.Json.Value

/-!
# Writing JSON

The compact form: no blanks, members in order, and only those characters
escaped that must be.
-/

namespace RemoteMessaging.Json

/-- A character inside a string.  Controls without a letter of their own are
written with four hexadecimal digits. -/
def writeChar (c : Char) : List Char :=
  if c = '"' then ['\\', '"']
  else if c = '\\' then ['\\', '\\']
  else if c = '\x08' then ['\\', 'b']
  else if c = '\x0c' then ['\\', 'f']
  else if c = '\n' then ['\\', 'n']
  else if c = '\r' then ['\\', 'r']
  else if c = '\t' then ['\\', 't']
  else if c < ' ' then
    ['\\', 'u', '0', '0', Nat.digitChar (c.toNat / 16),
      Nat.digitChar (c.toNat % 16)]
  else [c]

/-- A string literal.  A content that is no text is written as the half of a
surrogate pair that it is. -/
def writeString : Option String → List Char
  | some text => ['"'] ++ text.toList.flatMap writeChar ++ ['"']
  | none => ['"', '\\', 'u', 'd', '8', '0', '0', '"']

def writeFraction : Option (List Char) → List Char
  | none => []
  | some digits => ['.'] ++ digits

def writeExponent : Option Exponent → List Char
  | none => []
  | some exponent =>
      (if exponent.negative then ['e', '-'] else ['e']) ++ exponent.digits

def Number.write (number : Number) : List Char :=
  (if number.negative then ['-'] else []) ++ number.whole ++
    writeFraction number.fraction ++ writeExponent number.exponent

mutual

def write : Json → List Char
  | .null => ['n', 'u', 'l', 'l']
  | .bool true => ['t', 'r', 'u', 'e']
  | .bool false => ['f', 'a', 'l', 's', 'e']
  | .number literal => literal.write
  | .string content => writeString content
  | .array [] => ['[', ']']
  | .array (item :: items) => ['['] ++ item.write ++ writeItems items
  | .object [] => ['{', '}']
  | .object ((key, value) :: members) =>
      ['{'] ++ writeString key ++ [':'] ++ value.write ++ writeMembers members

def writeItems : List Json → List Char
  | [] => [']']
  | item :: items => [','] ++ item.write ++ writeItems items

def writeMembers : List (Option String × Json) → List Char
  | [] => ['}']
  | (key, value) :: members =>
      [','] ++ writeString key ++ [':'] ++ value.write ++ writeMembers members

end

/-- The compact text of a value. -/
def toText (value : Json) : String :=
  String.ofList value.write

end RemoteMessaging.Json
