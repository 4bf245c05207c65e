import RemoteMessaging.Json.Value

/-!
# Reading JSON

One value with blanks around it and nothing else.  Reading checks the form only:
a literal without a value, such as a number beyond every range or half of a
surrogate pair, is kept as it stands.
-/

namespace RemoteMessaging.Json

def skipBlanks (text : List Char) : List Char :=
  text.dropWhile fun c => c == ' ' || c == '\t' || c == '\n' || c == '\r'

/-- A piece of a string literal: a character, or an escaped 16-bit unit. -/
inductive Piece where
  | char (c : Char)
  | unit (value : Nat)
  deriving DecidableEq, Repr

/-- The character that a one-letter escape stands for. -/
def unescape? : Char → Option Char
  | '"' => some '"'
  | '\\' => some '\\'
  | '/' => some '/'
  | 'b' => some '\x08'
  | 'f' => some '\x0c'
  | 'n' => some '\n'
  | 'r' => some '\r'
  | 't' => some '\t'
  | _ => none

/-- The value of four hexadecimal digits. -/
def readUnit (a b c d : Char) : Option Nat := do
  let a ← Text.hexDigitValue? a
  let b ← Text.hexDigitValue? b
  let c ← Text.hexDigitValue? c
  let d ← Text.hexDigitValue? d
  return 4096 * a + 256 * b + 16 * c + d

/-- The pieces of a string literal up to its closing quote, and what follows. -/
def readPieces : List Char → Option (List Piece × List Char)
  | [] => none
  | '"' :: rest => some ([], rest)
  | '\\' :: 'u' :: a :: b :: c :: d :: rest => do
      let unit ← readUnit a b c d
      let (pieces, rest) ← readPieces rest
      return (.unit unit :: pieces, rest)
  | '\\' :: c :: rest => do
      let c ← unescape? c
      let (pieces, rest) ← readPieces rest
      return (.char c :: pieces, rest)
  | c :: rest => do
      if c < ' ' ∨ c = '\\' then none
      else
        let (pieces, rest) ← readPieces rest
        return (.char c :: pieces, rest)

def isHighSurrogate (unit : Nat) : Bool :=
  0xd800 ≤ unit && unit < 0xdc00

def isLowSurrogate (unit : Nat) : Bool :=
  0xdc00 ≤ unit && unit < 0xe000

/-- The text of a string literal, if surrogates come in pairs. -/
def decodePieces : List Piece → Option (List Char)
  | [] => some []
  | .char c :: rest => (decodePieces rest).map (c :: ·)
  | .unit high :: .unit low :: rest =>
      if isHighSurrogate high then
        if isLowSurrogate low then
          (decodePieces rest).map
            (Char.ofNat (0x10000 + 0x400 * (high - 0xd800) + (low - 0xdc00)) :: ·)
        else none
      else if isLowSurrogate high then none
      else (decodePieces (.unit low :: rest)).map (Char.ofNat high :: ·)
  | .unit value :: rest =>
      if isHighSurrogate value || isLowSurrogate value then none
      else (decodePieces rest).map (Char.ofNat value :: ·)

def readString (text : List Char) : Option (Option String × List Char) := do
  let (pieces, rest) ← readPieces text
  return ((decodePieces pieces).map String.ofList, rest)

def isDigit (c : Char) : Bool :=
  (Text.digitValue? c).isSome

def readDigits (text : List Char) : Option (List Char × List Char) :=
  match text.span isDigit with
  | ([], _) => none
  | (digits, rest) => some (digits, rest)

def readFraction : List Char → Option (Option (List Char) × List Char)
  | '.' :: rest => (readDigits rest).map fun (digits, rest) => (some digits, rest)
  | rest => some (none, rest)

def readSigned : List Char → Option (Exponent × List Char)
  | '-' :: rest => (readDigits rest).map fun (digits, rest) => (⟨true, digits⟩, rest)
  | '+' :: rest => (readDigits rest).map fun (digits, rest) => (⟨false, digits⟩, rest)
  | rest => (readDigits rest).map fun (digits, rest) => (⟨false, digits⟩, rest)

def readExponent : List Char → Option (Option Exponent × List Char)
  | 'e' :: rest => (readSigned rest).map fun (exponent, rest) => (some exponent, rest)
  | 'E' :: rest => (readSigned rest).map fun (exponent, rest) => (some exponent, rest)
  | rest => some (none, rest)

/-- A number literal without its sign.  A whole part of several digits does not
start with zero. -/
def readMagnitude (negative : Bool) (text : List Char) :
    Option (Number × List Char) := do
  let (whole, rest) ← readDigits text
  if whole.head? = some '0' ∧ 1 < whole.length then none
  else
    let (fraction, rest) ← readFraction rest
    let (exponent, rest) ← readExponent rest
    return (⟨negative, whole, fraction, exponent⟩, rest)

def readNumber : List Char → Option (Number × List Char)
  | '-' :: rest => readMagnitude true rest
  | text => readMagnitude false text

mutual

/-- One value from the front of a text that starts with no blank, and what
follows it.  The first argument bounds the number of nested and successive
calls. -/
def readValue : Nat → List Char → Option (Json × List Char)
  | 0, _ => none
  | fuel + 1, text =>
      match text with
      | 'n' :: 'u' :: 'l' :: 'l' :: rest => some (.null, rest)
      | 't' :: 'r' :: 'u' :: 'e' :: rest => some (.bool true, rest)
      | 'f' :: 'a' :: 'l' :: 's' :: 'e' :: rest => some (.bool false, rest)
      | '"' :: rest => do
          let (content, rest) ← readString rest
          return (.string content, rest)
      | '[' :: rest =>
          match skipBlanks rest with
          | ']' :: rest => some (.array [], rest)
          | rest => do
              let (items, rest) ← readItems fuel rest
              return (.array items, rest)
      | '{' :: rest =>
          match skipBlanks rest with
          | '}' :: rest => some (.object [], rest)
          | rest => do
              let (members, rest) ← readMembers fuel rest
              return (.object members, rest)
      | text => do
          let (literal, rest) ← readNumber text
          return (.number literal, rest)

def readItems : Nat → List Char → Option (List Json × List Char)
  | 0, _ => none
  | fuel + 1, text => do
      let (item, rest) ← readValue fuel text
      match skipBlanks rest with
      | ']' :: rest => return ([item], rest)
      | ',' :: rest =>
          let (items, rest) ← readItems fuel (skipBlanks rest)
          return (item :: items, rest)
      | _ => none

def readMembers :
    Nat → List Char → Option (List (Option String × Json) × List Char)
  | 0, _ => none
  | fuel + 1, text =>
      match text with
      | '"' :: rest => do
          let (key, rest) ← readString rest
          match skipBlanks rest with
          | ':' :: rest =>
              let (value, rest) ← readValue fuel (skipBlanks rest)
              match skipBlanks rest with
              | '}' :: rest => return ([(key, value)], rest)
              | ',' :: rest =>
                  let (members, rest) ← readMembers fuel (skipBlanks rest)
                  return ((key, value) :: members, rest)
              | _ => none
          | _ => none
      | _ => none

end

/-- Reads a text that is one value with blanks around it.  A container takes two
calls and two characters, and a further item or member takes a call and a comma,
so the length of the text bounds the calls. -/
def read (text : List Char) : Option Json := do
  let (value, rest) ← readValue (text.length + 1) (skipBlanks text)
  if skipBlanks rest = [] then some value else none

end RemoteMessaging.Json
