import RemoteMessaging.Text.Numeral
import RemoteMessaging.Text.Unprintable
import RemoteMessaging.Text.Utf8

/-!
# Quoted text

Quoted text stands between double quotes and shows every character: quotes and
backslashes behind a backslash, the usual line controls by letter, and any other
character without a visible form by its code point.  Bytes that are not text are
shown in the same way, with each undecodable byte in hexadecimal.
-/

namespace RemoteMessaging.Text

def codePointEscape (c : Char) : List Char :=
  ['\\', 'u', '{'] ++ hexadecimal c.toNat ++ ['}']

def escapeChar (c : Char) : List Char :=
  if c = '\x00' then ['\\', '0']
  else if c = '\t' then ['\\', 't']
  else if c = '\r' then ['\\', 'r']
  else if c = '\n' then ['\\', 'n']
  else if c = '\\' ∨ c = '"' then ['\\', c]
  else if isUnprintable c then codePointEscape c
  else [c]

def quoted (text : String) : String :=
  String.ofList (['"'] ++ text.toList.flatMap escapeChar ++ ['"'])

/-- The two upper-case hexadecimal digits of a byte, marked as a raw byte. -/
def byteEscape (byte : UInt8) : List Char :=
  ['\\', 'x', (Nat.digitChar (byte.toNat / 16)).toUpper,
    (Nat.digitChar (byte.toNat % 16)).toUpper]

/-- The escaped form of bytes that need not be text. -/
def escapeBytes (bytes : List UInt8) : List Char :=
  match bytes with
  | [] => []
  | byte :: tail =>
      match front : utf8Front byte tail with
      | .char c rest =>
          have := length_of_utf8Front front
          escapeChar c ++ escapeBytes rest
      | .invalid length =>
          (bytes.take length).flatMap byteEscape ++
            escapeBytes (tail.drop (length - 1))
      | .incomplete => bytes.flatMap byteEscape
  termination_by bytes.length

def quotedBytes (bytes : List UInt8) : String :=
  String.ofList (['"'] ++ escapeBytes bytes ++ ['"'])

end RemoteMessaging.Text
