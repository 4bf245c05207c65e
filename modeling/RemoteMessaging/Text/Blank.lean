/-!
# Blank characters

A character is blank when it has the Unicode property White_Space.  The
property holds of twenty-five characters and has been stable for many versions.
-/

namespace RemoteMessaging.Text

/-- Closed ranges of the blank code points, ascending and apart. -/
def blankRanges : List (Nat × Nat) :=
  [(0x09, 0x0d), (0x20, 0x20), (0x85, 0x85), (0xa0, 0xa0), (0x1680, 0x1680),
   (0x2000, 0x200a), (0x2028, 0x2029), (0x202f, 0x202f), (0x205f, 0x205f),
   (0x3000, 0x3000)]

def isBlank (c : Char) : Bool :=
  blankRanges.any fun range => range.1 ≤ c.toNat && c.toNat ≤ range.2

def trimFront (text : List Char) : List Char :=
  text.dropWhile isBlank

def trim (text : List Char) : List Char :=
  (trimFront (trimFront text).reverse).reverse

end RemoteMessaging.Text
