/-!
# Cutting texts at separators
-/

namespace RemoteMessaging.Text

/-- The parts of a text between the occurrences of a separator.  A text
without the separator has one part, itself. -/
def split (separator : Char) : List Char → List (List Char)
  | [] => [[]]
  | c :: rest =>
      if c = separator then [] :: split separator rest
      else
        match split separator rest with
        | [] => [[c]]
        | part :: parts => (c :: part) :: parts

/-- What stands before and after the last occurrence of a separator. -/
def splitLast? (separator : Char) : List Char → Option (List Char × List Char)
  | [] => none
  | c :: rest =>
      match splitLast? separator rest with
      | some (before, after) => some (c :: before, after)
      | none => if c = separator then some ([], rest) else none

/-- What stands before and after the first pair of adjacent separators. -/
def splitDouble? (separator : Char) : List Char → Option (List Char × List Char)
  | c :: d :: rest =>
      if c = separator ∧ d = separator then some ([], rest)
      else
        match splitDouble? separator (d :: rest) with
        | some (before, after) => some (c :: before, after)
        | none => none
  | _ => none

def join (separator : List Char) : List (List Char) → List Char
  | [] => []
  | [part] => part
  | part :: parts => part ++ separator ++ join separator parts

end RemoteMessaging.Text
