/-!
# Records as text

The one-line form in which values describe themselves: a record shows its name
and its fields, an optional value shows whether it is there, a collection shows
its members.
-/

namespace RemoteMessaging.Text

/-- A record with named fields. -/
def record (name : String) (fields : List (String × String)) : String :=
  name ++ " \x7b " ++
    ", ".intercalate (fields.map fun field => field.1 ++ ": " ++ field.2) ++
    " \x7d"

def optional : Option String → String
  | none => "None"
  | some text => "Some(" ++ text ++ ")"

def listed (members : List String) : String :=
  "[" ++ ", ".intercalate members ++ "]"

def braced (members : List String) : String :=
  "\x7b" ++ ", ".intercalate members ++ "\x7d"

end RemoteMessaging.Text
