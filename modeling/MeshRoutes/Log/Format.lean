/-!
# Log formats

A log line is a JSON object or a text for people. The names of the formats are read without regard
to the case of ASCII letters.
-/

namespace MeshRoutes

/-- How log lines are written: as one JSON object each, or as text for people. -/
inductive LogFormat where
  | json
  | text
deriving DecidableEq, Repr

namespace LogFormat

/-- The format of a name in lowercase. -/
def ofLower? (name : String) : Option LogFormat :=
  if name == "json" then some json else if name == "text" then some text else none

/-- The format of a name, or the text of the error for a name that is none. -/
def parse (name : String) : Except String LogFormat :=
  let lower := name.map Char.toLower
  match ofLower? lower with
  | some format => .ok format
  | none => .error ("unknown log format '" ++ lower ++ "' (expected 'json' or 'text')")

end LogFormat

end MeshRoutes
