import MeshRoutes.Json.Basic

/-!
# Compact JSON text

`Json.compress` writes a document without blanks, the fields of each object ascending by name.
Every character beyond ASCII stands for itself; quotes, backslashes and control characters are
escaped, the latter by their short form where JSON has one and by four lowercase hexadecimal
digits otherwise.
-/

namespace MeshRoutes

namespace Json

/-- A character as it stands inside a quoted text. -/
def escapeChar (c : Char) : List Char :=
  if c = '"' then ['\\', '"']
  else if c = '\\' then ['\\', '\\']
  else if c = '\n' then ['\\', 'n']
  else if c = '\r' then ['\\', 'r']
  else if c = '\t' then ['\\', 't']
  else if c.toNat = 8 then ['\\', 'b']
  else if c.toNat = 12 then ['\\', 'f']
  else if c.toNat < 32 then
    ['\\', 'u', '0', '0', Text.hexDigit (c.toNat / 16), Text.hexDigit (c.toNat % 16)]
  else [c]

/-- A text between quotes. -/
def quote (s : String) : String :=
  "\"" ++ String.ofList (s.toList.flatMap escapeChar) ++ "\""

mutual

/-- The compact text of a document. -/
def compress : Json → String
  | null => "null"
  | bool true => "true"
  | bool false => "false"
  | int n => Text.intText n
  | decimal x => x.toText
  | str s => quote s
  | arr items => "[" ++ String.intercalate "," (compressItems items) ++ "]"
  | obj fields =>
    let written := (compressFields fields).mergeSort fun a b => decide (a.1 ≤ b.1)
    "\x7b" ++ String.intercalate "," (written.map (·.2)) ++ "\x7d"

/-- The compact text of each element. -/
def compressItems : List Json → List String
  | [] => []
  | item :: items => compress item :: compressItems items

/-- The name of each field with the compact text of the whole field. -/
def compressFields : List (String × Json) → List (String × String)
  | [] => []
  | (name, value) :: fields =>
    (name, quote name ++ ":" ++ compress value) :: compressFields fields

end

end Json

end MeshRoutes
