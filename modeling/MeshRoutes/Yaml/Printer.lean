import MeshRoutes.Json.Basic
import MeshRoutes.Yaml.Printer.Text

/-!
# Written YAML

`Yaml.render` writes a document with one line for each field and element that is not itself a
collection. Fields and elements are indented by two columns, but the elements of a field start
below its name. Empty collections are written with brackets.

## Main definitions

* `Yaml.block`: a document as lines, `Yaml.render`: as a text.
* `Yaml.renderAll`: several documents as a stream.
-/

namespace MeshRoutes.Yaml

/-- Whether a text can be a key in front of a colon; others are written behind a question mark. -/
def isSimpleKey (s : String) : Bool := !s.toList.any isBreak && s.utf8ByteSize ≤ 128

mutual

/-- A document as lines. -/
def block : Json → List Char
  | .null => "null\n".toList
  | .bool true => "true\n".toList
  | .bool false => "false\n".toList
  | .int n => (Text.intText n).toList ++ ['\n']
  | .decimal x => x.toText.toList ++ ['\n']
  | .str s => endLine (writeText s)
  | .arr [] => "[]\n".toList
  | .arr (item :: items) => blockItems (item :: items)
  | .obj [] => "\x7b\x7d\n".toList
  | .obj (field :: fields) => blockFields (field :: fields)

/-- The elements of a sequence, each behind a dash. -/
def blockItems : List Json → List Char
  | [] => []
  | item :: items => ['-', ' '] ++ nest 2 false (block item) ++ blockItems items

/-- The fields of a mapping, each with its name in front. -/
def blockFields : List (String × Json) → List Char
  | [] => []
  | (name, value) :: fields =>
    let written := block value
    let field := if isSimpleKey name then
      writeText name ++ [':'] ++
        match value with
        | .arr (_ :: _) => '\n' :: written
        | .obj (_ :: _) => '\n' :: nest 2 true written
        | _ => ' ' :: nest 2 false written
      else ['?', ' '] ++ nest 2 false (endLine (writeText name)) ++ [':', ' '] ++
        nest 2 false written
    field ++ blockFields fields

end

/-- A document as a text, which ends with a line break. -/
def render (doc : Json) : String :=
  match doc with
  | .arr (_ :: _) | .obj (_ :: _) => String.ofList (block doc)
  | _ => String.ofList (nest 2 false (block doc))

/-- Documents as a stream. -/
def renderAll (documents : List Json) : String :=
  String.intercalate "---\n" (documents.map render)

end MeshRoutes.Yaml
