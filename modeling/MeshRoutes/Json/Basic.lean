import MeshRoutes.Decimal

/-!
# JSON documents

`Json` is the tree that manifests, API objects and rendered resources are made of. Whole numbers
and numbers written with a fraction or an exponent are kept apart, because a port or a weight is
only accepted when it is written as a whole number.

## Main definitions

* `Json`: a document; an object keeps its fields in the order given.
* `Json.field?`: the value of a field.
-/

namespace MeshRoutes

/-- A JSON document. Whole numbers have at most 64 bits, and any other number is a decimal. -/
inductive Json where
  | null
  | bool (b : Bool)
  | int (n : Int)
  | decimal (x : Decimal)
  | str (s : String)
  | arr (items : List Json)
  | obj (fields : List (String × Json))
deriving Inhabited, Repr

namespace Json

/-- The fields of an object, or `none` for any other document. -/
def fields? : Json → Option (List (String × Json))
  | obj fields => some fields
  | _ => none

/-- The value of the named field, if the document is an object that has it. -/
def field? (name : String) (doc : Json) : Option Json :=
  doc.fields?.bind (List.lookup name)

/-- The text of a text document. -/
def str? : Json → Option String
  | str s => some s
  | _ => none

/-- The elements of a sequence. -/
def arr? : Json → Option (List Json)
  | arr items => some items
  | _ => none

/-- The whole number a document holds. -/
def int? : Json → Option Int
  | int n => some n
  | _ => none

/-- The truth value a document holds. -/
def bool? : Json → Option Bool
  | bool b => some b
  | _ => none

/-- Whether the document is the absent value. -/
def isNull : Json → Bool
  | null => true
  | _ => false

/-- An object of texts. -/
def ofTexts (entries : List (String × String)) : Json :=
  obj (entries.map fun entry => (entry.1, str entry.2))

/-- The fields that have a document. -/
def presentFields (fields : List (String × Option Json)) : List (String × Json) :=
  fields.filterMap fun field => field.2.map (field.1, ·)

/-- A sequence of texts. -/
def strs (texts : List String) : Json := arr (texts.map str)

end Json

end MeshRoutes
