import MeshRoutes.Json.Basic

/-!
# Schemas of objects

What the API server demands of an object before it stores it.

## Main definitions

* `Schema`: the schemas, with `SchemaNotes` for what does not depend on the type.
* `Schema.toJson`: a schema as a document, its fields ascending by name.
-/

namespace MeshRoutes

/-- What a schema says about a value of any type: what it is called, what it means, what is stored
when there is none, and whether null stands for an absent one. -/
structure SchemaNotes where
  title : Option String := none
  description : Option String := none
  default : Option Json := none
  nullable : Bool := false
deriving Repr

/-- A schema. The format of a whole number is a hint that nobody checks. A map takes any names, and
a record given ones, some of which have to be there. -/
inductive Schema where
  | text (notes : SchemaNotes)
  | truth (notes : SchemaNotes)
  | whole (notes : SchemaNotes) (format : String) (minimum maximum : Option Decimal)
  | list (notes : SchemaNotes) (items : Schema)
  | map (notes : SchemaNotes) (values : Schema)
  | record (notes : SchemaNotes) (properties : List (String × Schema)) (required : List String)
deriving Repr

namespace Schema

/-- What a schema says about a value of any type. -/
def notes : Schema → SchemaNotes
  | text notes => notes
  | truth notes => notes
  | whole notes _ _ _ => notes
  | list notes _ => notes
  | map notes _ => notes
  | record notes _ _ => notes

/-- The name of the type of a schema. -/
def typeName : Schema → String
  | text _ => "string"
  | truth _ => "boolean"
  | whole _ _ _ _ => "integer"
  | list _ _ => "array"
  | map _ _ => "object"
  | record _ _ _ => "object"

/-- A field that is there if it has a value. -/
def fieldOf {α : Type} (name : String) (write : α → Json) (value : Option α) :
    List (String × Json) :=
  (value.map fun a => (name, write a)).toList

mutual

/-- The document of a schema. -/
def toJson (schema : Schema) : Json :=
  let notes := schema.notes
  let front := fieldOf "default" id notes.default ++ fieldOf "description" .str notes.description
  let nullable := if notes.nullable then [("nullable", Json.bool true)] else []
  let back := fieldOf "title" .str notes.title ++ [("type", .str schema.typeName)]
  match schema with
  | text _ => .obj (front ++ nullable ++ back)
  | truth _ => .obj (front ++ nullable ++ back)
  | whole _ format minimum maximum =>
    .obj (front ++ [("format", .str format)] ++ fieldOf "maximum" .decimal maximum ++
      fieldOf "minimum" .decimal minimum ++ nullable ++ back)
  | list _ items => .obj (front ++ [("items", toJson items)] ++ nullable ++ back)
  | map _ values => .obj ([("additionalProperties", toJson values)] ++ front ++ nullable ++ back)
  | record _ properties required =>
    let required := if required.isEmpty then [] else [("required", Json.strs required)]
    .obj (front ++ nullable ++ [("properties", .obj (propertiesToJson properties))] ++ required ++
      back)

/-- The documents of properties under their names. -/
def propertiesToJson : List (String × Schema) → List (String × Json)
  | [] => []
  | (name, schema) :: properties => (name, toJson schema) :: propertiesToJson properties

end

end Schema

end MeshRoutes
