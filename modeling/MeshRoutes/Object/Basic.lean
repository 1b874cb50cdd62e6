import MeshRoutes.Object.Metadata

/-!
# Objects of any kind

An object as the API server lists it: metadata that every object has, and content that only those
who know the kind understand. Reading and writing an object normalises its metadata and leaves
its content as it is.
-/

namespace MeshRoutes

/-- An object of any kind: its metadata, and the other fields in order. -/
structure ApiObject where
  metadata : Metadata := {}
  content : List (String × Json)
deriving Repr

namespace ApiObject

/-- Reads an object. Metadata may be missing, but not null. -/
def ofJson? (doc : Json) : Option ApiObject := do
  let fields ← doc.fields?
  return {
    metadata := ← Document.defaulted fields "metadata" Metadata.ofDocument? {}
    content := fields.filter (·.1 != "metadata") }

/-- The document of an object. -/
def toJson (object : ApiObject) : Json :=
  .obj (("metadata", object.metadata.toJson) :: object.content)

end ApiObject

end MeshRoutes
