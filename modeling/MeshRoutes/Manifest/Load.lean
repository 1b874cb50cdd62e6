import MeshRoutes.Failure
import MeshRoutes.Route.Manifest
import MeshRoutes.Yaml.Stream

/-!
# Routes in a stream of manifests

A stream holds objects of any kind, one document each or wrapped in lists. Its routes are those
objects that say they are one. A single object that says so and is not one spoils the stream.

## Main definitions

* `Yaml.Value.leaves`: the objects of a document, inside lists of any depth.
* `Manifest.routesOf?`: the routes among documents.
* `Manifest.load`: the routes of a stream.
-/

namespace MeshRoutes

namespace Yaml.Value

/-- The elements of a list: a mapping with a sequence of items, whatever else it holds. -/
def items? (value : Value) : Option (List Value) := (value.get? "items").bind sequence?

theorem sizeOf_lt_of_mem_items? {value item : Value} {items : List Value}
    (h : value.items? = some items) (mem : item ∈ items) : sizeOf item < sizeOf value := by
  obtain ⟨found, get, sequence⟩ := Option.bind_eq_some_iff.1 h
  exact Nat.lt_trans (sizeOf_lt_of_mem_sequence? sequence mem) (sizeOf_lt_of_get? get)

/-- The objects of a document: the document itself, unless it is a list; then those of its
elements. -/
def leaves (value : Value) : List Value :=
  match _eq : value.items? with
  | some items => items.attach.flatMap fun item => leaves item.1
  | none => [value]
termination_by sizeOf value
decreasing_by exact sizeOf_lt_of_mem_items? _eq item.2

/-- Whether the object says that it is a route. -/
def isRoute (value : Value) : Bool := (value.get? "kind").bind text? == some routeKind

end Yaml.Value

namespace Manifest

/-- The routes among documents, in the order of their occurrence. -/
def routesOf? (documents : List Yaml.Value) : Option (List Route) :=
  ((documents.flatMap Yaml.Value.leaves).filter Yaml.Value.isRoute).mapM Route.ofDocument?

/-- The routes of a stream. -/
def load (stream : String) : Except Failure (List Route) :=
  match (Yaml.parse? stream).bind routesOf? with
  | some routes => .ok routes
  | none => .error (.serialization routeKind none)

end Manifest

end MeshRoutes
