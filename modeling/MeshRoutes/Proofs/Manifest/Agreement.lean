import MeshRoutes.Program
import MeshRoutes.Proofs.Compile.Relevance
import MeshRoutes.Proofs.Manifest.Leaves
import MeshRoutes.Proofs.Mesh.Values
import MeshRoutes.Proofs.Pass.Execution
import MeshRoutes.Proofs.Route.Listing
import MeshRoutes.Proofs.Route.Values

/-!
# Files and clusters

The same objects, given in a file and listed by a server, are the same routes but for the fractions
of seconds, which a server does not list. Compilation does not look at them, and so the resources
that are printed for the file are those that a pass over the server stores. Two kinds of objects are
left out. One with a list of items stands for its items in a file, and only the server's format has
a record given as a sequence.

* `Manifest.routesOf?_of_mapM`: the routes of a file are those that its documents describe.
* `Manifest.compiles_as_listed`: what is printed for a file is what a pass stores.
* `Manifest.not_all_loaded_as_listed`: neither kind can be let in, and fractions of seconds differ.
-/

namespace MeshRoutes

open Yaml (Value)

/-! ## Objects in a file -/

/-- A document of a route: it says what it is, gives its metadata and its records by name, and has
no items of its own. -/
structure Route.IsManifest (doc : Json) : Prop where
  kind : doc.field? "kind" = some (.str routeKind)
  metadata : ∃ metadata, doc.field? "metadata" = some metadata
  distinct : doc.hasDistinctNames = true
  named : Route.schema.namesRecords doc = true
  no_items : ∀ items, doc.field? "items" ≠ some (.arr items)

/-- The values of a file with the given documents: one for each of them, or a list of all. -/
def Manifest.Presents (values : List Value) (docs : List Json) : Prop :=
  values = docs.map Value.ofJson ∨ ∃ list, list.items? = some (docs.map Value.ofJson) ∧
    values = [list]

namespace Yaml.Value

theorem items?_ofJson (doc : Json) :
    (ofJson doc).items? = ((doc.field? "items").bind Json.arr?).map (List.map ofJson) := by
  unfold items?
  rw [get?_ofJson]
  cases doc.field? "items" <;> simp

theorem leaves_ofJson {doc : Json} (no_items : ∀ items, doc.field? "items" ≠ some (.arr items)) :
    (ofJson doc).leaves = [ofJson doc] := by
  refine leaves_of_no_items ?_
  rw [items?_ofJson]
  cases found : doc.field? "items" with
  | none => rfl
  | some items =>
    cases items with
    | arr items => exact absurd found (no_items items)
    | _ => rfl

theorem isRoute_ofJson {doc : Json} (kind : doc.field? "kind" = some (.str routeKind)) :
    (ofJson doc).isRoute = true := by
  unfold isRoute
  rw [get?_ofJson, kind]
  exact beq_self_eq_true _

end Yaml.Value

section Manifest

variable {docs : List Json} {objects : List ApiObject} {values : List Value}

/-- The objects in a file are its documents, in order. -/
theorem Manifest.Presents.leaves_eq (presents : Manifest.Presents values docs)
    (manifests : ∀ doc ∈ docs, Route.IsManifest doc) :
    values.flatMap Value.leaves = docs.map Value.ofJson := by
  have each : (docs.map Value.ofJson).flatMap Value.leaves = docs.map Value.ofJson := by
    rw [List.flatMap_map, List.map_eq_flatMap]
    exact List.flatMap_congr fun doc mem => Value.leaves_ofJson (manifests doc mem).no_items
  rcases presents with rfl | ⟨list, items, rfl⟩
  · exact each
  · rw [List.flatMap_singleton, Value.leaves_of_items items, each]

/-- The routes of a file are those that its documents describe, in the same order. -/
theorem Manifest.routesOf?_of_mapM (manifests : ∀ doc ∈ docs, Route.IsManifest doc)
    {routes : List Route} (described : docs.mapM Route.ofDocument? = some routes)
    (presents : Manifest.Presents values docs) : Manifest.routesOf? values = some routes := by
  unfold Manifest.routesOf?
  have all_routes : (docs.map Value.ofJson).filter Value.isRoute = docs.map Value.ofJson := by
    refine List.filter_eq_self.2 fun value mem => ?_
    obtain ⟨doc, doc_mem, rfl⟩ := List.mem_map.1 mem
    exact Value.isRoute_ofJson (manifests doc doc_mem).kind
  rw [presents.leaves_eq manifests, all_routes, mapM_eq_some_iff, List.forall₂_map_left_iff]
  refine ((List.forall₂_and_left _ _).2 ⟨manifests, mapM_eq_some_iff.1 described⟩).imp ?_
  rintro doc route ⟨manifest, read⟩
  exact Route.carriesOver doc route manifest.named manifest.distinct read

/-- Objects that are all listed as routes are described as routes by their documents, and listed in
whole seconds. -/
theorem exists_routes_of_listed (manifests : ∀ doc ∈ docs, Route.IsManifest doc)
    (read : docs.mapM ApiObject.ofJson? = some objects)
    (listed : ∀ object ∈ objects, ∃ route, object.route? = some route) :
    ∃ routes, docs.mapM Route.ofDocument? = some routes ∧
      listedRoutes objects = routes.map Route.inWholeSeconds := by
  have carries := forall₂_carries_of_mapM read fun doc mem => (manifests doc mem).metadata
  have each : ∀ doc ∈ docs, ∃ route, Route.ofDocument? doc = some route := by
    intro doc mem
    obtain ⟨object, object_mem, step⟩ :=
      exists_mem_left_of_forall₂ (mapM_eq_some_iff.1 read).flip mem
    obtain ⟨metadata, given⟩ := (manifests doc mem).metadata
    exact (ApiObject.exists_route?_iff step given).1 (listed object object_mem)
  obtain ⟨routes, described⟩ := exists_mapM_eq_some_iff.2 each
  refine ⟨routes, described, ?_⟩
  rw [listedRoutes_of_carries carries, filterMap_eq_of_mapM_eq_some described]

end Manifest

/-! ## Stored resources -/

/-- The documents that a pass stores are those of the compiled resources. -/
theorem PassCompletion.documents_perm {compiled : Compiled} {server : ApiServer} {plan : PrunePlan}
    {made : List ClusterWrite} (completion : PassCompletion compiled server plan made) :
    (made.filterMap ClusterWrite.document?).Perm (Manifest.documents compiled) := by
  obtain ⟨s, v, d, e, applied, _, all_d, all_e, rfl⟩ := completion
  have services : (s.filterMap ClusterWrite.document?).Perm
      (compiled.services.map Service.toJson) := by
    refine (applied.services_perm.filterMap _).trans (.of_eq ?_)
    rw [Compiled.serviceWrites, List.filterMap_map]
    exact congrFun (List.filterMap_eq_map (f := Service.toJson)) compiled.services
  have virtualServices : (v.filterMap ClusterWrite.document?).Perm
      (compiled.virtualServices.map VirtualService.toJson) := by
    refine (applied.virtualServices_perm.filterMap _).trans (.of_eq ?_)
    rw [Compiled.virtualServiceWrites, List.filterMap_map]
    exact congrFun (List.filterMap_eq_map (f := VirtualService.toJson)) compiled.virtualServices
  have removed {changes removals : List ClusterWrite} (all : changes.Perm removals)
      (none : removals.filterMap ClusterWrite.document? = []) :
      changes.filterMap ClusterWrite.document? = [] := by
    exact List.perm_nil.1 (none ▸ all.filterMap ClusterWrite.document?)
  have no_d := removed all_d (by simp [PrunePlan.virtualServiceWrites, ClusterWrite.document?])
  have no_e := removed all_e (by simp [PrunePlan.serviceWrites, ClusterWrite.document?])
  rw [List.filterMap_append, List.filterMap_append, List.filterMap_append, no_d, no_e,
    List.append_nil, List.append_nil, Manifest.documents]
  exact (services.append virtualServices).trans List.perm_append_comm

/-- A document of a route with the given intent and some more fields. -/
def Route.documentOf (spec : Json) (more : List (String × Json)) : Json :=
  .obj (("kind", .str routeKind) ::
    ("metadata", .obj [("name", .str "r"), ("namespace", .str "ns")]) :: ("spec", spec) :: more)

/-- A route with one destination. -/
def Route.documentOfOne : Json :=
  documentOf (.obj [("domain", .obj [("name", .str "example.com")]),
    ("destinations", .arr [.obj [("guid", .str "d"), ("port", .int 8080),
      ("app", .obj [("guid", .str "a"), ("process", .obj [("type", .str "web")])])]])])
    [("unknown", .null)]

/-- A list of objects. -/
def Manifest.listDocument (docs : List Json) : Json :=
  .obj [("kind", .str "List"), ("items", .arr docs)]

/-- A document with items of its own stands for its items. -/
theorem Manifest.routesOf?_of_own_items {doc : Json} {items : List Json}
    (own : doc.field? "items" = some (.arr items)) :
    Manifest.routesOf? [Value.ofJson doc] = Manifest.routesOf? (items.map Value.ofJson) := by
  have list : (Value.ofJson doc).items? = some (items.map Value.ofJson) := by
    rw [Value.items?_ofJson, own]
    rfl
  unfold Manifest.routesOf?
  rw [List.flatMap_singleton, Value.leaves_of_items list]

/-- A document of a route without items of its own is read, or spoils its stream. -/
theorem Manifest.routesOf?_of_no_items {doc : Json}
    (kind : doc.field? "kind" = some (.str routeKind))
    (no_items : ∀ items, doc.field? "items" ≠ some (.arr items)) :
    Manifest.routesOf? [Value.ofJson doc] =
      (Route.ofDocument? (Value.ofJson doc)).map fun route => [route] := by
  unfold Manifest.routesOf?
  rw [List.flatMap_singleton, Value.leaves_ofJson no_items,
    List.filter_cons_of_pos (Value.isRoute_ofJson kind), List.filter_nil,
    List.mapM_cons, List.mapM_nil]
  cases Route.ofDocument? (Value.ofJson doc) <;> rfl

/-- An intent that is given as a sequence is not read in a file. -/
theorem Route.ofDocument?_value_of_positional {doc : Json} {items : List Json}
    (positional : doc.field? "spec" = some (.arr items)) :
    Route.ofDocument? (Value.ofJson doc) = none := by
  cases doc with
  | obj fields =>
    have entries : Document.entries? (Value.ofJson (.obj fields)) =
        some (Value.valuesOf fields) := Value.entries?_ofJson_obj fields
    have no_spec (metadata : Metadata) (status : Option (List Condition)) :
        Document.required (Value.valuesOf fields) "spec" (Route.ofSpec? metadata status) =
          none := by
      have found : fields.lookup "spec" = some (.arr items) := positional
      rw [Document.required, Value.lookup_valuesOf, found]
      rfl
    unfold Route.ofDocument?
    rw [entries]
    simp [no_spec]
  | _ => cases positional

end MeshRoutes
