import MeshRoutes.Proofs.Cluster.Exchange
import MeshRoutes.Proofs.Route.Listing

/-!
# Listed documents, one by one

The objects of a list are read in an untyped form first, which normalises their metadata, takes
their API version and kind apart and keeps the rest, and then as routes. The way through the untyped
form costs the fractions of seconds in metadata and shows nowhere else: the routes of a list are
those that its documents describe, in order, and a document that describes none is passed over
alone.

* `ReadsEach`: the routes of untyped objects are those of their documents.
* `listedRoutes_lossless`: so it is for any documents that give their metadata.
* `not_all_listed_unchanged`: half a second does not come through.
-/

namespace MeshRoutes

/-- The routes of untyped objects are those that their documents describe, with the times of their
metadata in whole seconds. A route that has no fractions of seconds comes through as it is, and a
document that describes no route is passed over as if it were not there. -/
structure ReadsEach (docs : List Json) (objects : List ApiObject) : Prop where
  each : List.Forall₂ (fun doc object =>
    object.route? = (Route.ofDocument? doc).map Route.inWholeSeconds) docs objects
  listed : listedRoutes objects = (docs.filterMap Route.ofDocument?).map Route.inWholeSeconds
  unchanged : ∀ route ∈ docs.filterMap Route.ofDocument?,
    route.inWholeSeconds = route ↔ route.metadata.IsExact
  alone : ∀ front doc back, docs = front ++ doc :: back → Route.ofDocument? doc = none →
    listedRoutes objects = ((front ++ back).filterMap Route.ofDocument?).map Route.inWholeSeconds

/-- Objects that hold what their documents say of routes are read as the documents are. -/
theorem readsEach_of_carries {docs : List Json} {objects : List ApiObject}
    (carries : List.Forall₂ (fun doc object => object.Carries doc) docs objects) :
    ReadsEach docs objects := by
  have each := carries.imp fun doc object => ApiObject.Carries.route?_eq
  have listed := listedRoutes_of_carries carries
  refine ⟨each, listed, fun route mem => ?_, ?_⟩
  · obtain ⟨doc, _, read⟩ := List.mem_filterMap.1 mem
    exact Route.inWholeSeconds_eq_iff read
  · rintro front doc back rfl not_route
    rw [listed, List.filterMap_append, List.filterMap_append, List.filterMap_cons_none not_route]

/-- Documents that give their metadata are read without loss but for fractions of seconds: as
untyped objects they are the routes that they describe, one by one, whatever becomes of their API
versions and kinds, and those routes are what is read from a reply that lists the documents. -/
theorem listedRoutes_lossless {docs : List Json} {objects : List ApiObject}
    (read : docs.mapM ApiObject.ofJson? = some objects)
    (given : ∀ doc ∈ docs, ∃ metadata, doc.field? "metadata" = some metadata) :
    ReadsEach docs objects ∧
    (∀ others, List.Forall₂ (fun doc other => ApiObject.Carries other doc) docs others →
      ReadsEach docs others) ∧
    ∀ reply list, reply.document = .ok list → listItems? list = some docs →
      readRoutes reply =
        .ok ((docs.filterMap Route.ofDocument?).map Route.inWholeSeconds) := by
  have reads := readsEach_of_carries (forall₂_carries_of_mapM read given)
  refine ⟨reads, fun others => readsEach_of_carries, fun reply list answered lists => ?_⟩
  have objects_read : (listItems? list).bind (List.mapM ApiObject.ofJson?) = some objects := by
    rw [lists, Option.bind_some, read]
  unfold readRoutes readReply
  rw [answered]
  simp only [bind, Except.bind, objects_read, pure, Except.pure, Except.map, reads.listed]

/-- A route with a name and one destination with a port. -/
def Route.documentWithPort (name : String) (port : Int) : Json :=
  .obj [
    ("apiVersion", .str routeApiVersion),
    ("kind", .str routeKind),
    ("metadata", .obj [("name", .str name), ("namespace", .str "ns"),
      ("creationTimestamp", .str "2024-01-02T05:04:05+02:00")]),
    ("spec", .obj [("domain", .obj [("name", .str "example.com")]),
      ("destinations", .arr [.obj [("guid", .str name), ("port", .int port),
        ("app", .obj [("guid", .str "a"), ("process", .obj [("type", .str "web")])])]])])]

/-- A route whose records are sequences, with empty and absent metadata and no API version. -/
def Route.positionalDocument (name : String) : Json :=
  .obj [
    ("apiVersion", .int 1),
    ("spec", .arr [.str "a", .str "", .str "", .arr [.str "example.com"],
      .arr [.arr [.str name, .null, .null, .arr [.str "a", .arr [.str "web"]]]]]),
    ("status", .arr [.arr [.arr [.str "Ready", .bool true]]]),
    ("metadata", .obj [("name", .str name), ("labels", .obj []), ("annotations", .null)])]

/-- A port that is no port hides one route of three, and the others are read in either form. -/
theorem listedRoutes_lossless_of_three :
    let docs := [Route.documentWithPort "r-0" 8080, Route.documentWithPort "r-1" 70000,
      Route.positionalDocument "r-2"]
    ∃ objects, docs.mapM ApiObject.ofJson? = some objects ∧
      (∀ doc ∈ docs, ∃ metadata, doc.field? "metadata" = some metadata) ∧
      ReadsEach docs objects ∧
      docs.map (fun doc => (Route.ofDocument? doc).isSome) = [true, false, true] ∧
      (listedRoutes objects).map Route.guid = ["r-0", "r-2"] := by
  have given : ∀ doc ∈ [Route.documentWithPort "r-0" 8080, Route.documentWithPort "r-1" 70000,
      Route.positionalDocument "r-2"], ∃ metadata, doc.field? "metadata" = some metadata := by
    intro doc mem
    simp only [List.mem_cons, List.not_mem_nil, or_false] at mem
    rcases mem with rfl | rfl | rfl <;> exact ⟨_, rfl⟩
  exact ⟨_, rfl, given, (listedRoutes_lossless rfl given).1, rfl, rfl⟩

/-- A route that was created within a second is listed as created at its beginning. -/
theorem not_all_listed_unchanged :
    ¬ ∀ (docs : List Json) (objects : List ApiObject),
      docs.mapM ApiObject.ofJson? = some objects →
      (∀ doc ∈ docs, ∃ metadata, doc.field? "metadata" = some metadata) →
      listedRoutes objects = docs.filterMap Route.ofDocument? := by
  intro all_unchanged
  have read := Route.ofDocument?_documentCreatedWithinSecond
  have given : ∀ doc ∈ [Route.documentCreatedWithinSecond],
      ∃ metadata, doc.field? "metadata" = some metadata :=
    List.forall_mem_singleton.2 ⟨_, rfl⟩
  have listed := listedRoutes_of_carries (forall₂_carries_of_mapM rfl given)
  rw [all_unchanged _ _ rfl given, List.filterMap_cons_some read] at listed
  exact Route.createdWithinSecond_not_whole (List.cons.inj listed).1.symm

end MeshRoutes
