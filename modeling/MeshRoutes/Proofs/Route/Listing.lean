import MeshRoutes.Proofs.Route.Documents
import MeshRoutes.Route.Listing

/-!
# Listed objects as routes

An object is listed with its metadata in normal form and its content as it is. For what it is as a
route, only the fractions of its seconds matter, which the normal form does not have: otherwise it
is the route that its document describes.

* `ApiObject.Carries`: whether an object holds what a document says of a route.
* `ApiObject.route?_eq_ofDocument?`: an object that gives its metadata is the route it describes.
* `listedRoutes_of_carries`: the routes of a list of objects.
-/

namespace MeshRoutes

theorem ApiObject.ofJson?_eq_some_iff {doc : Json} {object : ApiObject} :
    ApiObject.ofJson? doc = some object ↔ ∃ fields, doc = .obj fields ∧
      Document.defaulted fields "metadata" Metadata.ofDocument? {} = some object.metadata ∧
      object.content = fields.filter (·.1 != "metadata") := by
  unfold ApiObject.ofJson?
  cases doc with
  | obj fields =>
    obtain ⟨metadata, content⟩ := object
    cases read : Document.defaulted fields "metadata" Metadata.ofDocument? {} with
    | none => simp [Json.fields?, read]
    | some metadata' => simp [Json.fields?, read, eq_comm]
  | _ => simp [Json.fields?]

/-- Whether an object holds what a document says of a route: its metadata, and its other fields as
they are. The API version and the kind are left to the untyped form, which takes them for its own
when both are texts and may lose them when they are not. -/
structure ApiObject.Carries (object : ApiObject) (doc : Json) : Prop where
  metadata : ∃ given, doc.field? "metadata" = some given ∧
    Metadata.ofDocument? given = some object.metadata
  content : ∀ name, name ≠ "metadata" → name ≠ "apiVersion" → name ≠ "kind" →
    object.content.lookup name = doc.field? name

/-- An object is read with what its document says of a route. -/
theorem ApiObject.carries_of_ofJson? {doc metadata : Json} {object : ApiObject}
    (read : ApiObject.ofJson? doc = some object) (given : doc.field? "metadata" = some metadata) :
    object.Carries doc := by
  obtain ⟨fields, rfl, metadata_read, content⟩ := ApiObject.ofJson?_eq_some_iff.1 read
  have found : fields.lookup "metadata" = some metadata := given
  refine ⟨⟨metadata, given, ?_⟩, fun name other _ _ => ?_⟩
  · unfold Document.defaulted at metadata_read
    rwa [found] at metadata_read
  · rw [content]
    exact SortedMap.lookup_filter_ne other fields

/-- The metadata of an object is written with its times in whole seconds, and a route is made of the
metadata, the intent and the status alone, in whatever form the document has them. -/
theorem ApiObject.Carries.route?_eq {doc : Json} {object : ApiObject}
    (carries : object.Carries doc) :
    object.route? = (Route.ofDocument? doc).map Route.inWholeSeconds := by
  obtain ⟨⟨metadata, given, metadata_reads⟩, content⟩ := carries
  cases doc with
  | obj fields =>
    have found : fields.lookup "metadata" = some metadata := given
    have others {name : String} (ne : name ≠ "metadata") (not_version : name ≠ "apiVersion")
        (not_kind : name ≠ "kind") :
        (("metadata", object.metadata.toJson) :: object.content).lookup name =
          fields.lookup name := by
      rw [SortedMap.lookup_cons, if_neg ne]
      exact content name ne not_version not_kind
    have status := others (by decide : "status" ≠ "metadata") (by decide) (by decide)
    have spec := others (by decide : "spec" ≠ "metadata") (by decide) (by decide)
    have metadata_rereads : Metadata.ofDocument? object.metadata.toJson =
        some object.metadata.inWholeSeconds := by
      rw [object.metadata.ofDocument?_toJson, Metadata.asWritten_of_ofDocument? metadata_reads]
    have made (status : Option (List Condition)) (spec : Json) :
        Route.ofSpec? object.metadata.inWholeSeconds status spec =
          (Route.ofSpec? object.metadata status spec).map Route.inWholeSeconds := by
      rw [Route.ofSpec?_eq_map object.metadata]
      refine Option.map_congr fun route made => ?_
      rw [Route.inWholeSeconds, Route.metadata_of_ofSpec? made]
    unfold ApiObject.route? ApiObject.toJson Route.ofDocument? Document.optional
      Document.defaulted Document.required
    simp only [Document.entries?_obj, Option.bind_eq_bind, Option.bind_some, status, spec, found,
      SortedMap.lookup_cons, if_true, metadata_rereads, metadata_reads, Option.map_bind,
      Function.comp_def, made]
  | _ => cases given

/-- An object that gives its metadata is the route that its document describes, in whole seconds. -/
theorem ApiObject.route?_eq_ofDocument? {doc metadata : Json} {object : ApiObject}
    (read : ApiObject.ofJson? doc = some object) (given : doc.field? "metadata" = some metadata) :
    object.route? = (Route.ofDocument? doc).map Route.inWholeSeconds :=
  (ApiObject.carries_of_ofJson? read given).route?_eq

theorem ApiObject.exists_route?_iff {doc metadata : Json} {object : ApiObject}
    (read : ApiObject.ofJson? doc = some object) (given : doc.field? "metadata" = some metadata) :
    (∃ route, object.route? = some route) ↔ ∃ route, Route.ofDocument? doc = some route := by
  rw [ApiObject.route?_eq_ofDocument? read given]
  cases Route.ofDocument? doc <;> simp

/-! ## Lists of objects -/

section Lists

variable {docs : List Json} {objects : List ApiObject}

theorem forall₂_carries_of_mapM (read : docs.mapM ApiObject.ofJson? = some objects)
    (given : ∀ doc ∈ docs, ∃ metadata, doc.field? "metadata" = some metadata) :
    List.Forall₂ (fun doc object => ApiObject.Carries object doc) docs objects := by
  refine ((List.forall₂_and_left _ _).2 ⟨given, mapM_eq_some_iff.1 read⟩).imp ?_
  rintro doc object ⟨⟨metadata, found⟩, step⟩
  exact ApiObject.carries_of_ofJson? step found

/-- What is picked from related lists is the same when it is the same for related elements. -/
theorem filterMap_eq_of_forall₂ {α β γ : Type} {pick : α → Option γ} {pick' : β → Option γ}
    {as : List α} {bs : List β} (same : List.Forall₂ (fun a b => pick' b = pick a) as bs) :
    bs.filterMap pick' = as.filterMap pick := by
  induction same with
  | nil => rfl
  | cons here _ ih => rw [List.filterMap_cons, List.filterMap_cons, here, ih]

/-- Objects are listed as the routes that their documents describe, in whole seconds. -/
theorem listedRoutes_of_carries
    (carries : List.Forall₂ (fun doc object => ApiObject.Carries object doc) docs objects) :
    listedRoutes objects = (docs.filterMap Route.ofDocument?).map Route.inWholeSeconds := by
  have each := carries.imp fun doc object => ApiObject.Carries.route?_eq
  rw [listedRoutes, filterMap_eq_of_forall₂ each, List.map_filterMap]

end Lists

end MeshRoutes
