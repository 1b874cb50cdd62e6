import MeshRoutes.Proofs.Object.Metadata
import MeshRoutes.Route.Manifest

/-!
# Routes read back from their documents

What is written of the parts of a route reads back as the same, and what is written of a route does
so as far as its metadata goes.

* `Destination.ofDocument?_toJson`: destinations read back.
* `Route.inWholeSeconds`, `Route.asWritten`: a route without what its metadata loses.
* `Route.ofDocument?_toJson`: routes read back as they are written.
-/

namespace MeshRoutes

open Document

/-! ## Destinations -/

/-- A value that is null when it is absent reads back. -/
theorem Document.nullable_ofOption {α : Type} {f : α → Json} {read : Json → Option α}
    (reads : ∀ a, read (f a) = some a) (present : ∀ a, isNull (f a) = false)
    (value : Option α) : nullable read (Json.ofOption f value) = some value := by
  cases value with
  | none => rfl
  | some a =>
    unfold nullable Json.ofOption
    dsimp only
    rw [present a, reads a]
    rfl

@[simp] theorem Destination.ofDocument?_toJson (d : Destination) :
    Destination.ofDocument? d.toJson = some d := by
  have weight := nullable_ofOption (f := fun weight : UInt32 => .int weight.toNat)
    word32?_int (fun _ => rfl) d.weight
  have port := nullable_ofOption (f := fun port : UInt16 => .int port.toNat)
    word16?_int (fun _ => rfl) d.port
  simp [Destination.toJson, Destination.ofDocument?, App.ofDocument?,
    Destination.selectorOfDocument?, required, defaulted, Document.optional, List.lookup_cons,
    weight, port]

/-! ## Routes -/

theorem Condition.ofDocument?_toJson (condition : Condition) :
    Condition.ofDocument? condition.toJson = some condition := rfl

theorem Route.statusOfDocument?_conditions (conditions : List Condition) :
    Route.statusOfDocument? (Json.obj [("conditions", .arr (conditions.map Condition.toJson))]) =
      some conditions :=
  listOf?_map Condition.ofDocument?_toJson conditions

/-- What is found under the names of the fields of the intent. -/
theorem Route.exists_specFields (route : Route) :
    ∃ fields, route.specToJson = .obj fields ∧ ∀ key, fields.lookup key =
      if key = "host" then some (.str route.host)
      else if key = "path" then (if route.path = "" then none else some route.path).map .str
      else if key = "url" then some (.str route.url)
      else if key = "domain" then some (.obj [("name", .str route.domain.name),
        ("internal", .bool route.domain.internal)])
      else if key = "destinations" then
        some (.arr (route.destinations.map Destination.toJson))
      else none := by
  refine ⟨_, rfl, fun key => ?_⟩
  by_cases empty : route.path = ""
  · simp only [empty, if_pos, List.append_nil, List.cons_append, List.nil_append,
      SortedMap.lookup_cons, List.lookup_nil]
    grind
  · simp only [empty, if_false, List.cons_append, List.nil_append, SortedMap.lookup_cons,
      List.lookup_nil, Option.map_some]

theorem Route.ofSpec?_specToJson (route : Route) :
    Route.ofSpec? route.metadata route.status route.specToJson = some route := by
  obtain ⟨fields, toJson_eq, lookup⟩ := route.exists_specFields
  have text {key : String} {text : Option String} (found : fields.lookup key = text.map .str) :
      defaulted fields key text? "" = some (text.getD "") :=
    defaulted_eq_some "" found text?_str
  have host := @text "host" (some route.host) (lookup "host")
  have url := @text "url" (some route.url) (lookup "url")
  have path : defaulted fields "path" text? "" = some route.path := by
    rw [text (lookup "path")]
    split
    · next empty => rw [empty]; rfl
    · rfl
  have domain : required fields "domain" Domain.ofDocument? = some route.domain := by
    unfold required
    rw [lookup "domain"]
    rfl
  have destinations : defaulted fields "destinations" (listOf? Destination.ofDocument?) [] =
      some route.destinations := by
    unfold defaulted
    rw [lookup "destinations"]
    exact listOf?_map Destination.ofDocument?_toJson route.destinations
  unfold Route.ofSpec?
  rw [toJson_eq, record?_obj, Option.bind_eq_bind, Option.bind_some, host, path, url, domain,
    destinations]
  rfl

section Intent

variable {δ : Type} [Document δ] {spec : δ} {status : Option (List Condition)}

/-- The metadata of a route comes from outside its intent. -/
theorem Route.metadata_of_ofSpec? {metadata : Metadata} {route : Route}
    (read : Route.ofSpec? metadata status spec = some route) : route.metadata = metadata := by
  unfold Route.ofSpec? at read
  simp only [Option.bind_eq_bind, Option.bind_eq_some_iff, Option.pure_def, Option.some.injEq]
    at read
  obtain ⟨_, _, _, _, _, _, _, _, _, _, _, _, rfl⟩ := read
  rfl

/-- With other metadata, the same intent makes the same route but for the metadata. -/
theorem Route.ofSpec?_eq_map (metadata other : Metadata) :
    Route.ofSpec? other status spec =
      (Route.ofSpec? metadata status spec).map fun route => { route with metadata := other } := by
  unfold Route.ofSpec?
  simp only [Option.bind_eq_bind, Option.map_bind, Option.pure_def, Function.comp_def,
    Option.map_some]

end Intent

/-- What is found under the names of the fields of a route. -/
theorem Route.exists_fields (route : Route) :
    ∃ fields, route.toJson = .obj fields ∧ ∀ key, fields.lookup key =
      if key = "apiVersion" then some (.str routeApiVersion)
      else if key = "kind" then some (.str routeKind)
      else if key = "metadata" then some route.metadata.toJson
      else if key = "spec" then some route.specToJson
      else if key = "status" then route.status.map fun conditions =>
        .obj [("conditions", .arr (conditions.map Condition.toJson))]
      else none := by
  refine ⟨_, rfl, fun key => ?_⟩
  cases route.status with
  | none =>
    simp only [Option.map_none, Option.toList_none, List.append_nil, SortedMap.lookup_cons,
      List.lookup_nil]
    grind
  | some conditions =>
    simp only [Option.map_some, Option.toList_some, List.cons_append, List.nil_append,
      SortedMap.lookup_cons, List.lookup_nil]

/-- The route with the times of its metadata in whole seconds. -/
def Route.inWholeSeconds (route : Route) : Route :=
  { route with metadata := route.metadata.inWholeSeconds }

/-- The route as far as its document tells. -/
def Route.asWritten (route : Route) : Route :=
  { route with metadata := route.metadata.asWritten }

/-- A route reads back as far as its document tells. -/
theorem Route.ofDocument?_toJson (route : Route) :
    Route.ofDocument? route.toJson = some route.asWritten := by
  obtain ⟨fields, toJson_eq, lookup⟩ := route.exists_fields
  have metadata : required fields "metadata" Metadata.ofDocument? =
      some route.metadata.asWritten := by
    unfold required
    rw [lookup "metadata"]
    exact route.metadata.ofDocument?_toJson
  have status : Document.optional fields "status" Route.statusOfDocument? = some route.status :=
    optional_eq_some (lookup "status") Route.statusOfDocument?_conditions fun _ => rfl
  have spec : required fields "spec" (Route.ofSpec? route.metadata.asWritten route.status) =
      some route.asWritten := by
    unfold required
    rw [lookup "spec"]
    exact route.asWritten.ofSpec?_specToJson
  unfold Route.ofDocument?
  rw [toJson_eq, entries?_obj, Option.bind_eq_bind, Option.bind_some, metadata,
    Option.bind_eq_bind, Option.bind_some, status, Option.bind_eq_bind, Option.bind_some, spec]

theorem Route.asWritten_eq_iff (route : Route) :
    route.asWritten = route ↔ route.metadata.IsExact := by
  rw [← route.metadata.asWritten_eq_iff]
  cases route
  simp only [asWritten, mk.injEq, and_true]

/-- The metadata of a route that was read was read, too. -/
theorem Route.exists_metadata_of_ofDocument? {doc : Json} {route : Route}
    (read : Route.ofDocument? doc = some route) :
    ∃ metadata : Json, Metadata.ofDocument? metadata = some route.metadata := by
  obtain ⟨fields, _, read⟩ := Option.bind_eq_some_iff.1 read
  obtain ⟨metadata, metadata_read, read⟩ := Option.bind_eq_some_iff.1 read
  obtain ⟨status, _, read⟩ := Option.bind_eq_some_iff.1 read
  obtain ⟨given, _, given_read⟩ := Option.bind_eq_some_iff.1 metadata_read
  obtain ⟨spec, _, spec_read⟩ := Option.bind_eq_some_iff.1 read
  refine ⟨given, ?_⟩
  rw [given_read, Route.metadata_of_ofSpec? spec_read]

/-- A route that was read from JSON loses no more than the fractions of its seconds. -/
theorem Route.asWritten_of_ofDocument? {doc : Json} {route : Route}
    (read : Route.ofDocument? doc = some route) : route.asWritten = route.inWholeSeconds := by
  obtain ⟨_, metadata_read⟩ := Route.exists_metadata_of_ofDocument? read
  unfold asWritten inWholeSeconds
  rw [Metadata.asWritten_of_ofDocument? metadata_read]

/-- The fractions of seconds in the metadata of a route are not written. -/
theorem Route.toJson_inWholeSeconds (route : Route) :
    route.inWholeSeconds.toJson = route.toJson := by
  unfold toJson
  rw [inWholeSeconds, Metadata.toJson_inWholeSeconds]
  rfl

/-- A route that was read loses nothing when it has no fractions of seconds. -/
theorem Route.inWholeSeconds_eq_iff {doc : Json} {route : Route}
    (read : Route.ofDocument? doc = some route) :
    route.inWholeSeconds = route ↔ route.metadata.IsExact := by
  rw [← Route.asWritten_of_ofDocument? read, Route.asWritten_eq_iff]

/-- A route that was created half a second after a whole one. -/
def Route.createdWithinSecond : Route where
  metadata :=
    { name := some "r"
      creationTimestamp := some ⟨⟨2024, 1, 2, 3, 4, 5⟩, 500000000, by decide, by decide⟩ }
  domain := { name := "example.com" }

/-- A document of the route. -/
def Route.documentCreatedWithinSecond : Json :=
  .obj [("kind", .str routeKind),
    ("metadata", .obj [("name", .str "r"), ("creationTimestamp", .str "2024-01-02T03:04:05.5Z")]),
    ("spec", .obj [("domain", .obj [("name", .str "example.com")])])]

theorem Route.ofDocument?_documentCreatedWithinSecond :
    Route.ofDocument? Route.documentCreatedWithinSecond = some Route.createdWithinSecond := by
  decide +kernel

theorem Route.createdWithinSecond_not_whole :
    Route.createdWithinSecond.inWholeSeconds ≠ Route.createdWithinSecond := by
  decide

end MeshRoutes
