import MeshRoutes.Proofs.Route.Documents

/-!
# Every resource type makes the round trip

A value is written as a document that reads back as exactly this value, so what is written of a
document that reads at all is its normal form: with all defaults filled in, without unknown fields,
and with every record as an object. The metadata of a route is the exception. Its times are written
in whole seconds, and so they read back.

* `RoundTrips`: a reader and a writer belong together.
* `WritesLittle`: what is left out of written resources, and what is null in them.
* `resources_roundTrip`: routes, destinations, virtual services, services and their metadata.
* `Route.not_all_roundTrip`: what a route may lose.
-/

namespace MeshRoutes

/-- A reader and a writer of the values of a type belong together. A value is written as a document
that reads back as what is kept of it, and so does what is written of a value that was read, which
is also written as it stands. -/
structure RoundTrips {α : Type} (kept : α → α) (read : Json → Option α) (write : α → Json) :
    Prop where
  reads_back : ∀ a, read (write a) = some (kept a)
  normalizes : ∀ doc a, read doc = some a →
    ∃ normal, write a = normal ∧ read normal = some (kept a) ∧
      (read normal).map write = some normal

theorem RoundTrips.of_reads_back {α : Type} {read : Json → Option α} {write : α → Json}
    (reads_back : ∀ a, read (write a) = some a) : RoundTrips id read write where
  reads_back := reads_back
  normalizes _ a _ := ⟨write a, rfl, reads_back a, by rw [reads_back a]; rfl⟩

theorem Route.roundTrips : RoundTrips Route.asWritten Route.ofDocument? Route.toJson where
  reads_back := Route.ofDocument?_toJson
  normalizes doc route read := by
    refine ⟨route.toJson, rfl, route.ofDocument?_toJson, ?_⟩
    rw [route.ofDocument?_toJson, Option.map_some, Route.asWritten_of_ofDocument? read,
      Route.toJson_inWholeSeconds]

/-- What is left out of written resources, and what is null in them: an empty path, an absent
status, a match of no prefix, and labels and annotations that there are none of are left out, and
an absent weight or port is null. -/
structure WritesLittle : Prop where
  path : ∀ route : Route, route.specToJson.field? "path" = none ↔ route.path = ""
  status : ∀ route : Route, route.toJson.field? "status" = none ↔ route.status = none
  weight : ∀ d : Destination, d.toJson.field? "weight" = some .null ↔ d.weight = none
  port : ∀ d : Destination, d.toJson.field? "port" = some .null ↔ d.port = none
  prefixes : ∀ rule : HttpRule, rule.toJson.field? "match" = none ↔ rule.prefixes = []
  labels : ∀ metadata : ResourceMetadata,
    metadata.toJson.field? "labels" = none ↔ metadata.labels = ∅
  annotations : ∀ metadata : ResourceMetadata,
    metadata.toJson.field? "annotations" = none ↔ metadata.annotations = ∅

theorem TextMap.unlessEmpty_eq_none_iff (map : TextMap) : map.unlessEmpty = none ↔ map = ∅ := by
  unfold unlessEmpty
  constructor
  · intro absent
    split at absent
    · next isEmpty => exact SortedMap.ext (List.isEmpty_iff.1 isEmpty)
    · cases absent
  · rintro rfl
    rfl

theorem ofOption_eq_null_iff {α : Type} {f : α → Json} (present : ∀ a, f a ≠ .null)
    (value : Option α) : Json.ofOption f value = .null ↔ value = none := by
  cases value with
  | none => simp [Json.ofOption]
  | some a => simp [Json.ofOption, present a]

theorem writesLittle : WritesLittle where
  path route := by
    obtain ⟨fields, toJson_eq, lookup⟩ := route.exists_specFields
    rw [toJson_eq]
    simp [Json.field?, Json.fields?, lookup]
  status route := by
    obtain ⟨fields, toJson_eq, lookup⟩ := route.exists_fields
    rw [toJson_eq]
    simp [Json.field?, Json.fields?, lookup]
  weight d := by
    have null := ofOption_eq_null_iff (f := fun weight : UInt32 => .int weight.toNat)
      (fun _ => Json.noConfusion) d.weight
    simp [Json.field?, Json.fields?, Destination.toJson, List.lookup_cons, null]
  port d := by
    have null := ofOption_eq_null_iff (f := fun port : UInt16 => .int port.toNat)
      (fun _ => Json.noConfusion) d.port
    simp [Json.field?, Json.fields?, Destination.toJson, List.lookup_cons, null]
  prefixes rule := by
    by_cases everything : rule.prefixes = []
    · simp [Json.field?, Json.fields?, HttpRule.toJson, List.lookup_cons, everything]
    · simp [Json.field?, Json.fields?, HttpRule.toJson, everything]
  labels metadata := by
    obtain ⟨fields, toJson_eq, lookup⟩ := metadata.exists_fields
    rw [toJson_eq]
    simp [Json.field?, Json.fields?, lookup, TextMap.unlessEmpty_eq_none_iff]
  annotations metadata := by
    obtain ⟨fields, toJson_eq, lookup⟩ := metadata.exists_fields
    rw [toJson_eq]
    simp [Json.field?, Json.fields?, lookup, TextMap.unlessEmpty_eq_none_iff]

/-- Every resource type makes the round trip, and a value that is its field's default is left out
where the format has it optional. A route keeps everything when its times are whole seconds and no
manager set the absent value, and one that was read loses no more than the fractions of its
seconds. -/
theorem resources_roundTrip :
    RoundTrips Route.asWritten Route.ofDocument? Route.toJson ∧
    (∀ route : Route, route.asWritten = route ↔ route.metadata.IsExact) ∧
    (∀ (doc : Json) (route : Route), Route.ofDocument? doc = some route →
      route.asWritten = route.inWholeSeconds) ∧
    RoundTrips id Destination.ofDocument? Destination.toJson ∧
    RoundTrips id VirtualService.ofDocument? VirtualService.toJson ∧
    RoundTrips id Service.ofDocument? Service.toJson ∧
    RoundTrips id ResourceMetadata.ofDocument? ResourceMetadata.toJson ∧
    WritesLittle :=
  ⟨Route.roundTrips, Route.asWritten_eq_iff, fun _ _ => Route.asWritten_of_ofDocument?,
    .of_reads_back Destination.ofDocument?_toJson, .of_reads_back VirtualService.ofDocument?_toJson,
    .of_reads_back Service.ofDocument?_toJson, .of_reads_back ResourceMetadata.ofDocument?_toJson,
    writesLittle⟩

/-- A destination given by the places of its fields is written with their names. -/
example : (Destination.ofDocument? (Json.arr [.str "d-0", .null, .int 8080,
      .arr [.str "app", .arr [.str "web"]]])).map Destination.toJson =
    some (.obj [("guid", .str "d-0"), ("weight", .null), ("port", .int 8080),
      ("app", .obj [("guid", .str "app"), ("process", .obj [("type", .str "web")])]),
      ("selector", .obj [("matchLabels", .obj [])])]) := by
  rfl

/-- A route in which a manager set the absent value. -/
def Route.withNullFields : Route where
  metadata := { managedFields := some [{ fieldsV1 := some .null }] }
  domain := { name := "example.com" }

theorem Route.isExact_of_reads_back {route : Route}
    (reads_back : Route.ofDocument? route.toJson = some route) : route.metadata.IsExact := by
  rw [route.ofDocument?_toJson] at reads_back
  exact route.asWritten_eq_iff.1 (Option.some.inj reads_back)

/-- Not every route reads back. Half a second is lost, also by a route that was itself read, and an
absent value that a manager set is lost, also by a route whose times are whole seconds. -/
theorem Route.not_all_roundTrip :
    (¬ ∀ (doc : Json) (route : Route), Route.ofDocument? doc = some route →
      Route.ofDocument? route.toJson = some route) ∧
    (¬ ∀ route : Route, route.inWholeSeconds = route →
      Route.ofDocument? route.toJson = some route) := by
  constructor
  · intro all_read_back
    have read := Route.ofDocument?_documentCreatedWithinSecond
    have exact := Route.isExact_of_reads_back (all_read_back _ _ read)
    exact Route.createdWithinSecond_not_whole ((Route.inWholeSeconds_eq_iff read).2 exact)
  · intro all_read_back
    have reads_back := all_read_back Route.withNullFields rfl
    have exact := (Route.isExact_of_reads_back reads_back).managed _ rfl _ List.mem_cons_self
    exact exact.fieldsV1 rfl

end MeshRoutes
