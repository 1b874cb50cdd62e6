import MeshRoutes.Proofs.Route.Listing
import MeshRoutes.Proofs.Schema.Acceptance
import MeshRoutes.Route.Definition

/-!
# Stored objects as routes

The server stores what the schema of routes accepts, and the controller passes over what does not
read as a route. The two agree on everything but numbers: the schema has no upper bound for a
weight, and it takes a whole number that is written with a point.

* `Destination.exists_ofDocument?_iff`: an accepted destination is read when it holds its numbers.
* `ApiObject.exists_route?_iff_of_accepts`: an accepted object is a route when all its destinations
  hold their numbers.
-/

namespace MeshRoutes

open Document

/-! ## Numbers -/

theorem Decimal.isAtMost_ofNat_zero (n : Int) : (Decimal.ofNat 0).isAtMost n = true ↔ 0 ≤ n := by
  have value : Decimal.ofNat 0 = ⟨false, 0, 0⟩ := by decide
  simp [value, isAtMost, signedDigits]

theorem Decimal.isAtMost_ofNat_one (n : Int) : (Decimal.ofNat 1).isAtMost n = true ↔ 1 ≤ n := by
  have value : Decimal.ofNat 1 = ⟨false, 1, 0⟩ := by decide
  simp [value, isAtMost, signedDigits]

theorem Decimal.isAtLeast_ofNat_word16 (n : Int) :
    (Decimal.ofNat 65535).isAtLeast n = true ↔ n ≤ 65535 := by
  have value : Decimal.ofNat 65535 = ⟨false, 65535, 0⟩ := by decide
  simp [value, isAtLeast, signedDigits]

theorem Document.exists_intWithin?_iff {lo hi : Int} {doc : Json} :
    (∃ n, intWithin? lo hi doc = some n) ↔ ∃ n, doc = .int n ∧ lo ≤ n ∧ n ≤ hi := by
  have int?_eq : int? doc = doc.int? := rfl
  rw [intWithin?, int?_eq]
  cases doc <;> simp [Json.int?, Option.filter_eq_some_iff]

theorem Document.exists_word16?_iff {doc : Json} :
    (∃ n, word16? doc = some n) ↔ ∃ n, doc = .int n ∧ 0 ≤ n ∧ n ≤ 65535 := by
  rw [← exists_intWithin?_iff]
  simp [word16?]

theorem Document.exists_word32?_iff {doc : Json} :
    (∃ n, word32? doc = some n) ↔ ∃ n, doc = .int n ∧ 0 ≤ n ∧ n ≤ 4294967295 := by
  rw [← exists_intWithin?_iff]
  simp [word32?]

theorem Document.exists_optional_iff {α : Type} {fields : List (String × Json)} {name : String}
    {read : Json → Option α} :
    (∃ a, Document.optional fields name read = some a) ↔
      ∀ doc, fields.lookup name = some doc → doc = .null ∨ ∃ a, read doc = some a := by
  unfold Document.optional defaulted nullable
  cases fields.lookup name with
  | none => simp
  | some doc => cases doc <;> simp [isNull, Json.isNull]

/-! ## Destinations -/

/-- The numbers of a destination are written without a point, and its weight fits into 32 bits. -/
structure Destination.HoldsNumbers (doc : Json) : Prop where
  port : ∀ port, doc.field? "port" = some port → port = .null ∨ ∃ n, port = .int n
  weight : ∀ weight, doc.field? "weight" = some weight →
    weight = .null ∨ ∃ n, weight = .int n ∧ n ≤ 4294967295

theorem App.ensures_schema : App.schema.Ensures App.ofDocument? := by
  intro doc accepted
  obtain ⟨fields, rfl, present, each⟩ := (Schema.accepts_record_iff rfl).1 accepted
  obtain ⟨guid, guid_read⟩ :=
    (Schema.ensures_text rfl).required (present "guid" (by decide)) (each _ (.head _))
  obtain ⟨process, found⟩ := present "process" (by decide)
  obtain ⟨_, rfl, process_present, process_each⟩ :=
    (Schema.accepts_record_iff rfl).1 (each _ (.tail _ (.head _)) process found)
  obtain ⟨processType, type_read⟩ := (Schema.ensures_text rfl).required
    (process_present "type" (by decide)) (process_each _ (.head _))
  refine ⟨⟨guid, processType⟩, ?_⟩
  unfold App.ofDocument?
  rw [record?_obj, Option.bind_eq_bind, Option.bind_some, guid_read, Option.bind_eq_bind,
    Option.bind_some, required, found, Option.bind_some, record?_obj, Option.bind_eq_bind,
    Option.bind_some, type_read]
  rfl

theorem Destination.ensures_selectorSchema :
    Destination.selectorSchema.Ensures Destination.selectorOfDocument? := by
  intro doc accepted
  obtain ⟨fields, rfl, _, each⟩ := (Schema.accepts_record_iff rfl).1 accepted
  exact (Schema.ensures_textMap rfl).defaulted ∅ (each _ (.head _))

theorem Destination.exists_ofDocument?_obj_iff {fields : List (String × Json)} :
    (∃ d, Destination.ofDocument? (Json.obj fields) = some d) ↔
      (∃ guid, required fields "guid" text? = some guid) ∧
      (∃ weight, Document.optional fields "weight" word32? = some weight) ∧
      (∃ port, Document.optional fields "port" word16? = some port) ∧
      (∃ app, required fields "app" App.ofDocument? = some app) ∧
      ∃ selector, defaulted fields "selector" Destination.selectorOfDocument? ∅ =
        some selector := by
  unfold Destination.ofDocument?
  rw [record?_obj]
  simp only [Option.bind_eq_bind, Option.bind_some, Option.pure_def, Option.bind_eq_some_iff,
    Option.some.injEq]
  constructor
  · rintro ⟨_, guid, guid_read, weight, weight_read, port, port_read, app, app_read, selector,
      selector_read, _⟩
    exact ⟨⟨guid, guid_read⟩, ⟨weight, weight_read⟩, ⟨port, port_read⟩, ⟨app, app_read⟩,
      ⟨selector, selector_read⟩⟩
  · rintro ⟨⟨guid, guid_read⟩, ⟨weight, weight_read⟩, ⟨port, port_read⟩, ⟨app, app_read⟩,
      ⟨selector, selector_read⟩⟩
    exact ⟨_, guid, guid_read, weight, weight_read, port, port_read, app, app_read, selector,
      selector_read, rfl⟩

/-- An accepted destination is read when it holds its numbers. -/
theorem Destination.exists_ofDocument?_iff {doc : Json}
    (accepted : Destination.schema.accepts doc = true) :
    (∃ d, Destination.ofDocument? doc = some d) ↔ Destination.HoldsNumbers doc := by
  obtain ⟨fields, rfl, present, each⟩ := (Schema.accepts_record_iff rfl).1 accepted
  have guid := (Schema.ensures_text rfl).required (present "guid" (by decide))
    (each _ (.tail _ (.head _)))
  have app := App.ensures_schema.required (present "app" (by decide)) (each _ (.head _))
  have selector := Destination.ensures_selectorSchema.defaulted ∅
    (each _ (.tail _ (.tail _ (.tail _ (.head _)))))
  have port (doc : Json) (found : fields.lookup "port" = some doc) :=
    Schema.accepts_whole_iff.1 (each _ (.tail _ (.tail _ (.head _))) doc found)
  have weight (doc : Json) (found : fields.lookup "weight" = some doc) :=
    Schema.accepts_whole_iff.1
      (each _ (.tail _ (.tail _ (.tail _ (.tail _ (.head _))))) doc found)
  rw [Destination.exists_ofDocument?_obj_iff, exists_optional_iff, exists_optional_iff]
  simp only [exists_word16?_iff, exists_word32?_iff]
  constructor
  · intro reads
    obtain ⟨_, weight_read, port_read, _, _⟩ := reads
    constructor
    · intro doc found
      exact (port_read doc found).imp_right fun ⟨n, is_int, _⟩ => ⟨n, is_int⟩
    · intro doc found
      exact (weight_read doc found).imp_right fun ⟨n, is_int, _, below⟩ => ⟨n, is_int, below⟩
  · intro holds
    refine ⟨guid, fun doc found => ?_, fun doc found => ?_, app, selector⟩
    · refine (holds.weight doc found).imp_right fun ⟨n, is_int, below⟩ => ⟨n, is_int, ?_, below⟩
      rcases weight doc found with ⟨_, rfl⟩ | ⟨m, is_whole, least, _⟩
      · cases is_int
      · rw [is_int, Json.whole?, Option.some.injEq] at is_whole
        rw [is_whole]
        exact (Decimal.isAtMost_ofNat_zero m).1 least
    · refine (holds.port doc found).imp_right fun ⟨n, is_int⟩ => ⟨n, is_int, ?_⟩
      rcases port doc found with ⟨_, rfl⟩ | ⟨m, is_whole, least, greatest⟩
      · cases is_int
      · rw [is_int, Json.whole?, Option.some.injEq] at is_whole
        rw [is_whole]
        have above := (Decimal.isAtMost_ofNat_one m).1 least
        exact ⟨by omega, (Decimal.isAtLeast_ofNat_word16 m).1 greatest⟩

/-! ## Routes -/

theorem Domain.ensures_schema : Domain.schema.Ensures Domain.ofDocument? := by
  intro doc accepted
  obtain ⟨fields, rfl, present, each⟩ := (Schema.accepts_record_iff rfl).1 accepted
  obtain ⟨internal, internal_read⟩ :=
    (Schema.ensures_truth rfl).defaulted false (each _ (.head _))
  obtain ⟨name, name_read⟩ := (Schema.ensures_text rfl).required (present "name" (by decide))
    (each _ (.tail _ (.head _)))
  refine ⟨⟨name, internal⟩, ?_⟩
  unfold Domain.ofDocument?
  rw [record?_obj, Option.bind_eq_bind, Option.bind_some, name_read, Option.bind_eq_bind,
    Option.bind_some, internal_read]
  rfl

theorem Condition.ensures_schema : Condition.schema.Ensures Condition.ofDocument? := by
  intro doc accepted
  obtain ⟨fields, rfl, present, each⟩ := (Schema.accepts_record_iff rfl).1 accepted
  obtain ⟨status, status_read⟩ := (Schema.ensures_truth rfl).required
    (present "status" (by decide)) (each _ (.head _))
  obtain ⟨type, type_read⟩ := (Schema.ensures_text rfl).required (present "type" (by decide))
    (each _ (.tail _ (.head _)))
  refine ⟨⟨type, status⟩, ?_⟩
  unfold Condition.ofDocument?
  rw [record?_obj, Option.bind_eq_bind, Option.bind_some, type_read, Option.bind_eq_bind,
    Option.bind_some, status_read]
  rfl

/-- A status may be null, and whatever else is accepted of one is read. -/
theorem Route.exists_statusOfDocument? {doc : Json}
    (accepted : Route.statusSchema.accepts doc = true) :
    doc = .null ∨ ∃ conditions, Route.statusOfDocument? doc = some conditions := by
  by_cases absent : doc = .null
  · exact .inl absent
  have as_given : (Schema.record {} [("conditions", .list
      { description := some "Observed conditions", default := some (.arr []) }
      Condition.schema)] []).accepts doc = true := by
    unfold Schema.accepts at accepted ⊢
    cases doc with
    | null => exact absurd rfl absent
    | _ => exact accepted
  obtain ⟨fields, rfl, _, each⟩ := (Schema.accepts_record_iff rfl).1 as_given
  exact .inr ((Schema.ensures_list rfl Condition.ensures_schema).defaulted [] (each _ (.head _)))

/-- The destinations that a document of an intent gives. -/
def Route.destinationDocuments (spec : Json) : List Json :=
  ((spec.field? "destinations").bind Json.arr?).getD []

/-- An accepted intent is read when all its destinations hold their numbers. -/
theorem Route.exists_ofSpec?_iff {metadata : Metadata} {status : Option (List Condition)}
    {spec : Json} (accepted : Route.specSchema.accepts spec = true) :
    (∃ route, Route.ofSpec? metadata status spec = some route) ↔
      ∀ d ∈ Route.destinationDocuments spec, Destination.HoldsNumbers d := by
  obtain ⟨fields, rfl, present, each⟩ := (Schema.accepts_record_iff rfl).1 accepted
  obtain ⟨domain, domain_read⟩ :=
    Domain.ensures_schema.required (present "domain" (by decide)) (each _ (.tail _ (.head _)))
  have text {name : String} {notes : SchemaNotes} (not_nullable : notes.nullable = false)
      (listed : (name, Schema.text notes) ∈ _) : ∃ s, defaulted fields name text? "" = some s :=
    (Schema.ensures_text not_nullable).defaulted "" (each _ listed)
  obtain ⟨host, host_read⟩ := text rfl (.tail _ (.tail _ (.head _)))
  obtain ⟨path, path_read⟩ := text rfl (.tail _ (.tail _ (.tail _ (.head _))))
  obtain ⟨url, url_read⟩ := text rfl (.tail _ (.tail _ (.tail _ (.tail _ (.head _)))))
  have destinations : (∃ ds, defaulted fields "destinations"
      (listOf? Destination.ofDocument?) [] = some ds) ↔
      ∀ d ∈ Route.destinationDocuments (.obj fields), Destination.HoldsNumbers d := by
    unfold defaulted Route.destinationDocuments
    have field?_eq : (Json.obj fields).field? "destinations" = fields.lookup "destinations" := rfl
    rw [field?_eq]
    cases found : fields.lookup "destinations" with
    | none => simp
    | some doc =>
      obtain ⟨docs, rfl, accepts⟩ :=
        (Schema.accepts_list_iff rfl).1 (each _ (.head _) doc found)
      refine exists_mapM_eq_some_iff.trans (forall₂_congr fun d mem => ?_)
      exact Destination.exists_ofDocument?_iff (accepts d mem)
  rw [← destinations]
  unfold Route.ofSpec?
  rw [record?_obj, Option.bind_eq_bind, Option.bind_some, host_read, path_read, url_read,
    domain_read]
  simp only [Option.bind_eq_bind, Option.bind_some, Option.pure_def]
  cases defaulted fields "destinations" (listOf? Destination.ofDocument?) [] <;> simp

/-- What the server has stored as a route is one when all its destinations hold their numbers. -/
theorem ApiObject.exists_route?_iff_of_accepts {doc metadata : Json} {object : ApiObject}
    (read : ApiObject.ofJson? doc = some object) (given : doc.field? "metadata" = some metadata)
    (accepted : Route.schema.accepts doc = true) :
    (∃ route, object.route? = some route) ↔ ∀ spec, doc.field? "spec" = some spec →
      ∀ d ∈ Route.destinationDocuments spec, Destination.HoldsNumbers d := by
  rw [ApiObject.exists_route?_iff read given]
  obtain ⟨fields, rfl, metadata_read, _⟩ := ApiObject.ofJson?_eq_some_iff.1 read
  obtain ⟨_, as_obj, present, each⟩ := (Schema.accepts_record_iff rfl).1 accepted
  cases as_obj
  have required_metadata : required fields "metadata" Metadata.ofDocument? =
      some object.metadata := by
    have found : fields.lookup "metadata" = some metadata := given
    unfold defaulted at metadata_read
    rw [found] at metadata_read
    rw [required, found]
    exact metadata_read
  obtain ⟨status, status_read⟩ := exists_optional_iff.2 fun status found =>
    Route.exists_statusOfDocument? (each _ (.tail _ (.head _)) status found)
  obtain ⟨spec, found⟩ := present "spec" (by decide)
  unfold Route.ofDocument?
  rw [entries?_obj, Option.bind_eq_bind, Option.bind_some, required_metadata, Option.bind_eq_bind,
    Option.bind_some, status_read, Option.bind_eq_bind, Option.bind_some, required, found,
    Option.bind_some, Route.exists_ofSpec?_iff (each _ (.head _) spec found)]
  have field?_eq : (Json.obj fields).field? "spec" = some spec := found
  simp [field?_eq]

/-- A route in namespace `ns` that sends its requests to one destination with the given weight. -/
def Route.documentWithWeight (weight : Json) : Json :=
  .obj [
    ("metadata", .obj [("name", .str "r"), ("namespace", .str "ns")]),
    ("spec", .obj [("domain", .obj [("name", .str "example.com")]),
      ("destinations", .arr [.obj [("guid", .str "d"), ("weight", weight), ("port", .int 8080),
        ("app", .obj [("guid", .str "a"), ("process", .obj [("type", .str "web")])])]])])]

/-- The greatest weight that a destination can hold is accepted and kept. -/
theorem ApiObject.exists_route?_of_greatest_weight :
    ∃ object, ApiObject.ofJson? (Route.documentWithWeight (.int 4294967295)) = some object ∧
      Route.schema.accepts (Route.documentWithWeight (.int 4294967295)) = true ∧
      ∃ route, object.route? = some route := by
  have accepted : Route.schema.accepts (Route.documentWithWeight (.int 4294967295)) = true := by
    decide
  refine ⟨_, rfl, accepted, (ApiObject.exists_route?_iff_of_accepts rfl rfl accepted).2 ?_⟩
  intro spec found d mem
  cases found
  cases List.mem_singleton.1 mem
  constructor
  · intro port found
    cases found
    exact .inr ⟨8080, rfl⟩
  · intro weight found
    cases found
    exact .inr ⟨4294967295, rfl, by decide⟩

/-- A weight beyond 32 bits is accepted, and the object is passed over. -/
theorem ApiObject.exists_accepted_not_route :
    ¬ ∀ (doc metadata : Json) (object : ApiObject), ApiObject.ofJson? doc = some object →
      doc.field? "metadata" = some metadata → Route.schema.accepts doc = true →
      ∃ route, object.route? = some route := by
  intro all_kept
  obtain ⟨route, kept⟩ := all_kept (Route.documentWithWeight (.int 4294967296)) _ _ rfl rfl
    (by decide)
  cases kept

end MeshRoutes
