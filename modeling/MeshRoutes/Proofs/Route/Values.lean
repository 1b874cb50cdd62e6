import MeshRoutes.Proofs.Object.Metadata
import MeshRoutes.Proofs.Yaml.OfJson
import MeshRoutes.Route.Definition

/-!
# Routes read from YAML values

A route that is read from a JSON object is read from the value of the object as well, unless one of
its records is given as a sequence.

* `Schema.namesRecords`: whether no record that a schema describes is given as a sequence.
* `Route.carriesOver`: routes are read from the values of their documents.
-/

namespace MeshRoutes

open Document (required defaulted)

open Yaml (CarriesOver Value)

/-! ## Records given by name -/

namespace Schema

mutual

/-- Whether no record that a schema describes is given as a sequence. -/
def namesRecords : Schema → Json → Bool
  | list _ items, .arr docs => docs.all fun doc => items.namesRecords doc
  | map _ values, .obj fields => fields.all fun field => values.namesRecords field.2
  | record _ properties _, .obj fields => propertiesNameRecords properties fields
  | record _ _ _, .arr _ => false
  | _, _ => true

/-- Whether no record that the schemas of properties describe is given as a sequence. -/
def propertiesNameRecords : List (String × Schema) → List (String × Json) → Bool
  | [], _ => true
  | (name, schema) :: properties, fields =>
    (match fields.lookup name with
      | none => true
      | some doc => schema.namesRecords doc) && propertiesNameRecords properties fields

end

variable {notes : SchemaNotes} {properties : List (String × Schema)} {names : List String}

theorem namesRecords_of_list {items : Schema} {docs : List Json}
    (named : (list notes items).namesRecords (.arr docs) = true) :
    ∀ doc ∈ docs, items.namesRecords doc = true := by
  rw [namesRecords] at named
  exact List.all_eq_true.1 named

theorem namesRecords_of_property {fields : List (String × Json)}
    (named : (record notes properties names).namesRecords (.obj fields) = true)
    {name : String} {schema : Schema} (listed : (name, schema) ∈ properties) {doc : Json}
    (found : fields.lookup name = some doc) : schema.namesRecords doc = true := by
  rw [namesRecords] at named
  induction properties with
  | nil => cases listed
  | cons property properties ih =>
    rw [propertiesNameRecords, Bool.and_eq_true] at named
    rcases List.mem_cons.1 listed with rfl | listed
    · rw [found] at named
      exact named.1
    · exact ih named.2 listed

end Schema

/-! ## Parts of routes -/

/-- A record of a schema carries over when its fields do. -/
theorem Schema.carriesOver_record {α : Type} {notes : SchemaNotes}
    {properties : List (String × Schema)} {needed : List String} (names : List String)
    {fromFields : List (String × Json) → Option α}
    {fromValues : List (String × Value) → Option α}
    (carries : ∀ fields a, (∀ field ∈ fields, field.2.hasDistinctNames = true) →
      (∀ {name schema}, (name, schema) ∈ properties → ∀ doc, fields.lookup name = some doc →
        schema.namesRecords doc = true) →
      fromFields fields = some a → fromValues (Value.valuesOf fields) = some a) :
    CarriesOver ((Schema.record notes properties needed).namesRecords · = true)
      (fun doc => (Document.record? names doc).bind fromFields)
      (fun doc => (Document.record? names doc).bind fromValues) := by
  intro doc a named distinct read
  cases doc with
  | obj fields =>
    obtain ⟨names_distinct, values_distinct⟩ := Json.hasDistinctNames_obj_iff.1 distinct
    have record : Document.record? names (Value.ofJson (.obj fields)) =
        some (Value.valuesOf fields) := Value.record?_ofJson_obj names_distinct names
    dsimp only
    rw [record]
    exact carries fields a values_distinct
      (fun listed _ found => Schema.namesRecords_of_property named listed found) read
  | arr items => simp [Schema.namesRecords] at named
  | _ => cases read

theorem App.carriesOver :
    CarriesOver (App.schema.namesRecords · = true) App.ofDocument? App.ofDocument? := by
  refine Schema.carriesOver_record _ fun fields app distinct named read => ?_
  simp only [Option.bind_eq_bind, Option.bind_eq_some_iff, Option.pure_def, Option.some.injEq]
    at read ⊢
  obtain ⟨guid, guid_read, processType, process_read, rfl⟩ := read
  refine ⟨guid, CarriesOver.text.required distinct (named (.head _)) guid_read, processType, ?_,
    rfl⟩
  refine CarriesOver.required ?_ distinct (named (.tail _ (.head _))) process_read
  refine Schema.carriesOver_record _ fun fields processType distinct named read => ?_
  exact CarriesOver.text.required distinct (named (.head _)) read

theorem Destination.selector_carriesOver :
    CarriesOver (Destination.selectorSchema.namesRecords · = true)
      Destination.selectorOfDocument? Destination.selectorOfDocument? := by
  refine Schema.carriesOver_record _ fun fields labels distinct named read => ?_
  exact CarriesOver.textMap.defaulted distinct (named (.head _)) read

theorem Destination.carriesOver :
    CarriesOver (Destination.schema.namesRecords · = true)
      Destination.ofDocument? Destination.ofDocument? := by
  refine Schema.carriesOver_record _ fun fields d distinct named read => ?_
  simp only [Option.bind_eq_bind, Option.bind_eq_some_iff, Option.pure_def, Option.some.injEq]
    at read ⊢
  obtain ⟨guid, guid_read, weight, weight_read, port, port_read, app, app_read, selector,
    selector_read, rfl⟩ := read
  exact ⟨guid, CarriesOver.text.required distinct (named (.tail _ (.head _))) guid_read,
    weight, CarriesOver.word32.nullable.defaulted distinct
      (named (.tail _ (.tail _ (.tail _ (.tail _ (.head _)))))) weight_read,
    port, CarriesOver.word16.nullable.defaulted distinct
      (named (.tail _ (.tail _ (.head _)))) port_read,
    app, App.carriesOver.required distinct (named (.head _)) app_read,
    selector, Destination.selector_carriesOver.defaulted distinct
      (named (.tail _ (.tail _ (.tail _ (.head _))))) selector_read, rfl⟩

theorem Domain.carriesOver :
    CarriesOver (Domain.schema.namesRecords · = true) Domain.ofDocument? Domain.ofDocument? := by
  refine Schema.carriesOver_record _ fun fields domain distinct named read => ?_
  simp only [Option.bind_eq_bind, Option.bind_eq_some_iff, Option.pure_def, Option.some.injEq]
    at read ⊢
  obtain ⟨name, name_read, internal, internal_read, rfl⟩ := read
  exact ⟨name, CarriesOver.text.required distinct (named (.tail _ (.head _))) name_read,
    internal, CarriesOver.bool.defaulted distinct (named (.head _)) internal_read, rfl⟩

theorem Condition.carriesOver :
    CarriesOver (Condition.schema.namesRecords · = true)
      Condition.ofDocument? Condition.ofDocument? := by
  refine Schema.carriesOver_record _ fun fields condition distinct named read => ?_
  simp only [Option.bind_eq_bind, Option.bind_eq_some_iff, Option.pure_def, Option.some.injEq]
    at read ⊢
  obtain ⟨type, type_read, status, status_read, rfl⟩ := read
  exact ⟨type, CarriesOver.text.required distinct (named (.tail _ (.head _))) type_read,
    status, CarriesOver.bool.required distinct (named (.head _)) status_read, rfl⟩

/-- A list of a schema carries over when its elements do. -/
theorem Schema.carriesOver_list {α : Type} {notes : SchemaNotes} {items : Schema}
    {fromJson : Json → Option α} {fromValue : Value → Option α}
    (carries : CarriesOver (items.namesRecords · = true) fromJson fromValue) :
    CarriesOver ((Schema.list notes items).namesRecords · = true)
      (Document.listOf? fromJson) (Document.listOf? fromValue) :=
  carries.listOf.mono fun _ named _ is_list =>
    Schema.namesRecords_of_list (is_list ▸ named)

theorem Route.status_carriesOver :
    CarriesOver (Route.statusSchema.namesRecords · = true)
      Route.statusOfDocument? Route.statusOfDocument? := by
  refine Schema.carriesOver_record _ fun fields conditions distinct named read => ?_
  exact (Schema.carriesOver_list Condition.carriesOver).defaulted distinct (named (.head _)) read

theorem Route.spec_carriesOver (metadata : Metadata) (status : Option (List Condition)) :
    CarriesOver (Route.specSchema.namesRecords · = true)
      (Route.ofSpec? metadata status) (Route.ofSpec? metadata status) := by
  refine Schema.carriesOver_record _ fun fields route distinct named read => ?_
  simp only [Option.bind_eq_bind, Option.bind_eq_some_iff, Option.pure_def, Option.some.injEq]
    at read ⊢
  obtain ⟨host, host_read, path, path_read, url, url_read, domain, domain_read, destinations,
    destinations_read, rfl⟩ := read
  have text {key text : String} {notes : SchemaNotes} (listed : (key, Schema.text notes) ∈ _)
      (read : defaulted fields key Document.text? "" = some text) :
      defaulted (Value.valuesOf fields) key Document.text? "" = some text :=
    CarriesOver.text.defaulted distinct (named listed) read
  exact ⟨host, text (.tail _ (.tail _ (.head _))) host_read,
    path, text (.tail _ (.tail _ (.tail _ (.head _)))) path_read,
    url, text (.tail _ (.tail _ (.tail _ (.tail _ (.head _))))) url_read,
    domain, Domain.carriesOver.required distinct (named (.tail _ (.head _))) domain_read,
    destinations, (Schema.carriesOver_list Destination.carriesOver).defaulted distinct
      (named (.head _)) destinations_read, rfl⟩

/-! ## Metadata -/

theorem Timestamp.carriesOver :
    CarriesOver (fun _ => True) Timestamp.ofDocument? Timestamp.ofDocument? := by
  intro doc t _ _ read
  have text_eq : Document.text? (Value.ofJson doc) = Document.text? doc := Value.text?_ofJson doc
  unfold Timestamp.ofDocument? at read ⊢
  rwa [text_eq]

theorem OwnerReference.carriesOver :
    CarriesOver (fun _ => True) OwnerReference.ofDocument? OwnerReference.ofDocument? := by
  refine CarriesOver.entries fun fields owner distinct read => ?_
  simp only [Option.bind_eq_bind, Option.bind_eq_some_iff, Option.pure_def, Option.some.injEq]
    at read ⊢
  obtain ⟨apiVersion, apiVersion_read, kind, kind_read, name, name_read, uid, uid_read, controller,
    controller_read, blocks, blocks_read, rfl⟩ := read
  exact ⟨apiVersion, CarriesOver.text.optional distinct apiVersion_read,
    kind, CarriesOver.text.optional distinct kind_read,
    name, CarriesOver.text.optional distinct name_read,
    uid, CarriesOver.text.optional distinct uid_read,
    controller, CarriesOver.bool.optional distinct controller_read,
    blocks, CarriesOver.bool.optional distinct blocks_read, rfl⟩

theorem ManagedFields.carriesOver :
    CarriesOver (fun _ => True) ManagedFields.ofDocument? ManagedFields.ofDocument? := by
  refine CarriesOver.entries fun fields managed distinct read => ?_
  simp only [Option.bind_eq_bind, Option.bind_eq_some_iff, Option.pure_def, Option.some.injEq]
    at read ⊢
  obtain ⟨manager, manager_read, operation, operation_read, apiVersion, apiVersion_read,
    subresource, subresource_read, time, time_read, fieldsType, fieldsType_read, fieldsV1,
    fieldsV1_read, rfl⟩ := read
  exact ⟨manager, CarriesOver.text.optional distinct manager_read,
    operation, CarriesOver.text.optional distinct operation_read,
    apiVersion, CarriesOver.text.optional distinct apiVersion_read,
    subresource, CarriesOver.text.optional distinct subresource_read,
    time, Timestamp.carriesOver.optional distinct time_read,
    fieldsType, CarriesOver.text.optional distinct fieldsType_read,
    fieldsV1, CarriesOver.value.optional distinct fieldsV1_read, rfl⟩

/-- Metadata has no records, so nothing in it depends on how they are given. -/
theorem Metadata.carriesOver :
    CarriesOver (fun _ => True) Metadata.ofDocument? Metadata.ofDocument? := by
  intro doc metadata _ distinct read
  obtain ⟨fields, entries, given⟩ := Metadata.ofDocument?_eq_some_iff.1 read
  cases doc with
  | obj fields' =>
    cases entries
    obtain ⟨_, distinct⟩ := Json.hasDistinctNames_obj_iff.1 distinct
    refine Metadata.ofDocument?_eq_some_iff.2 ⟨_, Value.entries?_ofJson_obj fields, ?_⟩
    exact {
      name := CarriesOver.text.optional distinct given.name
      ns := CarriesOver.text.optional distinct given.ns
      generateName := CarriesOver.text.optional distinct given.generateName
      uid := CarriesOver.text.optional distinct given.uid
      resourceVersion := CarriesOver.text.optional distinct given.resourceVersion
      generation := CarriesOver.int64.optional distinct given.generation
      creation := Timestamp.carriesOver.optional distinct given.creation
      deletion := Timestamp.carriesOver.optional distinct given.deletion
      grace := CarriesOver.int64.optional distinct given.grace
      finalizers := CarriesOver.text.elements.optional distinct given.finalizers
      labels := CarriesOver.textMap.optional distinct given.labels
      annotations := CarriesOver.textMap.optional distinct given.annotations
      owners := OwnerReference.carriesOver.elements.optional distinct given.owners
      managed := ManagedFields.carriesOver.elements.optional distinct given.managed
      link := CarriesOver.text.optional distinct given.link }
  | _ => cases entries

/-! ## Routes -/

/-- A route whose records are given by name is read from the value of its document. -/
theorem Route.carriesOver :
    CarriesOver (Route.schema.namesRecords · = true) Route.ofDocument? Route.ofDocument? := by
  intro doc route named distinct read
  cases doc with
  | obj fields =>
    obtain ⟨_, distinct⟩ := Json.hasDistinctNames_obj_iff.1 distinct
    have entries : Document.entries? (Value.ofJson (.obj fields)) =
        some (Value.valuesOf fields) := Value.entries?_ofJson_obj fields
    have entries' : Document.entries? (Json.obj fields) = some fields := rfl
    unfold Route.ofDocument? at read ⊢
    rw [entries'] at read
    rw [entries]
    simp only [Option.bind_eq_bind, Option.bind_some, Option.bind_eq_some_iff] at read ⊢
    obtain ⟨metadata, metadata_read, status, status_read, spec_read⟩ := read
    exact ⟨metadata, Metadata.carriesOver.required distinct (fun _ _ => trivial) metadata_read,
      status, Route.status_carriesOver.nullable.defaulted distinct
        (fun _ found => Schema.namesRecords_of_property named (.tail _ (.head _)) found)
        status_read,
      (Route.spec_carriesOver metadata status).required distinct
        (fun _ found => Schema.namesRecords_of_property named (.head _) found) spec_read⟩
  | _ => cases read

end MeshRoutes
