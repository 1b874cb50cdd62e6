import MeshRoutes.Proofs.Json.Value
import MeshRoutes.Proofs.Mesh.Documents
import MeshRoutes.Proofs.Object.Timestamp

/-!
# Metadata read back

Metadata is written as a document that reads back as the metadata, but for two things: a point in
time loses its fraction of a second, and what a manager set is absent if it is the absent value. The
latter is never read from JSON.

* `Metadata.inWholeSeconds`, `Metadata.asWritten`: the metadata without what is lost.
* `Metadata.IsExact`: whether nothing is lost; `Metadata.asWritten_eq_iff`.
* `Metadata.ofDocument?_toJson`: metadata reads back as it is written.
-/

namespace MeshRoutes

open Document

/-! ## What is lost -/

/-- What a manager set, with the second of its time. -/
def ManagedFields.inWholeSeconds (managed : ManagedFields) : ManagedFields :=
  { managed with time := managed.time.map Timestamp.inWholeSeconds }

/-- What a manager set, as far as its document tells. -/
def ManagedFields.asWritten (managed : ManagedFields) : ManagedFields :=
  { managed.inWholeSeconds with fieldsV1 := managed.fieldsV1.filter (· ≠ .null) }

namespace Metadata

/-- The metadata with its times in whole seconds. -/
def inWholeSeconds (metadata : Metadata) : Metadata :=
  { metadata with
    creationTimestamp := metadata.creationTimestamp.map Timestamp.inWholeSeconds
    deletionTimestamp := metadata.deletionTimestamp.map Timestamp.inWholeSeconds
    managedFields := metadata.managedFields.map (List.map ManagedFields.inWholeSeconds) }

/-- The metadata as far as its document tells. -/
def asWritten (metadata : Metadata) : Metadata :=
  { metadata.inWholeSeconds with
    managedFields := metadata.managedFields.map (List.map ManagedFields.asWritten) }

end Metadata

/-- Whether a document tells everything of what a manager set. -/
structure ManagedFields.IsExact (managed : ManagedFields) : Prop where
  time : ∀ t, managed.time = some t → t.nanosecond = 0
  fieldsV1 : managed.fieldsV1 ≠ some .null

/-- Whether a document tells everything of metadata: its times are whole seconds, and no manager set
the absent value. -/
structure Metadata.IsExact (metadata : Metadata) : Prop where
  creation : ∀ t, metadata.creationTimestamp = some t → t.nanosecond = 0
  deletion : ∀ t, metadata.deletionTimestamp = some t → t.nanosecond = 0
  managed : ∀ entries, metadata.managedFields = some entries → ∀ managed ∈ entries, managed.IsExact

section Exact

theorem optionMap_eq_self_iff {α : Type} {f : α → α} {value : Option α} :
    value.map f = value ↔ ∀ a, value = some a → f a = a := by
  cases value <;> simp

theorem listMap_eq_self_iff {α : Type} {f : α → α} {as : List α} :
    as.map f = as ↔ ∀ a ∈ as, f a = a := by
  induction as with
  | nil => simp
  | cons a as ih => rw [List.map_cons, List.cons.injEq, ih, List.forall_mem_cons]

theorem map_inWholeSeconds_eq_iff {time : Option Timestamp} :
    time.map Timestamp.inWholeSeconds = time ↔ ∀ t, time = some t → t.nanosecond = 0 := by
  rw [optionMap_eq_self_iff]
  simp only [Timestamp.inWholeSeconds_eq_iff]

theorem filter_ne_null_eq_iff {value : Option JsonValue} :
    value.filter (· ≠ .null) = value ↔ value ≠ some .null := by
  cases value <;> simp [Option.filter]

theorem ManagedFields.asWritten_eq_iff (managed : ManagedFields) :
    managed.asWritten = managed ↔ managed.IsExact := by
  have fields : managed.asWritten = managed ↔
      managed.time.map Timestamp.inWholeSeconds = managed.time ∧
      managed.fieldsV1.filter (· ≠ .null) = managed.fieldsV1 := by
    cases managed
    simp only [asWritten, inWholeSeconds, mk.injEq, true_and]
  rw [fields, map_inWholeSeconds_eq_iff, filter_ne_null_eq_iff]
  exact ⟨fun both => ⟨both.1, both.2⟩, fun exact => ⟨exact.time, exact.fieldsV1⟩⟩

/-- Metadata is what its document tells when nothing is lost. -/
theorem Metadata.asWritten_eq_iff (metadata : Metadata) :
    metadata.asWritten = metadata ↔ metadata.IsExact := by
  have fields : metadata.asWritten = metadata ↔
      metadata.creationTimestamp.map Timestamp.inWholeSeconds = metadata.creationTimestamp ∧
      metadata.deletionTimestamp.map Timestamp.inWholeSeconds = metadata.deletionTimestamp ∧
      metadata.managedFields.map (List.map ManagedFields.asWritten) = metadata.managedFields := by
    cases metadata
    simp only [asWritten, inWholeSeconds, mk.injEq, true_and, and_true]
  rw [fields, map_inWholeSeconds_eq_iff, map_inWholeSeconds_eq_iff, optionMap_eq_self_iff]
  simp only [listMap_eq_self_iff, ManagedFields.asWritten_eq_iff]
  exact ⟨fun all => ⟨all.1, all.2.1, all.2.2⟩,
    fun exact => ⟨exact.creation, exact.deletion, exact.managed⟩⟩

end Exact

/-! ## Reading field by field -/

section Reading

variable {δ : Type} [Document δ]

/-- Whether fields give metadata, one by one. -/
structure Metadata.IsGivenBy (metadata : Metadata) (fields : List (String × δ)) : Prop where
  name : Document.optional fields "name" text? = some metadata.name
  ns : Document.optional fields "namespace" text? = some metadata.ns
  generateName : Document.optional fields "generateName" text? = some metadata.generateName
  uid : Document.optional fields "uid" text? = some metadata.uid
  resourceVersion : Document.optional fields "resourceVersion" text? =
    some metadata.resourceVersion
  generation : Document.optional fields "generation" int64? = some metadata.generation
  creation : Document.optional fields "creationTimestamp" Timestamp.ofDocument? =
    some metadata.creationTimestamp
  deletion : Document.optional fields "deletionTimestamp" Timestamp.ofDocument? =
    some metadata.deletionTimestamp
  grace : Document.optional fields "deletionGracePeriodSeconds" int64? =
    some metadata.deletionGracePeriodSeconds
  finalizers : Document.optional fields "finalizers" (listOf? text?) = some metadata.finalizers
  labels : Document.optional fields "labels" textMap? = some metadata.labels
  annotations : Document.optional fields "annotations" textMap? = some metadata.annotations
  owners : Document.optional fields "ownerReferences" (listOf? OwnerReference.ofDocument?) =
    some metadata.ownerReferences
  managed : Document.optional fields "managedFields" (listOf? ManagedFields.ofDocument?) =
    some metadata.managedFields
  link : Document.optional fields "selfLink" text? = some metadata.selfLink

theorem Metadata.ofDocument?_eq_some_iff {doc : δ} {metadata : Metadata} :
    Metadata.ofDocument? doc = some metadata ↔
      ∃ fields, entries? doc = some fields ∧ metadata.IsGivenBy fields := by
  unfold Metadata.ofDocument?
  constructor
  · intro read
    obtain ⟨fields, entries, read⟩ := Option.bind_eq_some_iff.1 read
    obtain ⟨name, name_read, read⟩ := Option.bind_eq_some_iff.1 read
    obtain ⟨ns, ns_read, read⟩ := Option.bind_eq_some_iff.1 read
    obtain ⟨generateName, generateName_read, read⟩ := Option.bind_eq_some_iff.1 read
    obtain ⟨uid, uid_read, read⟩ := Option.bind_eq_some_iff.1 read
    obtain ⟨version, version_read, read⟩ := Option.bind_eq_some_iff.1 read
    obtain ⟨generation, generation_read, read⟩ := Option.bind_eq_some_iff.1 read
    obtain ⟨creation, creation_read, read⟩ := Option.bind_eq_some_iff.1 read
    obtain ⟨deletion, deletion_read, read⟩ := Option.bind_eq_some_iff.1 read
    obtain ⟨grace, grace_read, read⟩ := Option.bind_eq_some_iff.1 read
    obtain ⟨finalizers, finalizers_read, read⟩ := Option.bind_eq_some_iff.1 read
    obtain ⟨labels, labels_read, read⟩ := Option.bind_eq_some_iff.1 read
    obtain ⟨annotations, annotations_read, read⟩ := Option.bind_eq_some_iff.1 read
    obtain ⟨owners, owners_read, read⟩ := Option.bind_eq_some_iff.1 read
    obtain ⟨managed, managed_read, read⟩ := Option.bind_eq_some_iff.1 read
    obtain ⟨link, link_read, read⟩ := Option.bind_eq_some_iff.1 read
    cases read
    exact ⟨fields, entries, ⟨name_read, ns_read, generateName_read, uid_read, version_read,
      generation_read, creation_read, deletion_read, grace_read, finalizers_read, labels_read,
      annotations_read, owners_read, managed_read, link_read⟩⟩
  · rintro ⟨fields, entries, given⟩
    rw [entries, Option.bind_eq_bind, Option.bind_some, given.name, given.ns, given.generateName,
      given.uid, given.resourceVersion, given.generation, given.creation, given.deletion,
      given.grace, given.finalizers, given.labels, given.annotations, given.owners, given.managed,
      given.link]
    rfl

end Reading

/-! ## Reading what was written -/

namespace Json

theorem presentFields_cons_none (name : String) (fields : List (String × Option Json)) :
    presentFields ((name, none) :: fields) = presentFields fields := rfl

theorem presentFields_cons_some (name : String) (doc : Json)
    (fields : List (String × Option Json)) :
    presentFields ((name, some doc) :: fields) = (name, doc) :: presentFields fields := rfl

theorem lookup_presentFields_of_absent {fields : List (String × Option Json)} {name : String}
    (absent : name ∉ fields.map (·.1)) : (presentFields fields).lookup name = none := by
  induction fields with
  | nil => rfl
  | cons field fields ih =>
    obtain ⟨other, value⟩ := field
    obtain ⟨other_name, behind⟩ := not_or.1 (List.mem_cons.not.1 absent)
    cases value with
    | none => rw [presentFields_cons_none, ih behind]
    | some doc => rw [presentFields_cons_some, SortedMap.lookup_cons, if_neg other_name, ih behind]

/-- A field is found under its name when it has a document. -/
theorem lookup_presentFields {fields : List (String × Option Json)}
    (distinct : (fields.map (·.1)).Nodup) {name : String} {value : Option Json}
    (mem : (name, value) ∈ fields) : (presentFields fields).lookup name = value := by
  induction fields with
  | nil => cases mem
  | cons field fields ih =>
    obtain ⟨other, first⟩ := field
    obtain ⟨absent, behind_distinct⟩ := List.nodup_cons.1 distinct
    rcases List.mem_cons.1 mem with same | behind
    · cases same
      cases value with
      | none => rw [presentFields_cons_none, lookup_presentFields_of_absent absent]
      | some doc => rw [presentFields_cons_some, SortedMap.lookup_cons, if_pos rfl]
    · have other_name : name ≠ other := by
        rintro rfl
        exact absent (List.mem_map.2 ⟨(name, value), behind, rfl⟩)
      cases first with
      | none => rw [presentFields_cons_none, ih behind_distinct behind]
      | some doc =>
        rw [presentFields_cons_some, SortedMap.lookup_cons, if_neg other_name,
          ih behind_distinct behind]

end Json

namespace Document

@[simp] theorem int64?_ofInt64 (n : Int64) : int64? (Json.ofInt64 n) = some n := by
  have above := n.le_toInt
  have below := n.toInt_lt
  have within : intWithin? (-9223372036854775808) 9223372036854775807 (Json.ofInt64 n) =
      some n.toInt := by
    simp [Json.ofInt64, intWithin?, int?, Json.int?, Option.filter]
    omega
  rw [int64?, within, Option.map_some, Int64.ofInt_toInt]

section PresentFields

variable {fields : List (String × Option Json)} (distinct : (fields.map (·.1)).Nodup)
  {name : String}

include distinct

/-- Of fields that are written if they have values, each reads back as what becomes of its value. -/
theorem optional_presentFields_map {α : Type} {read : Json → Option α} {write : α → Json}
    {f : α → α} {value : Option α} (mem : (name, value.map write) ∈ fields)
    (reads : ∀ a, read (write a) = some (f a)) (present : ∀ a, isNull (write a) = false) :
    Document.optional (Json.presentFields fields) name read = some (value.map f) :=
  optional_eq_some_map (Json.lookup_presentFields distinct mem) reads present

theorem optional_presentFields {α : Type} {read : Json → Option α} {write : α → Json}
    {value : Option α} (mem : (name, value.map write) ∈ fields)
    (reads : ∀ a, read (write a) = some a) (present : ∀ a, isNull (write a) = false) :
    Document.optional (Json.presentFields fields) name read = some value :=
  optional_eq_some (Json.lookup_presentFields distinct mem) reads present

theorem optional_text_presentFields {value : Option String}
    (mem : (name, value.map Json.str) ∈ fields) :
    Document.optional (Json.presentFields fields) name text? = some value :=
  optional_presentFields distinct mem text?_str isNull_str

end PresentFields

theorem optional_eq_some_some_iff {δ α : Type} [Document δ] {fields : List (String × δ)}
    {name : String} {read : δ → Option α} {a : α} :
    Document.optional fields name read = some (some a) ↔
      ∃ doc, fields.lookup name = some doc ∧ isNull doc = false ∧ read doc = some a := by
  unfold Document.optional defaulted
  cases fields.lookup name with
  | none => simp
  | some doc =>
    unfold nullable
    cases null : isNull doc with
    | true => simp [null]
    | false => simp [null]

/-- A value that is carried along is absent when it is the absent one. -/
theorem optional_value? {fields : List (String × Json)} {name : String} {value : Option JsonValue}
    (found : fields.lookup name = value.map JsonValue.toJson) :
    Document.optional fields name value? = some (value.filter (· ≠ .null)) := by
  unfold Document.optional defaulted
  rw [found]
  cases value with
  | none => rfl
  | some value =>
    change nullable JsonValue.ofJson? value.toJson = _
    by_cases absent : value = .null
    · subst absent
      rfl
    · have present : isNull value.toJson = false := by
        cases value <;> first | contradiction | rfl
      rw [nullable, present, JsonValue.ofJson?_toJson]
      simp [Option.filter, absent]

/-- A value that is carried along is not the absent one. -/
theorem optional_value?_ne_null {fields : List (String × Json)} {name : String}
    {value : Option JsonValue} (read : Document.optional fields name value? = some value) :
    value ≠ some .null := by
  rintro rfl
  obtain ⟨doc, _, present, doc_value⟩ := optional_eq_some_some_iff.1 read
  obtain rfl := JsonValue.ofJson?_eq_null_iff.1 doc_value
  cases present

/-- The elements of a list that was read were read. -/
theorem exists_of_optional_listOf? {α : Type} {fields : List (String × Json)} {name : String}
    {read : Json → Option α} {as : List α}
    (list_read : Document.optional fields name (listOf? read) = some (some as)) :
    ∀ a ∈ as, ∃ doc, read doc = some a := by
  obtain ⟨list, _, _, elements_read⟩ := optional_eq_some_some_iff.1 list_read
  obtain ⟨docs, _, each⟩ := Option.bind_eq_some_iff.1 elements_read
  intro a mem
  obtain ⟨doc, _, doc_read⟩ := exists_mem_left_of_forall₂ (mapM_eq_some_iff.1 each) mem
  exact ⟨doc, doc_read⟩

end Document

theorem OwnerReference.ofDocument?_toJson (owner : OwnerReference) :
    OwnerReference.ofDocument? owner.toJson = some owner := by
  have distinct : (owner.fields.map (·.1)).Nodup := by simp [fields]
  have text (name text : String) (mem : (name, some (Json.str text)) ∈ owner.fields) :
      Document.optional (Json.presentFields owner.fields) name text? = some (some text) :=
    optional_text_presentFields distinct mem
  have truth {name : String} {value : Option Bool}
      (mem : (name, value.map Json.bool) ∈ owner.fields) :
      Document.optional (Json.presentFields owner.fields) name bool? = some value :=
    optional_presentFields distinct mem (fun _ => rfl) fun _ => rfl
  have apiVersion := text "apiVersion" owner.apiVersion (by simp [fields])
  have kind := text "kind" owner.kind (by simp [fields])
  have name := text "name" owner.name (by simp [fields])
  have uid := text "uid" owner.uid (by simp [fields])
  have controller := @truth "controller" owner.controller (by simp [fields])
  have blocks := @truth "blockOwnerDeletion" owner.blockOwnerDeletion (by simp [fields])
  unfold OwnerReference.ofDocument? toJson
  rw [entries?_obj, Option.bind_eq_bind, Option.bind_some, apiVersion, kind, name, uid, controller,
    blocks]
  rfl

theorem Timestamp.ofDocument?_toJson (t : Timestamp) :
    Timestamp.ofDocument? t.toJson = some t.inWholeSeconds := by
  unfold Timestamp.ofDocument? toJson
  rw [text?_str, Option.bind_some, parse?_toText]

theorem Timestamp.toJson_inWholeSeconds (t : Timestamp) : t.inWholeSeconds.toJson = t.toJson := by
  unfold toJson
  rw [toText_inWholeSeconds]

theorem ManagedFields.ofDocument?_toJson (managed : ManagedFields) :
    ManagedFields.ofDocument? managed.toJson = some managed.asWritten := by
  have distinct : (managed.fields.map (·.1)).Nodup := by simp [fields]
  have text (name : String) (value : Option String) :=
    @optional_text_presentFields _ distinct name value
  have manager := text "manager" managed.manager (by simp [fields])
  have operation := text "operation" managed.operation (by simp [fields])
  have apiVersion := text "apiVersion" managed.apiVersion (by simp [fields])
  have subresource := text "subresource" managed.subresource (by simp [fields])
  have fieldsType := text "fieldsType" managed.fieldsType (by simp [fields])
  have time : Document.optional (Json.presentFields managed.fields) "time"
      Timestamp.ofDocument? = some (managed.time.map Timestamp.inWholeSeconds) :=
    optional_presentFields_map distinct (by simp [fields]) Timestamp.ofDocument?_toJson
      fun _ => rfl
  have fieldsV1 : Document.optional (Json.presentFields managed.fields) "fieldsV1" value? =
      some (managed.fieldsV1.filter (· ≠ .null)) :=
    optional_value? (Json.lookup_presentFields distinct (by simp [fields]))
  unfold ManagedFields.ofDocument? toJson
  rw [entries?_obj, Option.bind_eq_bind, Option.bind_some, manager, operation, apiVersion,
    subresource, time, fieldsType, fieldsV1]
  rfl

/-- Metadata reads back as far as its document tells. -/
theorem Metadata.ofDocument?_toJson (metadata : Metadata) :
    Metadata.ofDocument? metadata.toJson = some metadata.asWritten := by
  have distinct : (metadata.fields.map (·.1)).Nodup := by simp [fields]
  have text (name : String) (value : Option String) :=
    @optional_text_presentFields _ distinct name value
  have whole (name : String) (value : Option Int64)
      (mem : (name, value.map Json.ofInt64) ∈ metadata.fields) :
      Document.optional (Json.presentFields metadata.fields) name int64? = some value :=
    optional_presentFields distinct mem int64?_ofInt64 fun _ => rfl
  have map (name : String) (value : Option TextMap)
      (mem : (name, value.map TextMap.toJson) ∈ metadata.fields) :
      Document.optional (Json.presentFields metadata.fields) name textMap? = some value :=
    optional_presentFields distinct mem textMap?_toJson isNull_textMap
  have time (name : String) (value : Option Timestamp)
      (mem : (name, value.map Timestamp.toJson) ∈ metadata.fields) :
      Document.optional (Json.presentFields metadata.fields) name Timestamp.ofDocument? =
        some (value.map Timestamp.inWholeSeconds) :=
    optional_presentFields_map distinct mem Timestamp.ofDocument?_toJson fun _ => rfl
  have finalizers : Document.optional (Json.presentFields metadata.fields) "finalizers"
      (listOf? text?) = some metadata.finalizers :=
    optional_presentFields distinct (by simp [fields]) listOf?_strs fun _ => rfl
  have owners : Document.optional (Json.presentFields metadata.fields) "ownerReferences"
      (listOf? OwnerReference.ofDocument?) = some metadata.ownerReferences :=
    optional_presentFields distinct (by simp [fields])
      (listOf?_map OwnerReference.ofDocument?_toJson) fun _ => rfl
  have managed : Document.optional (Json.presentFields metadata.fields) "managedFields"
      (listOf? ManagedFields.ofDocument?) =
        some (metadata.managedFields.map (List.map ManagedFields.asWritten)) :=
    optional_presentFields_map distinct (by simp [fields])
      (listOf?_map_eq_some_map ManagedFields.ofDocument?_toJson) fun _ => rfl
  refine Metadata.ofDocument?_eq_some_iff.2 ⟨_, rfl, ?_⟩
  exact {
    name := text "name" metadata.name (by simp [fields])
    ns := text "namespace" metadata.ns (by simp [fields])
    generateName := text "generateName" metadata.generateName (by simp [fields])
    uid := text "uid" metadata.uid (by simp [fields])
    resourceVersion := text "resourceVersion" metadata.resourceVersion (by simp [fields])
    generation := whole "generation" metadata.generation (by simp [fields])
    creation := time "creationTimestamp" metadata.creationTimestamp (by simp [fields])
    deletion := time "deletionTimestamp" metadata.deletionTimestamp (by simp [fields])
    grace := whole "deletionGracePeriodSeconds" metadata.deletionGracePeriodSeconds
      (by simp [fields])
    finalizers, owners, managed
    labels := map "labels" metadata.labels (by simp [fields])
    annotations := map "annotations" metadata.annotations (by simp [fields])
    link := text "selfLink" metadata.selfLink (by simp [fields]) }

/-! ## Metadata that was read

What was read from JSON loses no more than the fractions of its seconds, and it is written as
without them. -/

theorem ManagedFields.asWritten_of_ofDocument? {doc : Json} {managed : ManagedFields}
    (read : ManagedFields.ofDocument? doc = some managed) :
    managed.asWritten = managed.inWholeSeconds := by
  unfold ManagedFields.ofDocument? at read
  simp only [Option.bind_eq_bind, Option.bind_eq_some_iff, Option.pure_def, Option.some.injEq]
    at read
  obtain ⟨fields, _, _, _, _, _, _, _, _, _, _, _, _, _, fieldsV1, fieldsV1_read, rfl⟩ := read
  have present := optional_value?_ne_null fieldsV1_read
  unfold asWritten
  rw [filter_ne_null_eq_iff.2 present]
  rfl

theorem Metadata.asWritten_of_ofDocument? {doc : Json} {metadata : Metadata}
    (read : Metadata.ofDocument? doc = some metadata) :
    metadata.asWritten = metadata.inWholeSeconds := by
  obtain ⟨fields, _, given⟩ := Metadata.ofDocument?_eq_some_iff.1 read
  have each : metadata.managedFields.map (List.map ManagedFields.asWritten) =
      metadata.managedFields.map (List.map ManagedFields.inWholeSeconds) := by
    have managed_read := given.managed
    generalize metadata.managedFields = managed at managed_read
    cases managed with
    | none => rfl
    | some entries =>
      rw [Option.map_some, Option.map_some]
      refine congrArg some (List.map_congr_left fun entry mem => ?_)
      obtain ⟨doc, entry_read⟩ := exists_of_optional_listOf? managed_read entry mem
      exact ManagedFields.asWritten_of_ofDocument? entry_read
  unfold asWritten
  rw [each]
  rfl

theorem ManagedFields.toJson_inWholeSeconds (managed : ManagedFields) :
    managed.inWholeSeconds.toJson = managed.toJson := by
  have fields_eq : managed.inWholeSeconds.fields = managed.fields := by
    unfold fields inWholeSeconds
    simp only [Option.map_map, Function.comp_def, Timestamp.toJson_inWholeSeconds]
  unfold toJson
  rw [fields_eq]

/-- The fractions of seconds in metadata are not written. -/
theorem Metadata.toJson_inWholeSeconds (metadata : Metadata) :
    metadata.inWholeSeconds.toJson = metadata.toJson := by
  have managed_eq (entries : List ManagedFields) :
      (entries.map ManagedFields.inWholeSeconds).map ManagedFields.toJson =
        entries.map ManagedFields.toJson := by
    rw [List.map_map]
    exact List.map_congr_left fun managed _ => managed.toJson_inWholeSeconds
  have fields_eq : metadata.inWholeSeconds.fields = metadata.fields := by
    unfold fields inWholeSeconds
    simp only [Option.map_map, Function.comp_def, Timestamp.toJson_inWholeSeconds, managed_eq]
  unfold toJson
  rw [fields_eq]

end MeshRoutes
