import MeshRoutes.Mesh.Service
import MeshRoutes.Mesh.VirtualService
import MeshRoutes.Object.Basic
import MeshRoutes.Proofs.SortedMap
import MeshRoutes.Proofs.Traversal

/-!
# Mesh resources read back from their documents

What is written of a mesh resource reads back as the same resource, and it reads, as an object of
some kind, with its own name, namespace, labels and annotations.

* `VirtualService.ofDocument?_toJson`, `Service.ofDocument?_toJson`: mesh resources read back.
* `Metadata.ofDocument?_toJson_resource`: the metadata of an object that a mesh resource is.
-/

namespace MeshRoutes

namespace Document

@[simp] theorem text?_str (text : String) : text? (Json.str text) = some text := rfl

@[simp] theorem isNull_str (text : String) : isNull (Json.str text) = false := rfl

@[simp] theorem isNull_textMap (map : TextMap) : isNull map.toJson = false := rfl

@[simp] theorem entries?_obj (fields : List (String × Json)) :
    entries? (Json.obj fields) = some fields := rfl

@[simp] theorem record?_obj (names : List String) (fields : List (String × Json)) :
    record? names (Json.obj fields) = some fields := rfl

theorem mapM_texts (entries : List (String × String)) :
    (entries.map fun entry => (entry.1, Json.str entry.2)).mapM
        (fun entry => (text? entry.2).map (entry.1, ·)) = some entries := by
  refine mapM_write_eq_some ?_ entries
  exact fun _ => rfl

@[simp] theorem textMap?_toJson (map : TextMap) : textMap? map.toJson = some map := by
  unfold textMap? TextMap.toJson Json.ofTexts
  simp only [entries?, Json.fields?, Option.bind_eq_bind, Option.bind_some, Option.pure_def]
  rw [mapM_texts, Option.bind_some, SortedMap.ofList_entries]

/-- A field that is written if it has a value reads back as what becomes of the value. -/
theorem optional_eq_some_map {α : Type} {fields : List (String × Json)} {name : String}
    {read : Json → Option α} {write : α → Json} {f : α → α} {value : Option α}
    (found : fields.lookup name = value.map write) (reads : ∀ a, read (write a) = some (f a))
    (present : ∀ a, isNull (write a) = false) :
    Document.optional fields name read = some (value.map f) := by
  unfold Document.optional defaulted
  rw [found]
  cases value with
  | none => rfl
  | some a =>
    change nullable read (write a) = _
    rw [nullable, present a, reads a]
    rfl

/-- A field that is written if it has a value reads back. -/
theorem optional_eq_some {α : Type} {fields : List (String × Json)} {name : String}
    {read : Json → Option α} {write : α → Json} {value : Option α}
    (found : fields.lookup name = value.map write) (reads : ∀ a, read (write a) = some a)
    (present : ∀ a, isNull (write a) = false) :
    Document.optional fields name read = some value := by
  have same := @optional_eq_some_map _ _ _ _ _ id _ found reads present
  rwa [Option.map_id] at same

/-- A field that is written unless it has its default reads back. -/
theorem defaulted_eq_some {α : Type} {fields : List (String × Json)} {name : String}
    {read : Json → Option α} {write : α → Json} {value : Option α} (default : α)
    (found : fields.lookup name = value.map write) (reads : ∀ a, read (write a) = some a) :
    defaulted fields name read default = some (value.getD default) := by
  unfold defaulted
  rw [found]
  cases value with
  | none => rfl
  | some a => exact reads a

/-- A sequence reads back as what becomes of its elements. -/
theorem listOf?_map_eq_some_map {α : Type} {write : α → Json} {read : Json → Option α} {f : α → α}
    (reads : ∀ a, read (write a) = some (f a)) (as : List α) :
    listOf? read (.arr (as.map write)) = some (as.map f) :=
  mapM_map_eq_some fun a _ => reads a

/-- A sequence reads back when its elements do. -/
theorem listOf?_map {α : Type} {write : α → Json} {read : Json → Option α}
    (reads : ∀ a, read (write a) = some a) (as : List α) :
    listOf? read (.arr (as.map write)) = some as :=
  mapM_write_eq_some reads as

@[simp] theorem listOf?_strs (texts : List String) :
    listOf? text? (Json.strs texts) = some texts :=
  listOf?_map text?_str texts

@[simp] theorem word32?_int (n : UInt32) : word32? (Json.int n.toNat) = some n := by
  have below : n.toNat < 4294967296 := n.toNat_lt
  simp [word32?, intWithin?, int?, Json.int?, Option.filter]
  omega

@[simp] theorem intWithin?_word16 (n : UInt16) :
    (intWithin? (-2147483648) 2147483647 (Json.int n.toNat)) = some (n.toNat : Int) := by
  have below : n.toNat < 65536 := n.toNat_lt
  simp [intWithin?, int?, Json.int?, Option.filter]
  omega

end Document

/-! ## Metadata -/

section Metadata

open Document

variable (metadata : ResourceMetadata)

/-- A map that is left out of a document when it is empty. -/
def TextMap.unlessEmpty (map : TextMap) : Option TextMap := if map.isEmpty then none else some map

theorem TextMap.getD_unlessEmpty (map : TextMap) : map.unlessEmpty.getD ∅ = map := by
  unfold unlessEmpty
  split
  · next isEmpty => exact (SortedMap.ext (List.isEmpty_iff.1 isEmpty)).symm
  · rfl

/-- A map is found under its name unless it is empty. -/
theorem lookup_mapField {name key : String} {map : TextMap} {rest : List (String × Json)}
    (absent : rest.lookup name = none) :
    (ResourceMetadata.mapField name map ++ rest).lookup key =
      if key = name then map.unlessEmpty.map TextMap.toJson else rest.lookup key := by
  unfold ResourceMetadata.mapField TextMap.unlessEmpty
  split
  · split
    · next same => rw [same]; exact absent
    · rfl
  · exact SortedMap.lookup_cons ..

/-- What is found under the names of the fields. -/
theorem ResourceMetadata.exists_fields :
    ∃ fields, metadata.toJson = .obj fields ∧ ∀ key, fields.lookup key =
      if key = "name" then some (.str metadata.name)
      else if key = "namespace" then some (.str metadata.ns)
      else if key = "labels" then metadata.labels.unlessEmpty.map TextMap.toJson
      else if key = "annotations" then metadata.annotations.unlessEmpty.map TextMap.toJson
      else none := by
  refine ⟨_, rfl, fun key => ?_⟩
  have annotations (key : String) := @lookup_mapField "annotations" key metadata.annotations [] rfl
  simp only [List.append_nil, List.lookup_nil] at annotations
  have no_labels : (mapField "annotations" metadata.annotations).lookup "labels" = none :=
    annotations "labels"
  rw [List.append_assoc, List.cons_append, List.cons_append, List.nil_append,
    SortedMap.lookup_cons, SortedMap.lookup_cons, lookup_mapField no_labels, annotations]

@[simp] theorem ResourceMetadata.ofDocument?_toJson :
    ResourceMetadata.ofDocument? metadata.toJson = some metadata := by
  obtain ⟨fields, toJson_eq, lookup⟩ := metadata.exists_fields
  have map {key : String} {map : TextMap}
      (found : fields.lookup key = map.unlessEmpty.map TextMap.toJson) :
      defaulted fields key textMap? ∅ = some map := by
    rw [defaulted_eq_some ∅ found textMap?_toJson, TextMap.getD_unlessEmpty]
  unfold ResourceMetadata.ofDocument? required
  rw [toJson_eq, record?_obj, Option.bind_eq_bind, Option.bind_some, lookup "name",
    lookup "namespace", map (lookup "labels"), map (lookup "annotations")]
  rfl

/-- The metadata of the object that a mesh resource is. -/
theorem Metadata.ofDocument?_toJson_resource :
    Metadata.ofDocument? metadata.toJson = some
      { name := some metadata.name, ns := some metadata.ns
        labels := TextMap.unlessEmpty metadata.labels
        annotations := TextMap.unlessEmpty metadata.annotations } := by
  obtain ⟨fields, toJson_eq, lookup⟩ := metadata.exists_fields
  have text {key text : String} (found : fields.lookup key = some (.str text)) :
      Document.optional fields key text? = some (some text) :=
    @optional_eq_some _ _ _ _ Json.str (some text) found text?_str isNull_str
  have map {key : String} {map : Option TextMap}
      (found : fields.lookup key = map.map TextMap.toJson) :
      Document.optional fields key textMap? = some map :=
    optional_eq_some found textMap?_toJson isNull_textMap
  have absent {α : Type} (read : Json → Option α) {key : String}
      (none : fields.lookup key = .none) : Document.optional fields key read = some .none := by
    unfold Document.optional defaulted
    rw [none]
  unfold Metadata.ofDocument?
  rw [toJson_eq, entries?_obj, Option.bind_eq_bind, Option.bind_some]
  rw [text (lookup "name"), text (lookup "namespace"), absent _ (lookup "generateName"),
    absent _ (lookup "uid"), absent _ (lookup "resourceVersion"), absent _ (lookup "generation"),
    absent _ (lookup "creationTimestamp"), absent _ (lookup "deletionTimestamp"),
    absent _ (lookup "deletionGracePeriodSeconds"), absent _ (lookup "finalizers"),
    map (lookup "labels"), map (lookup "annotations"), absent _ (lookup "ownerReferences"),
    absent _ (lookup "managedFields"), absent _ (lookup "selfLink")]
  rfl

theorem TextMap.get?_unlessEmpty (map : TextMap) (key : String) :
    map.unlessEmpty.bind (·.get? key) = map.get? key := by
  unfold unlessEmpty
  by_cases none : map.isEmpty
  · have nil : map.entries = [] := List.isEmpty_iff.1 none
    simp [none, SortedMap.get?, nil]
  · simp [none]

end Metadata

/-! ## Virtual services -/

section VirtualService

open Document

@[simp] theorem Backend.ofDocument?_toJson (served : Backend) :
    Backend.ofDocument? served.toJson = some served := by
  simp [Backend.toJson, Backend.ofDocument?, Backend.headersOfDocument?, required, defaulted,
    List.lookup_cons]

@[simp] theorem HttpRule.ofDocument?_toJson (rule : HttpRule) :
    HttpRule.ofDocument? rule.toJson = some rule := by
  obtain ⟨prefixes, backends⟩ := rule
  have backends_read := listOf?_map Backend.ofDocument?_toJson backends
  have match_read (start : String) : HttpRule.matchOfDocument?
      (Json.obj [("uri", .obj [("prefix", .str start)])]) = some start := rfl
  have prefixes_read := listOf?_map match_read prefixes
  unfold HttpRule.toJson HttpRule.ofDocument?
  by_cases everything : prefixes.isEmpty
  · simp [required, defaulted, List.lookup_cons, everything, backends_read]
    exact List.isEmpty_iff.1 everything
  · simp [required, defaulted, List.lookup_cons, everything, backends_read, prefixes_read]

/-- What is written of a virtual service reads back. -/
@[simp] theorem VirtualService.ofDocument?_toJson (resource : VirtualService) :
    VirtualService.ofDocument? resource.toJson = some resource := by
  obtain ⟨apiVersion, kind, metadata, hosts, gateways, http⟩ := resource
  have http_read := listOf?_map HttpRule.ofDocument?_toJson http
  simp [VirtualService.toJson, VirtualService.ofDocument?, required, defaulted, List.lookup_cons,
    http_read]

end VirtualService

/-! ## Services -/

section Service

open Document

@[simp] theorem Document.word16?_int (n : UInt16) : word16? (Json.int n.toNat) = some n := by
  have below : n.toNat < 65536 := n.toNat_lt
  simp [word16?, intWithin?, int?, Json.int?, Option.filter]
  omega

theorem ServicePort.ofDocument?_toJson (port : ServicePort) :
    ServicePort.ofDocument? port.toJson = some port := by
  simp [ServicePort.toJson, ServicePort.ofDocument?, required, List.lookup_cons]

/-- What is written of a service reads back. -/
@[simp] theorem Service.ofDocument?_toJson (resource : Service) :
    Service.ofDocument? resource.toJson = some resource := by
  obtain ⟨apiVersion, kind, metadata, selector, ports⟩ := resource
  have ports_read := listOf?_map ServicePort.ofDocument?_toJson ports
  simp [Service.toJson, Service.ofDocument?, required, defaulted, List.lookup_cons, ports_read]

end Service

end MeshRoutes
