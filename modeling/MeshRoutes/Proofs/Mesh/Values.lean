import MeshRoutes.Proofs.Mesh.Documents
import MeshRoutes.Proofs.Yaml.ReadBack

/-!
# Mesh resources read back from YAML values

The document of a mesh resource can be written, and the resource reads back from its value.

* `VirtualService.isRoot`, `Service.isRoot`: their documents are roots of a stream.
* `VirtualService.ofDocument?_value`, `Service.ofDocument?_value`: the resources read back.
-/

namespace MeshRoutes

open Document (required defaulted)

open Yaml (Value)

/-! ## Writable documents -/

section Writable

variable {depth : Nat}

@[simp] theorem Json.isWritable_str (s : String) : (Json.str s).IsWritable depth := .str depth s

@[simp] theorem Json.isWritable_obj_iff {fields : List (String × Json)} :
    (Json.obj fields).IsWritable (depth + 1) ↔
      (fields.map (·.1)).Nodup ∧ ∀ field ∈ fields, field.2.IsWritable depth :=
  ⟨fun | .obj _ _ distinct each => ⟨distinct, each⟩, fun ⟨distinct, each⟩ => .obj _ _ distinct each⟩

@[simp] theorem Json.isWritable_arr_iff {items : List Json} :
    (Json.arr items).IsWritable (depth + 1) ↔ ∀ item ∈ items, item.IsWritable depth :=
  ⟨fun | .arr _ _ each => each, .arr _ _⟩

theorem Json.isWritable_arr_map {α : Type} {write : α → Json}
    (each : ∀ a, (write a).IsWritable depth) (as : List α) :
    (Json.arr (as.map write)).IsWritable (depth + 1) :=
  Json.isWritable_arr_iff.2 (List.forall_mem_map.2 fun a _ => each a)

theorem Json.isWritable_int {n : Nat} (fits : n < 4294967296) : (Json.int n).IsWritable depth := by
  have bounds : -Int.pow 2 63 ≤ (n : Int) ∧ (n : Int) < Int.pow 2 64 := by
    have low : Int.pow 2 63 = 9223372036854775808 := rfl
    have high : Int.pow 2 64 = 18446744073709551616 := rfl
    omega
  exact .int _ _ (if_pos (by simpa using bounds))

theorem TextMap.nodup_keys (map : TextMap) : (map.entries.map (·.1)).Nodup := by
  refine List.pairwise_map.2 (map.ascending.imp fun lt eq => ?_)
  rw [eq] at lt
  exact String.lt_irrefl _ lt

@[simp] theorem TextMap.isWritable_toJson (map : TextMap) : map.toJson.IsWritable (depth + 1) := by
  rw [TextMap.toJson, Json.ofTexts, Json.isWritable_obj_iff, List.map_map]
  exact ⟨map.nodup_keys, List.forall_mem_map.2 fun _ _ => Json.isWritable_str _⟩

@[simp] theorem ResourceMetadata.isWritable_toJson (metadata : ResourceMetadata) :
    metadata.toJson.IsWritable (depth + 2) := by
  unfold toJson mapField
  by_cases labels : metadata.labels.isEmpty <;>
    by_cases annotations : metadata.annotations.isEmpty <;> simp [labels, annotations]

@[simp] theorem Backend.isWritable_toJson (served : Backend) :
    served.toJson.IsWritable (depth + 4) := by
  have weight : (Json.int served.weight.toNat).IsWritable (depth + 3) :=
    Json.isWritable_int served.weight.toNat_lt
  simp [toJson, weight]

@[simp] theorem HttpRule.isWritable_toJson (rule : HttpRule) :
    rule.toJson.IsWritable (depth + 6) := by
  have backends : (Json.arr (rule.backends.map Backend.toJson)).IsWritable (depth + 5) :=
    Json.isWritable_arr_map Backend.isWritable_toJson rule.backends
  have prefixes : (Json.arr (rule.prefixes.map fun p =>
      .obj [("uri", .obj [("prefix", .str p)])])).IsWritable (depth + 5) :=
    Json.isWritable_arr_map (fun p => by simp) rule.prefixes
  unfold toJson
  by_cases everything : rule.prefixes.isEmpty <;> simp [everything, backends, prefixes]

theorem VirtualService.isWritable_toJson (resource : VirtualService) :
    resource.toJson.IsWritable (depth + 9) := by
  have texts (texts : List String) : (Json.strs texts).IsWritable (depth + 7) :=
    Json.isWritable_arr_map (fun _ => Json.isWritable_str _) texts
  have http : (Json.arr (resource.http.map HttpRule.toJson)).IsWritable (depth + 7) :=
    Json.isWritable_arr_map HttpRule.isWritable_toJson resource.http
  simp [toJson, texts, http]

theorem ServicePort.isWritable_toJson (port : ServicePort) :
    port.toJson.IsWritable (depth + 1) := by
  have number : (Json.int port.number.toNat).IsWritable depth :=
    Json.isWritable_int (port.number.toNat_lt.trans (by decide))
  simp [toJson, number]

theorem Service.isWritable_toJson (resource : Service) :
    resource.toJson.IsWritable (depth + 4) := by
  have ports : (Json.arr (resource.ports.map ServicePort.toJson)).IsWritable (depth + 2) :=
    Json.isWritable_arr_map ServicePort.isWritable_toJson resource.ports
  simp [toJson, ports]

theorem Json.IsWritable.hasDistinctNames {doc : Json} (writable : doc.IsWritable depth) :
    doc.hasDistinctNames = true := by
  induction writable with
  | null | bool | int | str => rfl
  | arr _ _ _ ih => exact Json.hasDistinctNames_arr_iff.2 ih
  | obj _ _ distinct _ ih => exact Json.hasDistinctNames_obj_iff.2 ⟨distinct, ih⟩

/-- A virtual service can be a document of a stream. -/
theorem VirtualService.isRoot (resource : VirtualService) : Yaml.IsRoot 128 resource.toJson :=
  ⟨resource.isWritable_toJson, _, _, rfl⟩

/-- A service can be a document of a stream. -/
theorem Service.isRoot (resource : Service) : Yaml.IsRoot 128 resource.toJson :=
  ⟨resource.isWritable_toJson, _, _, rfl⟩

end Writable

/-! ## Reading from values -/

namespace Document

variable {α : Type} {fields : List (String × Json)}

theorem record?_value (distinct : (fields.map (·.1)).Nodup) (names : List String) :
    record? names (Value.ofJson (.obj fields)) = some (Value.valuesOf fields) :=
  Value.record?_ofJson_obj distinct names

theorem required_valuesOf (name : String) (read : Value → Option α) :
    required (Value.valuesOf fields) name read =
      (fields.lookup name).bind fun doc => read (Value.ofJson doc) := by
  rw [required, Value.lookup_valuesOf, Option.bind_map]
  rfl

theorem defaulted_valuesOf (name : String) (read : Value → Option α) (default : α) :
    defaulted (Value.valuesOf fields) name read default =
      (fields.lookup name).elim (some default) fun doc => read (Value.ofJson doc) := by
  rw [defaulted, Value.lookup_valuesOf]
  cases fields.lookup name <;> rfl

theorem text?_value (text : String) : text? (Value.ofJson (.str text)) = some text := rfl

theorem textMap?_value (map : TextMap) : textMap? (Value.ofJson map.toJson) = some map := by
  have writable : map.toJson.IsWritable 1 := map.isWritable_toJson
  exact Yaml.CarriesOver.textMap (P := fun _ => True) _ map trivial writable.hasDistinctNames
    (textMap?_toJson map)

theorem word32?_value (n : UInt32) : word32? (Value.ofJson (.int n.toNat)) = some n :=
  word32?_int n

theorem word16?_value (n : UInt16) : word16? (Value.ofJson (.int n.toNat)) = some n :=
  word16?_int n

theorem listOf?_value {write : α → Json} {read : Value → Option α}
    (reads : ∀ a, read (Value.ofJson (write a)) = some a) (as : List α) :
    listOf? read (Value.ofJson (.arr (as.map write))) = some as := by
  have items : elements? (Value.ofJson (.arr (as.map write))) =
      some ((as.map write).map Value.ofJson) := congrArg some (Value.ofItems_eq_map _)
  rw [listOf?, items, Option.bind_some, List.map_map]
  exact mapM_write_eq_some reads as

end Document

section Values

open Document

theorem ResourceMetadata.ofDocument?_value (metadata : ResourceMetadata) :
    ResourceMetadata.ofDocument? (Value.ofJson metadata.toJson) = some metadata := by
  obtain ⟨fields, toJson_eq, lookup⟩ := metadata.exists_fields
  have writable : metadata.toJson.IsWritable 2 := metadata.isWritable_toJson
  rw [toJson_eq, Json.isWritable_obj_iff] at writable
  have map {key : String} {map : TextMap}
      (found : fields.lookup key = map.unlessEmpty.map TextMap.toJson) :
      defaulted (Value.valuesOf fields) key textMap? ∅ = some map := by
    rw [defaulted_valuesOf, found]
    have kept := map.getD_unlessEmpty
    cases written : map.unlessEmpty with
    | none => rw [written] at kept; exact congrArg some kept
    | some other => rw [written] at kept; subst kept; exact textMap?_value _
  unfold ResourceMetadata.ofDocument?
  rw [toJson_eq, record?_value writable.1, Option.bind_eq_bind, Option.bind_some,
    required_valuesOf, required_valuesOf, lookup "name", lookup "namespace",
    map (lookup "labels"), map (lookup "annotations")]
  rfl

theorem Backend.ofDocument?_value (served : Backend) :
    Backend.ofDocument? (Value.ofJson served.toJson) = some served := by
  simp [Backend.toJson, Backend.ofDocument?, Backend.headersOfDocument?, record?_value,
    required_valuesOf, defaulted_valuesOf, List.lookup_cons, text?_value, textMap?_value,
    word32?_value]

theorem HttpRule.ofDocument?_value (rule : HttpRule) :
    HttpRule.ofDocument? (Value.ofJson rule.toJson) = some rule := by
  obtain ⟨prefixes, backends⟩ := rule
  have backends_read := listOf?_value Backend.ofDocument?_value backends
  have match_read (start : String) : HttpRule.matchOfDocument?
      (Value.ofJson (.obj [("uri", .obj [("prefix", .str start)])])) = some start := by
    simp [HttpRule.matchOfDocument?, record?_value, required_valuesOf, text?_value]
  have prefixes_read := listOf?_value match_read prefixes
  unfold HttpRule.toJson HttpRule.ofDocument?
  by_cases everything : prefixes.isEmpty
  · simp [record?_value, required_valuesOf, defaulted_valuesOf, List.lookup_cons, everything,
      backends_read]
    exact List.isEmpty_iff.1 everything
  · simp [record?_value, required_valuesOf, defaulted_valuesOf, List.lookup_cons, everything,
      backends_read, prefixes_read]

/-- What is written of a virtual service reads back from its value. -/
theorem VirtualService.ofDocument?_value (resource : VirtualService) :
    VirtualService.ofDocument? (Value.ofJson resource.toJson) = some resource := by
  obtain ⟨apiVersion, kind, metadata, hosts, gateways, http⟩ := resource
  have texts_read (texts : List String) :
      listOf? text? (Value.ofJson (Json.strs texts)) = some texts :=
    listOf?_value text?_value texts
  have http_read := listOf?_value HttpRule.ofDocument?_value http
  simp [VirtualService.toJson, VirtualService.ofDocument?, record?_value, required_valuesOf,
    defaulted_valuesOf, List.lookup_cons, text?_value, texts_read, http_read,
    metadata.ofDocument?_value]

theorem ServicePort.ofDocument?_value (port : ServicePort) :
    ServicePort.ofDocument? (Value.ofJson port.toJson) = some port := by
  simp [ServicePort.toJson, ServicePort.ofDocument?, record?_value, required_valuesOf,
    List.lookup_cons, text?_value, word16?_value]

/-- What is written of a service reads back from its value. -/
theorem Service.ofDocument?_value (resource : Service) :
    Service.ofDocument? (Value.ofJson resource.toJson) = some resource := by
  obtain ⟨apiVersion, kind, metadata, selector, ports⟩ := resource
  have ports_read := listOf?_value ServicePort.ofDocument?_value ports
  simp [Service.toJson, Service.ofDocument?, record?_value, required_valuesOf, defaulted_valuesOf,
    List.lookup_cons, text?_value, textMap?_value, ports_read, metadata.ofDocument?_value]

end Values

end MeshRoutes
