import MeshRoutes.Proofs.SortedMap
import MeshRoutes.Proofs.Traversal
import MeshRoutes.Yaml.Value

/-!
# JSON documents as YAML values

The names of an object become texts, and a number with a fraction or an exponent becomes the nearest
float. A record reads from the value of an object as from the object itself, since the names of an
object are distinct. The value of a sequence is no record.

* `Yaml.Value.ofJson`: the value of a document.
* `Json.hasDistinctNames`: whether no object in a document has a name twice.
* `Yaml.CarriesOver`: what is read from a document is read from its value.
-/

namespace MeshRoutes

/-! ## Distinct names -/

namespace Json

mutual

/-- Whether no object in a document has a name twice. -/
def hasDistinctNames : Json → Bool
  | arr items => itemsHaveDistinctNames items
  | obj fields => decide (fields.map (·.1)).Nodup && fieldsHaveDistinctNames fields
  | _ => true

/-- Whether no object in the elements of a sequence has a name twice. -/
def itemsHaveDistinctNames : List Json → Bool
  | [] => true
  | item :: items => hasDistinctNames item && itemsHaveDistinctNames items

/-- Whether no object in the values of fields has a name twice. -/
def fieldsHaveDistinctNames : List (String × Json) → Bool
  | [] => true
  | (_, value) :: fields => hasDistinctNames value && fieldsHaveDistinctNames fields

end

theorem hasDistinctNames_arr_iff {items : List Json} :
    (arr items).hasDistinctNames = true ↔ ∀ item ∈ items, item.hasDistinctNames = true := by
  rw [hasDistinctNames]
  induction items with
  | nil => simp [itemsHaveDistinctNames]
  | cons item items ih => rw [itemsHaveDistinctNames, Bool.and_eq_true, ih, List.forall_mem_cons]

theorem hasDistinctNames_obj_iff {fields : List (String × Json)} :
    (obj fields).hasDistinctNames = true ↔
      (fields.map (·.1)).Nodup ∧ ∀ field ∈ fields, field.2.hasDistinctNames = true := by
  have values : fieldsHaveDistinctNames fields = true ↔
      ∀ field ∈ fields, field.2.hasDistinctNames = true := by
    induction fields with
    | nil => simp [fieldsHaveDistinctNames]
    | cons field fields ih =>
      rw [fieldsHaveDistinctNames, Bool.and_eq_true, ih, List.forall_mem_cons]
  rw [hasDistinctNames, Bool.and_eq_true, decide_eq_true_iff, values]

end Json

namespace Yaml

/-! ## Values -/

namespace Value

mutual

/-- The value of a document. -/
def ofJson : Json → Value
  | .null => null
  | .bool b => bool b
  | .int n => int n
  | .decimal x => float x.toBits
  | .str s => text s
  | .arr items => sequence (ofItems items)
  | .obj fields => mapping (ofFields fields)

/-- The values of the elements of a sequence. -/
def ofItems : List Json → List Value
  | [] => []
  | item :: items => ofJson item :: ofItems items

/-- The values of the fields of an object, with their names as texts. -/
def ofFields : List (String × Json) → List (Value × Value)
  | [] => []
  | (name, value) :: fields => (text name, ofJson value) :: ofFields fields

end

theorem ofItems_eq_map (items : List Json) : ofItems items = items.map ofJson := by
  induction items with
  | nil => rfl
  | cons item items ih => rw [ofItems, ih, List.map_cons]

theorem ofFields_eq_map (fields : List (String × Json)) :
    ofFields fields = fields.map fun field => (text field.1, ofJson field.2) := by
  induction fields with
  | nil => rfl
  | cons field fields ih => rw [ofFields, ih, List.map_cons]

@[simp] theorem untagged_ofJson (doc : Json) : (ofJson doc).untagged = ofJson doc := by
  cases doc <;> rfl

/-- The value of a field is found under its name. -/
theorem get?_ofJson (key : String) (doc : Json) :
    (ofJson doc).get? key = (doc.field? key).map ofJson := by
  unfold get?
  rw [untagged_ofJson]
  cases doc with
  | obj fields =>
    change ((ofFields fields).find? _).map _ = (fields.lookup key).map ofJson
    induction fields with
    | nil => rfl
    | cons field fields ih =>
      obtain ⟨name, value⟩ := field
      rw [ofFields, SortedMap.lookup_cons]
      by_cases here : key = name
      · rw [if_pos here, List.find?_cons_of_pos (by simp [same, here]), Option.map_some,
          Option.map_some]
      · rw [if_neg here, List.find?_cons_of_neg (by simp [same, Ne.symm here]), ih]
  | _ => rfl

@[simp] theorem sequence?_ofJson (doc : Json) :
    (ofJson doc).sequence? = doc.arr?.map (List.map ofJson) := by
  unfold sequence?
  rw [untagged_ofJson]
  cases doc with
  | arr items => exact congrArg some (ofItems_eq_map items)
  | _ => rfl

@[simp] theorem text?_ofJson (doc : Json) : (ofJson doc).text? = doc.str? := by
  unfold text?
  rw [untagged_ofJson]
  cases doc <;> rfl

@[simp] theorem bool?_ofJson (doc : Json) : (ofJson doc).bool? = doc.bool? := by
  unfold bool?
  rw [untagged_ofJson]
  cases doc <;> rfl

@[simp] theorem int?_ofJson (doc : Json) : (ofJson doc).int? = doc.int? := by
  unfold int?
  rw [untagged_ofJson]
  cases doc <;> rfl

@[simp] theorem isNull_ofJson (doc : Json) : (ofJson doc).isNull = doc.isNull := by
  cases doc <;> rfl

/-- The fields of an object with their values. -/
def valuesOf (fields : List (String × Json)) : List (String × Value) :=
  fields.map fun field => (field.1, ofJson field.2)

theorem entries?_ofJson_obj (fields : List (String × Json)) :
    (ofJson (.obj fields)).entries? = some (valuesOf fields) := by
  change (ofFields fields).mapM _ = some (valuesOf fields)
  rw [ofFields_eq_map]
  exact mapM_map_eq_some fun field _ => rfl

theorem lookup_valuesOf (fields : List (String × Json)) (name : String) :
    (valuesOf fields).lookup name = (fields.lookup name).map ofJson := by
  induction fields with
  | nil => rfl
  | cons field fields ih =>
    rw [valuesOf, List.map_cons, SortedMap.lookup_cons, SortedMap.lookup_cons]
    split
    · rfl
    · exact ih

theorem record?_ofJson_obj {fields : List (String × Json)} (distinct : (fields.map (·.1)).Nodup)
    (names : List String) : (ofJson (.obj fields)).record? names = some (valuesOf fields) := by
  have once (name : String) : (valuesOf fields).countP (·.1 == name) ≤ 1 := by
    have names_eq : (valuesOf fields).map (·.1) = fields.map (·.1) := by
      rw [valuesOf, List.map_map]
      rfl
    have count := List.nodup_iff_count_le_one.1 (names_eq ▸ distinct) name
    rwa [List.count, List.countP_map] at count
  rw [record?, entries?_ofJson_obj, Option.filter_some, if_pos]
  exact List.all_eq_true.2 fun name _ => decide_eq_true (once name)

/-! ### Values that are carried along -/

theorem names_of_ofFields? {fields : List (String × Json)} {values : List (String × JsonValue)}
    (read : JsonValue.ofFields? fields = some values) :
    values.map (·.1) = fields.map (·.1) := by
  induction fields generalizing values with
  | nil =>
    cases read
    rfl
  | cons field fields ih =>
    obtain ⟨value, _, read⟩ := Option.bind_eq_some_iff.1 read
    obtain ⟨behind, behind_read, made⟩ := Option.bind_eq_some_iff.1 read
    cases made
    rw [List.map_cons, List.map_cons, ih behind_read]

mutual

/-- The value of a document without repeated names is that of its YAML value. -/
theorem json?_ofJson : ∀ (doc : Json) (value : JsonValue), doc.hasDistinctNames = true →
    JsonValue.ofJson? doc = some value → (ofJson doc).json? = some value
  | .null, _, _, read | .bool _, _, _, read | .int _, _, _, read | .str _, _, _, read => read
  | .decimal x, _, _, read => by
    obtain ⟨y, finite, rfl⟩ := Option.map_eq_some_iff.1 read
    rw [ofJson, json?, finite]
    rfl
  | .arr items, _, distinct, read => by
    obtain ⟨values, items_read, rfl⟩ := Option.map_eq_some_iff.1 read
    rw [Json.hasDistinctNames] at distinct
    rw [ofJson, json?, itemsJson?_ofItems items values distinct items_read]
    rfl
  | .obj fields, _, distinct, read => by
    obtain ⟨values, fields_read, rfl⟩ := Option.map_eq_some_iff.1 read
    rw [Json.hasDistinctNames, Bool.and_eq_true, decide_eq_true_iff] at distinct
    rw [ofJson, json?, pairsJson?_ofFields fields values distinct.1 distinct.2 fields_read]
    rfl

theorem itemsJson?_ofItems : ∀ (items : List Json) (values : List JsonValue),
    Json.itemsHaveDistinctNames items = true → JsonValue.ofItems? items = some values →
    itemsJson? (ofItems items) = some values
  | [], _, _, read => read
  | item :: items, _, distinct, read => by
    obtain ⟨value, item_read, read⟩ := Option.bind_eq_some_iff.1 read
    obtain ⟨behind, items_read, made⟩ := Option.bind_eq_some_iff.1 read
    rw [Json.itemsHaveDistinctNames, Bool.and_eq_true] at distinct
    rw [ofItems, itemsJson?, json?_ofJson item value distinct.1 item_read,
      itemsJson?_ofItems items behind distinct.2 items_read]
    exact made

theorem pairsJson?_ofFields : ∀ (fields : List (String × Json))
    (values : List (String × JsonValue)), (fields.map (·.1)).Nodup →
    Json.fieldsHaveDistinctNames fields = true → JsonValue.ofFields? fields = some values →
    pairsJson? (ofFields fields) = some values
  | [], _, _, _, read => read
  | (name, doc) :: fields, _, distinct, each, read => by
    obtain ⟨value, doc_read, read⟩ := Option.bind_eq_some_iff.1 read
    obtain ⟨behind, fields_read, made⟩ := Option.bind_eq_some_iff.1 read
    cases made
    obtain ⟨new, distinct⟩ := List.nodup_cons.1 distinct
    rw [Json.fieldsHaveDistinctNames, Bool.and_eq_true] at each
    have not_any : behind.any (·.1 == name) = false := by
      refine List.any_eq_false.2 fun field mem same => new ?_
      rw [← names_of_ofFields? fields_read]
      exact List.mem_map.2 ⟨field, mem, eq_of_beq same⟩
    rw [ofFields, pairsJson?, json?_ofJson doc value each.1 doc_read,
      pairsJson?_ofFields fields behind distinct each.2 fields_read]
    simp [text?, untagged, not_any]

end

end Value

/-! ## Reading from values -/

/-- What is read from a document of which `P` holds is read from its value. -/
def CarriesOver {α : Type} (P : Json → Prop) (fromJson : Json → Option α)
    (fromValue : Value → Option α) : Prop :=
  ∀ doc a, P doc → doc.hasDistinctNames = true → fromJson doc = some a →
    fromValue (Value.ofJson doc) = some a

namespace CarriesOver

open Document

variable {α : Type} {P : Json → Prop} {fromJson : Json → Option α} {fromValue : Value → Option α}

theorem mono {Q : Json → Prop} (carries : CarriesOver P fromJson fromValue)
    (imp : ∀ doc, Q doc → P doc) : CarriesOver Q fromJson fromValue :=
  fun doc a holds => carries doc a (imp doc holds)

theorem text : CarriesOver P text? text? := by
  intro doc s _ _ read
  exact (Value.text?_ofJson doc).trans read

theorem bool : CarriesOver P bool? bool? := by
  intro doc b _ _ read
  exact (Value.bool?_ofJson doc).trans read

theorem intWithin?_ofJson (lo hi : Int) (doc : Json) :
    intWithin? lo hi (Value.ofJson doc) = intWithin? lo hi doc :=
  congrArg (Option.filter _) (Value.int?_ofJson doc)

theorem word16 : CarriesOver P word16? word16? := by
  intro doc n _ _ read
  rwa [word16?, intWithin?_ofJson]

theorem word32 : CarriesOver P word32? word32? := by
  intro doc n _ _ read
  rwa [word32?, intWithin?_ofJson]

theorem int64 : CarriesOver P int64? int64? := by
  intro doc n _ _ read
  rwa [int64?, intWithin?_ofJson]

theorem value : CarriesOver P value? value? :=
  fun doc value _ distinct read => Value.json?_ofJson doc value distinct read

theorem nullable (carries : CarriesOver P fromJson fromValue) :
    CarriesOver P (nullable fromJson) (nullable fromValue) := by
  intro doc value holds distinct read
  unfold Document.nullable at read ⊢
  have isNull_eq : isNull (Value.ofJson doc) = isNull doc := Value.isNull_ofJson doc
  rw [isNull_eq]
  split at read
  · next null => rwa [if_pos null]
  · next given =>
    obtain ⟨a, given_read, rfl⟩ := Option.map_eq_some_iff.1 read
    rw [if_neg given, carries doc a holds distinct given_read]
    rfl

theorem listOf (carries : CarriesOver P fromJson fromValue) :
    CarriesOver (fun doc => ∀ docs, doc = .arr docs → ∀ item ∈ docs, P item)
      (listOf? fromJson) (listOf? fromValue) := by
  intro doc as holds distinct read
  cases doc with
  | arr docs =>
    have items_distinct := Json.hasDistinctNames_arr_iff.1 distinct
    have items : elements? (Value.ofJson (.arr docs)) = some (docs.map Value.ofJson) :=
      congrArg some (Value.ofItems_eq_map docs)
    have each : List.Forall₂ (fun doc a => fromJson doc = some a) docs as :=
      mapM_eq_some_iff.1 read
    rw [listOf?, items, Option.bind_some, mapM_eq_some_iff, List.forall₂_map_left_iff]
    have all_hold := holds docs rfl
    clear holds distinct read items
    induction each with
    | nil => exact .nil
    | cons here _ ih =>
      obtain ⟨first, others⟩ := List.forall_mem_cons.1 all_hold
      obtain ⟨first', others'⟩ := List.forall_mem_cons.1 items_distinct
      exact .cons (carries _ _ first first' here) (ih others' others)
  | _ => cases read

/-- What carries over whatever the documents are like does so for all elements of a sequence. -/
theorem elements (carries : CarriesOver (fun _ => True) fromJson fromValue) :
    CarriesOver (fun _ => True) (listOf? fromJson) (listOf? fromValue) :=
  carries.listOf.mono fun _ _ _ _ _ _ => trivial

/-- A mapping carries over when its entries do. -/
theorem entries {fromFields : List (String × Json) → Option α}
    {fromValues : List (String × Value) → Option α}
    (carries : ∀ fields a, (∀ field ∈ fields, field.2.hasDistinctNames = true) →
      fromFields fields = some a → fromValues (Value.valuesOf fields) = some a) :
    CarriesOver P (fun doc => (entries? doc).bind fromFields)
      (fun doc => (entries? doc).bind fromValues) := by
  intro doc a _ distinct read
  cases doc with
  | obj fields =>
    obtain ⟨_, distinct⟩ := Json.hasDistinctNames_obj_iff.1 distinct
    have entries : entries? (Value.ofJson (.obj fields)) = some (Value.valuesOf fields) :=
      Value.entries?_ofJson_obj fields
    dsimp only
    rw [entries]
    exact carries fields a distinct read
  | _ => cases read

theorem textMap : CarriesOver P textMap? textMap? := by
  intro doc map _ _ read
  cases doc with
  | obj fields =>
    have entries : entries? (Value.ofJson (.obj fields)) = some (Value.valuesOf fields) :=
      Value.entries?_ofJson_obj fields
    have entries' : entries? (Json.obj fields) = some fields := rfl
    unfold textMap? at read ⊢
    rw [entries'] at read
    rw [entries]
    simp only [Option.bind_eq_bind, Option.bind_some] at read ⊢
    have texts : (Value.valuesOf fields).mapM (fun entry => (text? entry.2).map (entry.1, ·)) =
        fields.mapM (fun entry => (text? entry.2).map (entry.1, ·)) := by
      rw [Value.valuesOf, List.mapM_map]
      refine congrArg (List.mapM · fields) (funext fun field => ?_)
      exact congrArg (Option.map _) (Value.text?_ofJson field.2)
    rwa [texts]
  | _ => cases read

/-! ### Fields -/

variable {fields : List (String × Json)} {name : String}

theorem distinct_of_lookup (distinct : ∀ field ∈ fields, field.2.hasDistinctNames = true)
    {doc : Json} (found : fields.lookup name = some doc) : doc.hasDistinctNames = true := by
  obtain ⟨before, behind, rfl, _⟩ := List.lookup_eq_some_iff.1 found
  exact distinct (name, doc) (List.mem_append_right _ List.mem_cons_self)

theorem required (carries : CarriesOver P fromJson fromValue)
    (distinct : ∀ field ∈ fields, field.2.hasDistinctNames = true)
    (holds : ∀ doc, fields.lookup name = some doc → P doc) {a : α}
    (read : required fields name fromJson = some a) :
    Document.required (Value.valuesOf fields) name fromValue = some a := by
  unfold Document.required at read ⊢
  obtain ⟨doc, found, read⟩ := Option.bind_eq_some_iff.1 read
  rw [Value.lookup_valuesOf, found]
  exact carries doc a (holds doc found) (distinct_of_lookup distinct found) read

theorem defaulted (carries : CarriesOver P fromJson fromValue)
    (distinct : ∀ field ∈ fields, field.2.hasDistinctNames = true)
    (holds : ∀ doc, fields.lookup name = some doc → P doc) {default a : α}
    (read : defaulted fields name fromJson default = some a) :
    Document.defaulted (Value.valuesOf fields) name fromValue default = some a := by
  unfold Document.defaulted at read ⊢
  rw [Value.lookup_valuesOf]
  cases found : fields.lookup name with
  | none => rwa [found] at read
  | some doc =>
    rw [found] at read
    exact carries doc a (holds doc found) (distinct_of_lookup distinct found) read

theorem optional (carries : CarriesOver (fun _ => True) fromJson fromValue)
    (distinct : ∀ field ∈ fields, field.2.hasDistinctNames = true) {value : Option α}
    (read : Document.optional fields name fromJson = some value) :
    Document.optional (Value.valuesOf fields) name fromValue = some value :=
  carries.nullable.defaulted distinct (fun _ _ => trivial) read

end CarriesOver

end Yaml

end MeshRoutes
