import MeshRoutes.Json.Value
import MeshRoutes.Proofs.Float64

/-!
# Values of JSON documents read back

The document of a value has this value, and only the absent document has the absent value.

* `JsonValue.ofJson?_toJson`, `JsonValue.ofJson?_eq_null_iff`.
-/

namespace MeshRoutes

namespace JsonValue

mutual

/-- The document of a value has this value. -/
theorem ofJson?_toJson : ∀ value : JsonValue, ofJson? value.toJson = some value
  | null | bool _ | int _ | text _ => rfl
  | float x => by
    rw [toJson, ofJson?, x.toBits_toDecimal, x.ofBits?_bits]
    rfl
  | sequence items => by
    rw [toJson, ofJson?, ofItems?_itemsToJson items]
    rfl
  | object fields => by
    rw [toJson, ofJson?, ofFields?_fieldsToJson fields]
    rfl

theorem ofItems?_itemsToJson :
    ∀ items : List JsonValue, ofItems? (itemsToJson items) = some items
  | [] => rfl
  | item :: items => by
    rw [itemsToJson, ofItems?, ofJson?_toJson item, ofItems?_itemsToJson items]
    rfl

theorem ofFields?_fieldsToJson :
    ∀ fields : List (String × JsonValue), ofFields? (fieldsToJson fields) = some fields
  | [] => rfl
  | (name, value) :: fields => by
    rw [fieldsToJson, ofFields?, ofJson?_toJson value, ofFields?_fieldsToJson fields]
    rfl

end

theorem ofJson?_eq_null_iff {doc : Json} : ofJson? doc = some .null ↔ doc = .null := by
  cases doc <;> simp [ofJson?]

end JsonValue

end MeshRoutes
