import MeshRoutes.Float64
import MeshRoutes.Json.Basic

/-!
# Values of JSON documents

What is held of a document whose content is only carried along. A number that is not whole is held
as a float, so two documents that differ in digits no float can hold have the same value. A number
beyond all finite floats has none.

## Main definitions

* `JsonValue`: the value of a document; equality is decidable.
* `JsonValue.ofJson?`, `JsonValue.toJson`: reading and writing.
-/

namespace MeshRoutes

/-- The value of a JSON document. -/
inductive JsonValue where
  | null
  | bool (b : Bool)
  | int (n : Int)
  | float (x : Float64)
  | text (s : String)
  | sequence (items : List JsonValue)
  | object (fields : List (String × JsonValue))
deriving Inhabited, Repr

namespace JsonValue

/-! ## Equality -/

mutual

/-- Whether two values are the same. -/
def same : JsonValue → JsonValue → Bool
  | null, null => true
  | bool a, bool b => a == b
  | int m, int n => m == n
  | float x, float y => x == y
  | text s, text t => s == t
  | sequence as, sequence bs => sameItems as bs
  | object as, object bs => sameFields as bs
  | _, _ => false

/-- Whether two sequences of values are the same. -/
def sameItems : List JsonValue → List JsonValue → Bool
  | [], [] => true
  | a :: as, b :: bs => same a b && sameItems as bs
  | _, _ => false

/-- Whether two lists of named values are the same. -/
def sameFields : List (String × JsonValue) → List (String × JsonValue) → Bool
  | [], [] => true
  | (name, a) :: as, (other, b) :: bs => name == other && same a b && sameFields as bs
  | _, _ => false

end

mutual

theorem same_iff : ∀ a b : JsonValue, same a b = true ↔ a = b
  | null, b | bool _, b | int _, b | float _, b | text _, b => by cases b <;> simp [same]
  | sequence as, b => by
    cases b with
    | sequence bs => simp [same, sameItems_iff as bs]
    | _ => simp [same]
  | object as, b => by
    cases b with
    | object bs => simp [same, sameFields_iff as bs]
    | _ => simp [same]

theorem sameItems_iff : ∀ as bs : List JsonValue, sameItems as bs = true ↔ as = bs
  | [], bs => by cases bs <;> simp [sameItems]
  | a :: as, bs => by
    cases bs with
    | nil => simp [sameItems]
    | cons b bs => simp [sameItems, same_iff a b, sameItems_iff as bs]

theorem sameFields_iff : ∀ as bs : List (String × JsonValue), sameFields as bs = true ↔ as = bs
  | [], bs => by cases bs <;> simp [sameFields]
  | (name, a) :: as, bs => by
    cases bs with
    | nil => simp [sameFields]
    | cons field bs =>
      obtain ⟨other, b⟩ := field
      simp [sameFields, same_iff a b, sameFields_iff as bs]

end

instance : DecidableEq JsonValue := fun a b => decidable_of_iff _ (same_iff a b)

/-! ## Documents -/

mutual

/-- The value of a document. -/
def ofJson? : Json → Option JsonValue
  | .null => some null
  | .bool b => some (bool b)
  | .int n => some (int n)
  | .decimal x => (Float64.ofBits? x.toBits).map float
  | .str s => some (text s)
  | .arr items => (ofItems? items).map sequence
  | .obj fields => (ofFields? fields).map object

/-- The values of the elements of a sequence. -/
def ofItems? : List Json → Option (List JsonValue)
  | [] => some []
  | item :: items => do return (← ofJson? item) :: (← ofItems? items)

/-- The values of the fields of an object. -/
def ofFields? : List (String × Json) → Option (List (String × JsonValue))
  | [] => some []
  | (name, doc) :: fields => do return (name, ← ofJson? doc) :: (← ofFields? fields)

end

mutual

/-- The document of a value. -/
def toJson : JsonValue → Json
  | null => .null
  | bool b => .bool b
  | int n => .int n
  | float x => .decimal x.toDecimal
  | text s => .str s
  | sequence items => .arr (itemsToJson items)
  | object fields => .obj (fieldsToJson fields)

/-- The documents of the elements of a sequence. -/
def itemsToJson : List JsonValue → List Json
  | [] => []
  | item :: items => toJson item :: itemsToJson items

/-- The documents of the fields of an object. -/
def fieldsToJson : List (String × JsonValue) → List (String × Json)
  | [] => []
  | (name, value) :: fields => (name, toJson value) :: fieldsToJson fields

end

end JsonValue

end MeshRoutes
