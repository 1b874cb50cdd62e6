import MeshRoutes.Json.Value
import MeshRoutes.SortedMap

/-!
# Reading typed values from documents

Routes and mesh resources arrive as documents of two formats. `Document` says what a format has
to offer so that a record can be read from it, and the functions below read the parts of a record.
A document that does not describe a value of the wanted type reads as `none`; every reader is
strict, so no value of another type is converted.

## Main definitions

* `Document`: what a format offers.
* `Document.record?`: the fields of a record, given by name or in declared order.
* `Document.required`, `Document.defaulted`, `Document.optional`: one field of a record.
* `Document.textMap?`, `Document.listOf?`: collections.

## Implementation notes

A JSON record may also be a sequence that holds its fields in declared order. Fields at the end
may be missing from it, and then they are absent as in an object without them.
-/

namespace MeshRoutes

/-- A document format from which typed values are read. A record is read under the names of its
fields in declared order; a document that only has to be carried along has some value. -/
class Document (δ : Type) where
  text? : δ → Option String
  bool? : δ → Option Bool
  int? : δ → Option Int
  isNull : δ → Bool
  elements? : δ → Option (List δ)
  entries? : δ → Option (List (String × δ))
  record? : List String → δ → Option (List (String × δ))
  value? : δ → Option JsonValue

namespace Json

/-- The fields of a record: those of an object, or the elements of a sequence under the declared
names, of which the last may be missing. -/
def record? (names : List String) : Json → Option (List (String × Json))
  | obj fields => some fields
  | arr values => if values.length ≤ names.length then some (names.zip values) else none
  | _ => none

end Json

instance : Document Json where
  text? := Json.str?
  bool? := Json.bool?
  int? := Json.int?
  isNull := Json.isNull
  elements? := Json.arr?
  entries? := Json.fields?
  record? := Json.record?
  value? := JsonValue.ofJson?

namespace Document

variable {δ α : Type} [Document δ]

/-- A field that must be there. -/
def required (fields : List (String × δ)) (name : String) (read : δ → Option α) : Option α :=
  (fields.lookup name).bind read

/-- A field that has a default when it is absent. -/
def defaulted (fields : List (String × δ)) (name : String) (read : δ → Option α)
    (default : α) : Option α :=
  match fields.lookup name with
  | none => some default
  | some doc => read doc

/-- A value that may be null. -/
def nullable (read : δ → Option α) (doc : δ) : Option (Option α) :=
  if isNull doc then some none else (read doc).map some

/-- A field that may be absent or null, both of which mean that there is no value. -/
def optional (fields : List (String × δ)) (name : String) (read : δ → Option α) :
    Option (Option α) :=
  defaulted fields name (nullable read) none

/-- A sequence whose elements are all read. -/
def listOf? (read : δ → Option α) (doc : δ) : Option (List α) :=
  (elements? doc).bind (List.mapM read)

/-- A mapping from texts to texts. -/
def textMap? (doc : δ) : Option TextMap := do
  let entries ← entries? doc
  let texts ← entries.mapM fun entry => (text? entry.2).map (entry.1, ·)
  return SortedMap.ofList texts

/-- A whole number from `lo` up to and including `hi`. -/
def intWithin? (lo hi : Int) (doc : δ) : Option Int :=
  (int? doc).filter fun n => lo ≤ n && n ≤ hi

/-- A whole number of sixteen bits without sign. -/
def word16? (doc : δ) : Option UInt16 :=
  (intWithin? 0 65535 doc).map fun n => UInt16.ofNat n.toNat

/-- A whole number of thirty-two bits without sign. -/
def word32? (doc : δ) : Option UInt32 :=
  (intWithin? 0 4294967295 doc).map fun n => UInt32.ofNat n.toNat

/-- A whole number of sixty-four bits with sign. -/
def int64? (doc : δ) : Option Int64 :=
  (intWithin? (-9223372036854775808) 9223372036854775807 doc).map Int64.ofInt

/-- A whole number of sixty-four bits without sign. -/
def nat64? (doc : δ) : Option Nat :=
  (intWithin? 0 18446744073709551615 doc).map Int.toNat

end Document

namespace TextMap

/-- The object with the entries of the map. -/
def toJson (map : TextMap) : Json := Json.ofTexts map.entries

end TextMap

end MeshRoutes
