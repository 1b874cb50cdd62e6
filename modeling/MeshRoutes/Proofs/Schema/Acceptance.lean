import Mathlib.Algebra.Group.Int.Defs
import MeshRoutes.Proofs.Mesh.Documents
import MeshRoutes.Schema.Basic

/-!
# What a schema accepts

A schema accepts documents of its type, null where it is nullable, sequences and mappings of which
it accepts every part, and records that have the fields it requires. Fields it does not know are of
no concern, a whole number may be written with a point or an exponent, and formats bound nothing.

* `Schema.accepts`: whether a schema accepts a document.
* `Schema.Ensures`: whatever a schema accepts is read.
-/

namespace MeshRoutes

/-! ## Acceptance -/

namespace Decimal

/-- The digits with their sign, as a whole number. -/
def signedDigits (x : Decimal) : Int := if x.negative then -(x.digits : Int) else x.digits

/-- The whole number that a decimal number is, if it is one. -/
def whole? (x : Decimal) : Option Int :=
  let numerator := x.signedDigits * 10 ^ x.exponent.toNat
  let denominator : Int := 10 ^ (-x.exponent).toNat
  if numerator % denominator = 0 then some (numerator / denominator) else none

/-- Whether a decimal number is at most a whole number. -/
def isAtMost (x : Decimal) (n : Int) : Bool :=
  x.signedDigits * 10 ^ x.exponent.toNat ≤ n * 10 ^ (-x.exponent).toNat

/-- Whether a decimal number is at least a whole number. -/
def isAtLeast (x : Decimal) (n : Int) : Bool :=
  n * 10 ^ (-x.exponent).toNat ≤ x.signedDigits * 10 ^ x.exponent.toNat

end Decimal

/-- The whole number that a document is, in whatever way it is written. -/
def Json.whole? : Json → Option Int
  | int n => some n
  | decimal x => x.whole?
  | _ => none

namespace Schema

mutual

/-- Whether a schema accepts a document. -/
def accepts (schema : Schema) (doc : Json) : Bool :=
  (schema.notes.nullable && doc.isNull) ||
    match schema, doc with
    | text _, .str _ => true
    | truth _, .bool _ => true
    | whole _ _ minimum maximum, doc => doc.whole?.any fun n =>
      minimum.all (·.isAtMost n) && maximum.all (·.isAtLeast n)
    | list _ items, .arr docs => docs.all fun doc => items.accepts doc
    | map _ values, .obj fields => fields.all fun field => values.accepts field.2
    | record _ properties required, .obj fields =>
      required.all (fun name => (fields.lookup name).isSome) && propertiesAccept properties fields
    | _, _ => false

/-- Whether the schemas of properties accept those that are among the fields. -/
def propertiesAccept : List (String × Schema) → List (String × Json) → Bool
  | [], _ => true
  | (name, schema) :: properties, fields =>
    (match fields.lookup name with
      | none => true
      | some doc => schema.accepts doc) && propertiesAccept properties fields

end

variable {notes : SchemaNotes} {doc : Json}

theorem propertiesAccept_iff {properties : List (String × Schema)}
    {fields : List (String × Json)} :
    propertiesAccept properties fields = true ↔ ∀ property ∈ properties, ∀ doc,
      fields.lookup property.1 = some doc → property.2.accepts doc = true := by
  induction properties with
  | nil => simp [propertiesAccept]
  | cons property properties ih =>
    obtain ⟨name, schema⟩ := property
    rw [propertiesAccept, Bool.and_eq_true, ih, List.forall_mem_cons]
    cases found : fields.lookup name with
    | none => simp
    | some doc => simp

theorem accepts_record_iff (not_nullable : notes.nullable = false)
    {properties : List (String × Schema)} {required : List String} :
    (record notes properties required).accepts doc = true ↔ ∃ fields, doc = .obj fields ∧
      (∀ name ∈ required, ∃ doc, fields.lookup name = some doc) ∧
      ∀ property ∈ properties, ∀ doc, fields.lookup property.1 = some doc →
        property.2.accepts doc = true := by
  conv_lhs => unfold accepts
  cases doc with
  | obj fields =>
    simp only [Schema.notes, not_nullable, Bool.false_and, Bool.false_or, Bool.and_eq_true,
      List.all_eq_true, Option.isSome_iff_exists, propertiesAccept_iff, Json.obj.injEq,
      exists_eq_left']
  | _ => simp [Schema.notes, not_nullable]

theorem accepts_list_iff (not_nullable : notes.nullable = false) {items : Schema} :
    (list notes items).accepts doc = true ↔
      ∃ docs, doc = .arr docs ∧ ∀ doc ∈ docs, items.accepts doc = true := by
  conv_lhs => unfold accepts
  cases doc with
  | arr docs => simp [Schema.notes, not_nullable]
  | _ => simp [Schema.notes, not_nullable]

theorem accepts_map_iff (not_nullable : notes.nullable = false) {values : Schema} :
    (map notes values).accepts doc = true ↔
      ∃ fields, doc = .obj fields ∧ ∀ field ∈ fields, values.accepts field.2 = true := by
  conv_lhs => unfold accepts
  cases doc with
  | obj fields => simp [Schema.notes, not_nullable]
  | _ => simp [Schema.notes, not_nullable]

theorem accepts_text_iff (not_nullable : notes.nullable = false) :
    (text notes).accepts doc = true ↔ ∃ s, doc = .str s := by
  conv_lhs => unfold accepts
  cases doc with
  | str s => simp
  | _ => simp [Schema.notes, not_nullable]

theorem accepts_truth_iff (not_nullable : notes.nullable = false) :
    (truth notes).accepts doc = true ↔ ∃ b, doc = .bool b := by
  conv_lhs => unfold accepts
  cases doc with
  | bool b => simp
  | _ => simp [Schema.notes, not_nullable]

theorem accepts_whole_iff {format : String} {minimum maximum : Option Decimal} :
    (whole notes format minimum maximum).accepts doc = true ↔
      (notes.nullable = true ∧ doc = .null) ∨ ∃ n, doc.whole? = some n ∧
        minimum.all (·.isAtMost n) = true ∧ maximum.all (·.isAtLeast n) = true := by
  unfold accepts
  rw [Bool.or_eq_true, Bool.and_eq_true, Option.any_eq_true]
  simp only [Bool.and_eq_true, Schema.notes]
  have null_iff : doc.isNull = true ↔ doc = .null := by cases doc <;> simp [Json.isNull]
  rw [null_iff]

/-! ## Reading what is accepted -/

/-- Whatever a schema accepts is read. -/
def Ensures {α : Type} (schema : Schema) (read : Json → Option α) : Prop :=
  ∀ doc, schema.accepts doc = true → ∃ a, read doc = some a

variable {α : Type} {read : Json → Option α}

theorem ensures_text (not_nullable : notes.nullable = false) :
    (text notes).Ensures Document.text? := by
  intro doc accepted
  obtain ⟨s, rfl⟩ := (accepts_text_iff not_nullable).1 accepted
  exact ⟨s, rfl⟩

theorem ensures_truth (not_nullable : notes.nullable = false) :
    (truth notes).Ensures Document.bool? := by
  intro doc accepted
  obtain ⟨b, rfl⟩ := (accepts_truth_iff not_nullable).1 accepted
  exact ⟨b, rfl⟩

theorem ensures_list (not_nullable : notes.nullable = false) {items : Schema}
    (ensures : items.Ensures read) : (list notes items).Ensures (Document.listOf? read) := by
  intro doc accepted
  obtain ⟨docs, rfl, each⟩ := (accepts_list_iff not_nullable).1 accepted
  exact exists_mapM_eq_some_iff.2 fun doc mem => ensures doc (each doc mem)

theorem ensures_textMap (not_nullable : notes.nullable = false) :
    (map notes (text {})).Ensures Document.textMap? := by
  intro doc accepted
  obtain ⟨fields, rfl, each⟩ := (accepts_map_iff not_nullable).1 accepted
  have texts : ∀ field ∈ fields,
      ∃ text, (Document.text? field.2).map (field.1, ·) = some text := by
    intro field mem
    obtain ⟨s, is_text⟩ := (accepts_text_iff rfl).1 (each field mem)
    rw [is_text]
    exact ⟨(field.1, s), rfl⟩
  obtain ⟨entries, read⟩ := exists_mapM_eq_some_iff.2 texts
  refine ⟨SortedMap.ofList entries, ?_⟩
  unfold Document.textMap?
  rw [Document.entries?_obj, Option.bind_eq_bind, Option.bind_some, read]
  rfl

/-! ## Reading the fields of an accepted record -/

variable {fields : List (String × Json)} {name : String} {schema : Schema}

theorem Ensures.required (ensures : schema.Ensures read)
    (present : ∃ doc, fields.lookup name = some doc)
    (accepted : ∀ doc, fields.lookup name = some doc → schema.accepts doc = true) :
    ∃ a, Document.required fields name read = some a := by
  obtain ⟨doc, found⟩ := present
  unfold Document.required
  rw [found]
  exact ensures doc (accepted doc found)

theorem Ensures.defaulted (ensures : schema.Ensures read) (default : α)
    (accepted : ∀ doc, fields.lookup name = some doc → schema.accepts doc = true) :
    ∃ a, Document.defaulted fields name read default = some a := by
  unfold Document.defaulted
  cases found : fields.lookup name with
  | none => exact ⟨default, rfl⟩
  | some doc => exact ensures doc (accepted doc found)

end Schema

end MeshRoutes
