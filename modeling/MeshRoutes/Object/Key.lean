import MeshRoutes.SortedMap

/-!
# Keys of objects

A namespace and a name, which together tell the objects of one kind apart. Keys are ordered by
namespace, then by name.
-/

namespace MeshRoutes

/-- The place of an object among those of its kind. The namespace is empty if the object has none.
-/
structure ObjectKey where
  ns : String
  name : String
deriving DecidableEq, Repr

namespace ObjectKey

/-- The namespace and the name as one text. -/
def toText (key : ObjectKey) : String := key.ns ++ "/" ++ key.name

instance : LT ObjectKey := ⟨fun a b => a.ns < b.ns ∨ (a.ns = b.ns ∧ a.name < b.name)⟩

theorem lt_iff {a b : ObjectKey} : a < b ↔ a.ns < b.ns ∨ (a.ns = b.ns ∧ a.name < b.name) := Iff.rfl

instance : DecidableLT ObjectKey := fun a b =>
  inferInstanceAs (Decidable (a.ns < b.ns ∨ (a.ns = b.ns ∧ a.name < b.name)))

theorem lt_trans {a b c : ObjectKey} (hab : a < b) (hbc : b < c) : a < c := by
  rw [lt_iff] at *
  rcases hab with hab | ⟨eq, hab⟩
  · rcases hbc with hbc | ⟨eq', _⟩
    · exact .inl (String.lt_trans hab hbc)
    · exact .inl (eq' ▸ hab)
  · rcases hbc with hbc | ⟨eq', hbc⟩
    · exact .inl (eq ▸ hbc)
    · exact .inr ⟨eq.trans eq', String.lt_trans hab hbc⟩

instance : Trans (· < · : ObjectKey → ObjectKey → Prop) (· < · : ObjectKey → ObjectKey → Prop)
    (· < · : ObjectKey → ObjectKey → Prop) := ⟨lt_trans⟩

theorem eq_of_not_lt {a b : ObjectKey} (hab : ¬a < b) (hba : ¬b < a) : a = b := by
  rw [lt_iff] at *
  have ns : a.ns = b.ns := String.le_antisymm
    (String.not_lt.1 fun lt => hba (.inl lt)) (String.not_lt.1 fun lt => hab (.inl lt))
  have name : a.name = b.name := String.le_antisymm
    (String.not_lt.1 fun lt => hba (.inr ⟨ns.symm, lt⟩))
    (String.not_lt.1 fun lt => hab (.inr ⟨ns, lt⟩))
  cases a; cases b; simp_all

instance : @Std.Trichotomous ObjectKey (· < ·) := ⟨fun _ _ => eq_of_not_lt⟩

theorem lt_irrefl (a : ObjectKey) : ¬a < a := by
  rw [lt_iff]
  rintro (lt | ⟨_, lt⟩) <;> exact String.lt_irrefl _ lt

instance : @Std.Irrefl ObjectKey (· < ·) := ⟨lt_irrefl⟩

end ObjectKey

end MeshRoutes
