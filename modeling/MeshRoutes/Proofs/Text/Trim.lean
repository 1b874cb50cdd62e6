import Mathlib.Data.List.TakeWhile
import MeshRoutes.Text.Blank

/-!
# Texts without blanks at their ends

What is left of a text without the blanks at its ends stands in it between blanks and neither begins
nor ends with one, so it is blank only if nothing is left.

* `Text.IsTrimOf`: whether a text is what is left of another; `Text.isTrimOf_trim`.
* `Text.IsBlankText`: whether there are only blanks in a text.
-/

namespace MeshRoutes.Text

/-- Whether there are only blanks in a text, if anything at all. -/
def IsBlankText (s : String) : Prop := ∀ c ∈ s.toList, isBlank c = true

instance (s : String) : Decidable (IsBlankText s) :=
  decidable_of_iff (s.toList.all isBlank = true) List.all_eq_true

/-- Whether a text is what is left of another without the blanks at its ends: blanks were taken away
in front and behind, and none is left there. -/
structure IsTrimOf (s trimmed : String) : Prop where
  within : ∃ front back : List Char, s.toList = front ++ (trimmed.toList ++ back) ∧
    (∀ c ∈ front, isBlank c = true) ∧ ∀ c ∈ back, isBlank c = true
  head : ∀ c, trimmed.toList.head? = some c → isBlank c = false
  last : ∀ c, trimmed.toList.getLast? = some c → isBlank c = false

theorem head?_dropWhile_isBlank {cs : List Char} {c : Char}
    (head : (cs.dropWhile isBlank).head? = some c) : isBlank c = false := by
  have kept := List.head?_dropWhile_not isBlank cs
  rw [head] at kept
  simpa using kept

/-- A text between blanks is trimmed to what is left of it. -/
theorem isTrimOf_trim (s : String) : IsTrimOf s (trim s) := by
  -- the blanks in front are dropped first, and then those behind, from the other end
  let rest := s.toList.dropWhile isBlank
  have toList_trim : (trim s).toList = (rest.reverse.dropWhile isBlank).reverse :=
    String.toList_ofList
  have split : rest = (trim s).toList ++ (rest.reverse.takeWhile isBlank).reverse := by
    rw [toList_trim, ← List.reverse_append, List.takeWhile_append_dropWhile, List.reverse_reverse]
  refine ⟨⟨s.toList.takeWhile isBlank, (rest.reverse.takeWhile isBlank).reverse, ?_, ?_, ?_⟩, ?_, ?_⟩
  · rw [← split, List.takeWhile_append_dropWhile]
  · exact fun c mem => List.mem_takeWhile_imp mem
  · exact fun c mem => List.mem_takeWhile_imp (List.mem_reverse.1 mem)
  · intro c head
    have head : rest.head? = some c := by rw [split, List.head?_append, head, Option.some_or]
    exact head?_dropWhile_isBlank head
  · intro c last
    rw [toList_trim, List.getLast?_reverse] at last
    exact head?_dropWhile_isBlank last

/-- Nothing is left of a blank text only. -/
theorem trim_ne_empty {s : String} (not_blank : ¬IsBlankText s) : trim s ≠ "" := by
  intro empty
  obtain ⟨front, back, chars, front_blank, back_blank⟩ := (isTrimOf_trim s).within
  refine not_blank fun c mem => ?_
  rw [empty] at chars
  rw [chars] at mem
  rcases List.mem_append.1 mem with mem | mem
  · exact front_blank c mem
  · exact back_blank c mem

/-- What is left of a text is not blank, if anything is. -/
theorem IsTrimOf.not_isBlankText {s trimmed : String} (trims : IsTrimOf s trimmed)
    (some_left : trimmed ≠ "") : ¬IsBlankText trimmed := by
  intro blank
  have chars : trimmed.toList ≠ [] := fun nil => some_left (String.toList_eq_nil_iff.1 nil)
  obtain ⟨c, cs, eq⟩ := List.exists_cons_of_ne_nil chars
  have kept := trims.head c (by rw [eq]; rfl)
  have blank_c := blank c (by rw [eq]; exact List.mem_cons_self)
  rw [kept] at blank_c
  cases blank_c

end MeshRoutes.Text
