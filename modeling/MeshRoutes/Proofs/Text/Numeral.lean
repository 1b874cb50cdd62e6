import Mathlib.Algebra.Group.Nat.Defs
import Mathlib.Data.List.Basic
import Mathlib.Data.List.TakeWhile
import MeshRoutes.Text.Numeral

/-!
# Numerals read back

The decimal digits of a number denote it, also behind zeros, and only the number zero starts with
a zero.
-/

namespace MeshRoutes.Text

theorem toNat_of_isDigit {c : Char} (digit : c.isDigit = true) : 48 ≤ c.toNat ∧ c.toNat ≤ 57 := by
  rw [Char.isDigit, Bool.and_eq_true, decide_eq_true_eq, decide_eq_true_eq] at digit
  exact digit

theorem digitValue?_digitChar : ∀ d < 10, digitValue? 10 d.digitChar = some d := by decide

theorem decimalDigits_of_lt_ten {d : Nat} (small : d < 10) : decimalDigits d = [d.digitChar] :=
  Nat.toDigits_of_lt_base small

theorem decimalDigits_of_ten_le {n : Nat} (large : 10 ≤ n) :
    decimalDigits n = decimalDigits (n / 10) ++ [(n % 10).digitChar] :=
  Nat.toDigits_of_base_le (by omega) large

theorem isDigit_of_mem_decimalDigits {n : Nat} {c : Char} (mem : c ∈ decimalDigits n) :
    c.isDigit = true :=
  Nat.isDigit_of_mem_toDigits (by omega) (by omega) mem

theorem decimalDigits_ne_nil (n : Nat) : decimalDigits n ≠ [] := Nat.toDigits_ne_nil

theorem length_decimalDigits_le_iff {n places : Nat} (some_place : 0 < places) :
    (decimalDigits n).length ≤ places ↔ n < 10 ^ places :=
  Nat.length_toDigits_le_iff (by omega) some_place

theorem digitsValue?_of_ne_nil {base : Nat} {digits : List Char} (ne : digits ≠ []) :
    digitsValue? base digits =
      digits.foldlM (fun value c => (digitValue? base c).map (base * value + ·)) 0 :=
  if_neg (by simpa using ne)

theorem foldlM_decimalDigits (n : Nat) :
    (decimalDigits n).foldlM (fun value c => (digitValue? 10 c).map (10 * value + ·)) 0 =
      some n := by
  induction n using Nat.strong_induction_on with
  | _ n ih =>
    by_cases small : n < 10
    · rw [decimalDigits_of_lt_ten small, List.foldlM_cons, digitValue?_digitChar n small]
      simp
    · rw [decimalDigits_of_ten_le (by omega), List.foldlM_append, ih (n / 10) (by omega),
        Option.bind_eq_bind, Option.bind_some, List.foldlM_cons,
        digitValue?_digitChar (n % 10) (by omega)]
      simp
      omega

theorem digitsValue?_decimalDigits (n : Nat) : digitsValue? 10 (decimalDigits n) = some n :=
  (digitsValue?_of_ne_nil (decimalDigits_ne_nil n)).trans (foldlM_decimalDigits n)

/-- Zeros in front do not count. -/
theorem digitsValue?_zeros_append (zeros n : Nat) :
    digitsValue? 10 (List.replicate zeros '0' ++ decimalDigits n) = some n := by
  rw [digitsValue?_of_ne_nil (by simp [decimalDigits_ne_nil])]
  induction zeros with
  | zero => exact foldlM_decimalDigits n
  | succ zeros ih =>
    rw [List.replicate_succ, List.cons_append, List.foldlM_cons]
    exact ih

theorem head?_decimalDigits {n : Nat} (positive : 0 < n) :
    (decimalDigits n).head? ≠ some '0' := by
  induction n using Nat.strong_induction_on with
  | _ n ih =>
    by_cases small : n < 10
    · rw [decimalDigits_of_lt_ten small]
      have digits : ∀ d < 10, 0 < d → [d.digitChar].head? ≠ some '0' := by decide
      exact digits n small positive
    · have front := ih (n / 10) (by omega) (by omega)
      obtain ⟨c, cs, digits⟩ := List.exists_cons_of_ne_nil (decimalDigits_ne_nil (n / 10))
      rw [digits] at front
      rw [decimalDigits_of_ten_le (by omega), digits]
      exact front

end MeshRoutes.Text
