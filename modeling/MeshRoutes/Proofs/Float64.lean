import MeshRoutes.Float64
import MeshRoutes.Proofs.Text.Numeral

/-!
# Floats written and read

A float is the nearest one to its own magnitude, so the number that is written for it, whichever it
is, is read as the same float.

* `Float64.nearestRank_units`: a magnitude that a float has is not rounded.
* `Float64.toBits_toDecimal`: the written number of a float is read as this float.
-/

namespace MeshRoutes

namespace Float64

/-! ## Ranks -/

theorem roundedQuotient_mul {d : Nat} (pos : 0 < d) (n : Nat) : roundedQuotient (n * d) d = n := by
  have quotient : n * d / d = n := Nat.mul_div_cancel n pos
  have rest : n * d % d = 0 := Nat.mul_mod_left n d
  unfold roundedQuotient
  rw [quotient, rest]
  simp [pos]

theorem units_eq (rank : Nat) :
    units rank = (rank - doublings rank * 4503599627370496) * 2 ^ doublings rank := by
  rw [units, Nat.pow_eq]

theorem nearestRank_eq (n d : Nat) :
    nearestRank n d = ((n / d).log2 - 52) * 4503599627370496 +
      roundedQuotient n (d * 2 ^ ((n / d).log2 - 52)) := by
  rw [nearestRank, Nat.pow_eq]

/-- The doublings are read off a magnitude, whose significand has 53 binary digits unless it lies
among the least floats. -/
theorem log2_units (rank : Nat) : (units rank).log2 - 52 = doublings rank := by
  obtain ⟨significand, significand_eq⟩ :
      ∃ n, n = rank - doublings rank * 4503599627370496 := ⟨_, rfl⟩
  have below : significand < 2 ^ 53 := by unfold doublings at significand_eq; omega
  have least_or_full : doublings rank = 0 ∨ 2 ^ 52 ≤ significand := by
    unfold doublings at significand_eq ⊢
    omega
  rw [units_eq, ← significand_eq]
  rcases least_or_full with least | full
  · rw [least, Nat.pow_zero, Nat.mul_one]
    by_cases zero : significand = 0
    · rw [zero]
      rfl
    · have := (Nat.log2_lt zero).2 below
      omega
  · have pos : significand * 2 ^ doublings rank ≠ 0 :=
      Nat.ne_of_gt (Nat.mul_pos (by omega) (Nat.two_pow_pos _))
    have least : 52 + doublings rank ≤ (significand * 2 ^ doublings rank).log2 := by
      rw [Nat.le_log2 pos, Nat.pow_add]
      exact Nat.mul_le_mul_right _ full
    have greatest : (significand * 2 ^ doublings rank).log2 < 53 + doublings rank := by
      rw [Nat.log2_lt pos, Nat.pow_add]
      exact Nat.mul_lt_mul_of_pos_right below (Nat.two_pow_pos _)
    omega

/-- A magnitude that a float has is not rounded, in whatever parts of a unit it is given. -/
theorem nearestRank_units (rank : Nat) {d : Nat} (pos : 0 < d) :
    nearestRank (units rank * d) d = rank := by
  have whole : units rank * d / d = units rank := Nat.mul_div_cancel _ pos
  have parts : units rank * d =
      (rank - doublings rank * 4503599627370496) * (d * 2 ^ doublings rank) := by
    rw [units_eq, Nat.mul_assoc, Nat.mul_comm d]
  have reached : doublings rank * 4503599627370496 ≤ rank := by
    unfold doublings
    omega
  have apart : 0 < d * 2 ^ doublings rank := Nat.mul_pos pos (Nat.two_pow_pos _)
  rw [nearestRank_eq, whole, log2_units, parts, roundedQuotient_mul apart]
  omega

theorem units_eq_zero_iff (rank : Nat) : units rank = 0 ↔ rank = 0 := by
  constructor
  · intro none
    have back := nearestRank_units rank Nat.one_pos
    rw [none] at back
    exact back.symm
  · rintro rfl
    rfl

/-- How often the distance has doubled at the greatest finite float. -/
def greatestDoublings : Nat := 2045

/-- The magnitude that would come next if floats went on as before. -/
def infinityUnits : Nat := 2 ^ 53 * 2 ^ greatestDoublings

theorem units_lt_of_isFinite {rank : Nat} (isFinite : rank < infinityRank) :
    units rank < infinityUnits := by
  have doubled : doublings rank ≤ greatestDoublings := by
    unfold doublings infinityRank greatestDoublings at *
    omega
  have significand : rank - doublings rank * 4503599627370496 < 2 ^ 53 := by
    unfold doublings
    omega
  rw [units_eq]
  exact Nat.mul_lt_mul_of_lt_of_le significand (Nat.pow_le_pow_right (by omega) doubled)
    (Nat.two_pow_pos _)

/-! ## Numbers -/

theorem le_unitDigits : 10 ^ 723 ≤ unitDigits := by decide +kernel

theorem infinityUnits_mul_unitDigits_le : infinityUnits * unitDigits ≤ 10 ^ 1384 := by
  decide +kernel

theorem unitDigits_eq : unitDigits = 5 ^ unitPlaces := by
  unfold unitDigits
  generalize unitPlaces = n
  exact Nat.pow_eq

theorem unitDigits_pos : 0 < unitDigits := by
  rw [unitDigits_eq]
  exact Nat.pow_pos (by omega)

/-- A float that is not zero is neither far below the least one nor far above the greatest. -/
theorem magnitude_exactDecimal_mem {x : Float64} (some_unit : units (rankOf x.bits) ≠ 0) :
    -350 ≤ x.exactDecimal.magnitude ∧ x.exactDecimal.magnitude ≤ 310 := by
  have digits_eq : x.exactDecimal.digits = units (rankOf x.bits) * unitDigits := rfl
  have many : 10 ^ 723 ≤ x.exactDecimal.digits := by
    rw [digits_eq]
    exact le_unitDigits.trans (Nat.le_mul_of_pos_left _ (Nat.pos_of_ne_zero some_unit))
  have few : x.exactDecimal.digits < 10 ^ 1384 := by
    rw [digits_eq]
    exact (Nat.mul_lt_mul_of_pos_right (units_lt_of_isFinite x.isFinite)
      unitDigits_pos).trans_le infinityUnits_mul_unitDigits_le
  have more_than := (Text.length_decimalDigits_le_iff (by omega : 0 < 723)).not.2
    (Nat.not_lt.2 many)
  have at_most := (Text.length_decimalDigits_le_iff (by omega : 0 < 1384)).2 few
  have exponent_eq : x.exactDecimal.exponent = -1074 := rfl
  unfold Decimal.magnitude
  omega

/-- The number that a float is has the rank of the float. -/
theorem rank_exactDecimal (x : Float64) : x.exactDecimal.rank = rankOf x.bits := by
  have digits_eq : x.exactDecimal.digits = units (rankOf x.bits) * unitDigits := rfl
  have up : x.exactDecimal.exponent.toNat = 0 := rfl
  have down : (-x.exactDecimal.exponent).toNat = unitPlaces := rfl
  have parts : x.exactDecimal.digits * 10 ^ x.exactDecimal.exponent.toNat * 2 ^ unitPlaces =
      units (rankOf x.bits) * 10 ^ (-x.exactDecimal.exponent).toNat := by
    rw [digits_eq, up, down, unitDigits_eq, Nat.pow_zero, Nat.mul_one, Nat.mul_assoc, ← Nat.mul_pow]
  have nearest := nearestRank_units (rankOf x.bits)
    (Nat.pow_pos (by omega) : 0 < 10 ^ (-x.exactDecimal.exponent).toNat)
  unfold Decimal.rank
  simp only [Nat.pow_eq]
  rw [parts, nearest]
  by_cases zero : units (rankOf x.bits) = 0
  · rw [if_pos (by simp [digits_eq, zero]), (units_eq_zero_iff _).1 zero]
  · have within := magnitude_exactDecimal_mem zero
    have some_digit : x.exactDecimal.digits ≠ 0 := by
      rw [digits_eq]
      exact Nat.mul_ne_zero zero (Nat.ne_of_gt unitDigits_pos)
    rw [if_neg (by simp [some_digit, within.1]), if_neg (Int.not_lt.2 within.2)]

/-- The number that a float is, with all its digits, is read as this float. -/
theorem toBits_exactDecimal (x : Float64) : x.exactDecimal.toBits = x.bits := by
  have finite : min (rankOf x.bits) infinityRank = rankOf x.bits :=
    Nat.min_eq_left (Nat.le_of_lt x.isFinite)
  have sign : x.exactDecimal.negative = x.isNegative := rfl
  have bits_lt := x.bits.toNat_lt
  unfold Decimal.toBits
  rw [rank_exactDecimal, finite, sign, isNegative, ← UInt64.toNat_inj]
  unfold rankOf
  simp only [UInt64.toNat_ofNat', decide_eq_true_eq]
  split <;> omega

/-- The number that is written for a float is read as this float. -/
theorem toBits_toDecimal (x : Float64) : x.toDecimal.toBits = x.bits := by
  unfold toDecimal
  cases found : ((List.range' 1 17).flatMap x.neighbours).find? (·.toBits == x.bits) with
  | none => exact x.toBits_exactDecimal
  | some shortest =>
    have same := List.find?_some found
    exact beq_iff_eq.1 same

theorem ofBits?_bits (x : Float64) : ofBits? x.bits = some x := dif_pos x.isFinite

end Float64

end MeshRoutes
