import Mathlib.Data.String.Basic
import Mathlib.Tactic.SplitIfs

/-!
# Texts ascend by their bytes

Texts are compared by code points. The bytes that encode a smaller code point come before those of a
greater one, whatever follows either, so a list of texts that ascends also ascends by bytes.

* `encodeChar_append_lt`: the encodings of characters are in the order of the characters.
* `text_lt_iff_bytes_lt`: a text is before another exactly when its bytes are.
-/

namespace MeshRoutes

/-- The bytes of a text. -/
def textBytes (text : String) : List UInt8 := text.toUTF8.data.toList

theorem textBytes_eq_flatMap (text : String) :
    textBytes text = text.toList.flatMap String.utf8EncodeChar := by
  have bytes : text.toByteArray = text.toList.utf8Encode := by
    rw [← String.toByteArray_ofList, String.ofList_toList]
  rw [textBytes, String.toUTF8_eq_toByteArray, bytes, List.utf8Encode, List.toList_data_toByteArray]

/-! ## Characters -/

theorem byte_lt_iff {m n : Nat} (m_lt : m < 256) (n_lt : n < 256) :
    UInt8.ofNat m < UInt8.ofNat n ↔ m < n := by
  rw [UInt8.lt_iff_toNat_lt, UInt8.toNat_ofNat', UInt8.toNat_ofNat']
  omega

theorem byte_eq_iff {m n : Nat} (m_lt : m < 256) (n_lt : n < 256) :
    UInt8.ofNat m = UInt8.ofNat n ↔ m = n := by
  rw [← UInt8.toNat_inj, UInt8.toNat_ofNat', UInt8.toNat_ofNat']
  omega

/-- Of two numbers, the smaller one has a smaller quotient, or the same and a smaller rest. -/
theorem div_lt_or_mod_lt {m n : Nat} (lt : m < n) (k : Nat) :
    m / k < n / k ∨ m / k = n / k ∧ m % k < n % k := by
  rcases Nat.lt_or_eq_of_le (Nat.div_le_div_right (c := k) lt.le) with quotient | same
  · exact .inl quotient
  · have m_split := Nat.div_add_mod m k
    have n_split := Nat.div_add_mod n k
    rw [← same] at n_split
    exact .inr ⟨same, by omega⟩

/-- Numbers of four digits to the base 64 are compared digit by digit. -/
theorem digits_lt {m n : Nat} (lt : m < n) :
    m / 262144 < n / 262144 ∨ m / 262144 = n / 262144 ∧
      (m / 4096 % 64 < n / 4096 % 64 ∨ m / 4096 % 64 = n / 4096 % 64 ∧
        (m / 64 % 64 < n / 64 % 64 ∨ m / 64 % 64 = n / 64 % 64 ∧ m % 64 < n % 64)) := by
  have split_262144 (k : Nat) : k / 262144 = k / 64 / 64 / 64 := by omega
  have split_4096 (k : Nat) : k / 4096 = k / 64 / 64 := by omega
  rw [split_262144, split_262144, split_4096, split_4096]
  rcases div_lt_or_mod_lt lt 64 with lt | ⟨same, last⟩
  · rcases div_lt_or_mod_lt lt 64 with lt | ⟨same, third⟩
    · rcases div_lt_or_mod_lt lt 64 with first | ⟨same, second⟩
      · exact .inl first
      · exact .inr ⟨same, .inl second⟩
    · rw [same]
      exact .inr ⟨rfl, .inr ⟨rfl, .inl third⟩⟩
  · rw [same]
    exact .inr ⟨rfl, .inr ⟨rfl, .inr ⟨rfl, last⟩⟩⟩

/-- The encodings of two characters differ before either ends, in the order of the characters. -/
theorem encodeChar_append_lt {c d : Char} (lt : c < d) (x y : List UInt8) :
    String.utf8EncodeChar c ++ x < String.utf8EncodeChar d ++ y := by
  have below : c.val.toNat < d.val.toNat := UInt32.lt_iff_toNat_lt.1 lt
  have bound : d.val.toNat < 1114112 := by
    rcases d.valid with small | ⟨_, large⟩
    · omega
    · exact large
  unfold String.utf8EncodeChar
  dsimp only
  generalize c.val.toNat = m at *
  generalize d.val.toNat = n at *
  by_cases short : m ≤ 65535
  · -- with fewer bytes the first one is smaller, and with as many the first digits are
    split_ifs
    all_goals
      simp (disch := omega) only [List.cons_append, List.nil_append, List.cons_lt_cons_iff,
        byte_lt_iff, byte_eq_iff]
      omega
  · have m_long : ¬m ≤ 127 ∧ ¬m ≤ 2047 := by omega
    have n_long : ¬n ≤ 127 ∧ ¬n ≤ 2047 ∧ ¬n ≤ 65535 := by omega
    have first_digit (k : Nat) (k_lt : k < 1114112) : k / 262144 % 8 = k / 262144 := by omega
    rw [if_neg m_long.1, if_neg m_long.2, if_neg short, if_neg n_long.1, if_neg n_long.2.1,
      if_neg n_long.2.2, first_digit m (below.trans bound), first_digit n bound]
    simp (disch := omega) only [List.cons_append, List.nil_append, List.cons_lt_cons_iff,
      byte_lt_iff, byte_eq_iff, Nat.add_lt_add_iff_right, Nat.add_right_cancel_iff]
    rcases digits_lt below with first | ⟨same, second | ⟨same', third | ⟨same'', last⟩⟩⟩
    · exact .inl first
    · exact .inr ⟨same, .inl second⟩
    · exact .inr ⟨same, .inr ⟨same', .inl third⟩⟩
    · exact .inr ⟨same, .inr ⟨same', .inr ⟨same'', .inl last⟩⟩⟩

/-! ## Texts -/

theorem encode_lt_of_lt {a b : List Char} (lt : a < b) :
    a.flatMap String.utf8EncodeChar < b.flatMap String.utf8EncodeChar := by
  induction a generalizing b with
  | nil =>
    cases b with
    | nil => exact absurd lt (List.lt_irrefl [])
    | cons d b =>
      have some : (d :: b).flatMap String.utf8EncodeChar ≠ [] := by
        simp [String.utf8EncodeChar_ne_nil]
      obtain ⟨byte, bytes, eq⟩ := List.exists_cons_of_ne_nil some
      rw [eq]
      exact List.nil_lt_cons byte bytes
  | cons c a ih =>
    cases b with
    | nil => exact absurd lt (List.not_lt_nil _)
    | cons d b =>
      rw [List.flatMap_cons, List.flatMap_cons]
      rcases List.cons_lt_cons_iff.1 lt with head | ⟨rfl, tail⟩
      · exact encodeChar_append_lt head _ _
      · exact List.append_left_lt (ih tail)

/-- A text is before another exactly when its bytes are before those of the other. -/
theorem text_lt_iff_bytes_lt {a b : String} : a < b ↔ textBytes a < textBytes b := by
  have bytes_lt {a b : String} (lt : a < b) : textBytes a < textBytes b := by
    rw [textBytes_eq_flatMap, textBytes_eq_flatMap]
    exact encode_lt_of_lt (String.lt_iff_toList_lt.1 lt)
  refine ⟨bytes_lt, fun lt => ?_⟩
  by_contra not_lt
  have above : ¬b < a := fun above => List.lt_asymm lt (bytes_lt above)
  have same : a = b := String.le_antisymm (String.not_lt.1 above) (String.not_lt.1 not_lt)
  rw [same] at lt
  exact List.lt_irrefl _ lt

end MeshRoutes
