import MeshRoutes.Proofs.Text.Numeral
import MeshRoutes.Proofs.Yaml.Plain

/-!
# Whole numbers in YAML streams

A whole number is written as its digits, which need no quotes and read back as the number.

* `Yaml.allowsPlain_intText`, `Yaml.Value.ofPlain?_intText`.
-/

namespace MeshRoutes.Yaml

section Digits

variable {c : Char} {ds : List Char}

theorem isVisible_of_isDigit (digit : c.isDigit = true) :
    isPrintable c = true ∧ isBreak c = false ∧ isBlank c = false := by
  have code := Text.toNat_of_isDigit digit
  have other (d : Char) (outside : d.toNat < 48 ∨ 57 < d.toNat) : c ≠ d := by
    rintro rfl
    omega
  refine ⟨isPrintable_iff.2 ⟨?_, other _ (by decide), other _ (by decide), by omega,
    other _ (by decide)⟩, ?_, ?_⟩
  · simp only [isAllowed, Bool.or_eq_true, Bool.and_eq_true, decide_eq_true_eq, beq_iff_eq]
    omega
  · simp only [isBreak, Bool.or_eq_false_iff, beq_eq_false_iff_ne]
    exact ⟨⟨⟨⟨other _ (by decide), other _ (by decide)⟩, by omega⟩, by omega⟩, by omega⟩
  · simp only [isBlank, Bool.or_eq_false_iff, beq_eq_false_iff_ne]
    exact ⟨other _ (by decide), other _ (by decide)⟩

theorem containsMark_of_digits (digits : ∀ c ∈ ds, c.isDigit = true) : containsMark ds = false := by
  induction ds with
  | nil => rfl
  | cons c ds ih =>
    obtain ⟨digit, digits⟩ := List.forall_mem_cons.1 digits
    obtain ⟨_, no_break, no_blank⟩ := isVisible_of_isDigit digit
    have no_colon : c ≠ ':' := by
      rintro rfl
      cases digit
    rw [containsMark, ih digits, no_break, no_blank, beq_false_of_ne no_colon]
    rfl

theorem allowsPlain_digits (ne : ds ≠ []) (digits : ∀ c ∈ ds, c.isDigit = true) :
    allowsPlain ds = true ∧ allowsPlain ('-' :: ds) = true := by
  have no_mark := containsMark_of_digits digits
  have visible (c : Char) (mem : c ∈ ds) := isVisible_of_isDigit (digits c mem)
  have no_space : ∀ c ∈ ds, c ≠ ' ' := by
    rintro c mem rfl
    cases digits _ mem
  have last : ds.getLast? ≠ some ' ' := fun last => no_space ' ' (List.mem_of_getLast? last) rfl
  obtain ⟨d, ds, rfl⟩ := List.exists_cons_of_ne_nil ne
  have digit := digits d List.mem_cons_self
  have other (c : Char) (no_digit : c.isDigit = false) : d ≠ c := by
    rintro rfl
    rw [digit] at no_digit
    cases no_digit
  have no_start : startsWithMark (d :: ds) = false := by
    rw [startsWithMark.eq_5 _ _ (fun _ h _ => other _ rfl h) (fun _ h _ => other _ rfl h)
      (other _ rfl) (other _ rfl)]
    refine Bool.eq_false_iff.2 fun mark => ?_
    have marks : "#,[]\x7b\x7d&*!|>'\"%@`".toList.any Char.isDigit = false := by decide
    exact List.any_eq_false.1 marks d (List.contains_iff_mem.1 mark) digit
  refine ⟨allowsPlain_iff.2 ⟨fun c mem => (visible c mem).1, fun c mem => (visible c mem).2.1, ne,
    fun head => no_space d List.mem_cons_self (Option.some.inj head), last, no_start, no_mark⟩,
    allowsPlain_iff.2 ⟨?_, ?_, List.cons_ne_nil _ _, by simp, ?_, ?_, ?_⟩⟩
  · exact List.forall_mem_cons.2 ⟨by decide, fun c mem => (visible c mem).1⟩
  · exact List.forall_mem_cons.2 ⟨by decide, fun c mem => (visible c mem).2.1⟩
  · simpa using last
  · obtain ⟨_, no_break, no_blank⟩ := visible d List.mem_cons_self
    rw [startsWithMark.eq_3 _ fun _ h => other '-' rfl (List.cons.inj h).1, atBlankOrEnd, no_break,
      no_blank]
    rfl
  · rw [containsMark, no_mark]
    rfl

theorem allowsPlain_intText (n : Int) : allowsPlain (Text.intText n).toList = true := by
  cases n with
  | ofNat n =>
    rw [Text.intText, String.toList_ofList]
    exact (allowsPlain_digits (Text.decimalDigits_ne_nil n)
      fun _ mem => Text.isDigit_of_mem_decimalDigits mem).1
  | negSucc n =>
    rw [Text.intText, String.toList_ofList]
    exact (allowsPlain_digits (Text.decimalDigits_ne_nil (n + 1))
      fun _ mem => Text.isDigit_of_mem_decimalDigits mem).2

end Digits

namespace Value

/-! ## Values -/

section Values

variable {ds : List Char}

theorem splitSign_digits (digits : ∀ c ∈ ds, c.isDigit = true) : splitSign ds = (false, ds) := by
  unfold splitSign
  split
  · cases digits _ List.mem_cons_self
  · cases digits _ List.mem_cons_self
  · rfl

theorem wholeNumber?_digits (negative : Bool) {n : Nat} (digits : ∀ c ∈ ds, c.isDigit = true)
    (not_padded : 1 < ds.length → ds.head? ≠ some '0')
    (value : Text.digitsValue? 10 ds = some n) :
    wholeNumber? (if negative then '-' :: ds else ds) =
      some (if negative then -(n : Int) else n) := by
  have sign : splitSign (if negative then '-' :: ds else ds) = (negative, ds) := by
    cases negative with
    | true => rfl
    | false => exact splitSign_digits digits
  have unpadded : isZeroPadded (if negative then '-' :: ds else ds) = false := by
    unfold isZeroPadded
    rw [sign]
    refine Bool.eq_false_iff.2 fun padded => ?_
    simp only [Bool.and_eq_true, decide_eq_true_eq, beq_iff_eq] at padded
    exact not_padded padded.1.1 padded.1.2
  unfold wholeNumber?
  rw [sign]
  dsimp only
  refine Option.map_eq_some_iff.2 ⟨n, ?_, rfl⟩
  split
  · cases digits 'x' (by simp)
  · cases digits 'o' (by simp)
  · cases digits 'b' (by simp)
  · rw [unpadded, if_neg Bool.false_ne_true, value]
    rfl

/-- The words start with letters. -/
theorem no_word {s : String} {c : Char} (head : s.toList.head? = some c)
    (numeric : c.isDigit = true ∨ c = '-') : isNullWord s = false ∧ boolWord? s = none := by
  have other (word : String) (letter : word.toList.head?.all fun d => !d.isDigit && d != '-') :
      (s == word) = false := by
    refine beq_false_of_ne ?_
    rintro rfl
    rw [head] at letter
    rcases numeric with digit | rfl
    · simp [digit] at letter
    · cases letter
  constructor
  · simp [isNullWord, other]
  · simp [boolWord?, other]

theorem wholeNumber?_intText (n : Int) : wholeNumber? (Text.intText n).toList = some n := by
  have not_padded (n : Nat) : 1 < (Text.decimalDigits n).length →
      (Text.decimalDigits n).head? ≠ some '0' := by
    intro long
    refine Text.head?_decimalDigits (Nat.pos_of_ne_zero ?_)
    rintro rfl
    rw [Text.decimalDigits_of_lt_ten (by decide)] at long
    exact absurd long (by decide)
  have digits (n : Nat) : ∀ c ∈ Text.decimalDigits n, c.isDigit = true :=
    fun _ mem => Text.isDigit_of_mem_decimalDigits mem
  cases n with
  | ofNat n =>
    rw [Text.intText, String.toList_ofList]
    exact wholeNumber?_digits false (digits n) (not_padded n) (Text.digitsValue?_decimalDigits n)
  | negSucc n =>
    rw [Text.intText, String.toList_ofList]
    exact wholeNumber?_digits true (digits (n + 1)) (not_padded (n + 1))
      (Text.digitsValue?_decimalDigits (n + 1))

theorem exists_head?_intText (n : Int) :
    ∃ c, (Text.intText n).toList.head? = some c ∧ (c.isDigit = true ∨ c = '-') := by
  cases n with
  | ofNat n =>
    obtain ⟨c, cs, eq⟩ := List.exists_cons_of_ne_nil (Text.decimalDigits_ne_nil n)
    rw [Text.intText, String.toList_ofList, eq]
    exact ⟨c, rfl, .inl (Text.isDigit_of_mem_decimalDigits (eq ▸ List.mem_cons_self))⟩
  | negSucc n =>
    rw [Text.intText, String.toList_ofList]
    exact ⟨'-', rfl, .inr rfl⟩

theorem ofPlain?_intText {n : Int} (fits : intRange n = .word) :
    ofPlain? (Text.intText n) = some (.int n) := by
  obtain ⟨c, head, numeric⟩ := exists_head?_intText n
  obtain ⟨no_null, no_truth⟩ := no_word head numeric
  have ne : (Text.intText n).toList.isEmpty = false := by
    cases cs : (Text.intText n).toList with
    | nil => rw [cs] at head; cases head
    | cons => rfl
  unfold ofPlain?
  simp only [ne, no_null, no_truth, wholeNumber?_intText, fits, Bool.or_false, Option.map_some]
  rfl

end Values

end Value

end MeshRoutes.Yaml
