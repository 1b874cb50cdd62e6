import MeshRoutes.Object.Timestamp
import MeshRoutes.Proofs.Text.Numeral

/-!
# Points in time read back

The written form of a point in time is read as the second in which it lies, also far from our
years, where a sign stands in front of the year.

* `Timestamp.parse?_toText`: what is written is read without the fraction of a second.
* `Timestamp.inWholeSeconds_eq_iff`: a point in time that loses nothing lies at a whole second.
-/

namespace MeshRoutes

namespace CalendarTime

theorem minusMinutes_zero {t : CalendarTime} (isValid : t.IsValid) : t.minusMinutes 0 = t := by
  obtain ⟨year, month, day, hour, minute, second⟩ := t
  obtain ⟨_, _, _, hour_lt, minute_lt, _⟩ := isValid
  dsimp only at hour_lt minute_lt
  have within : ((((hour * 60 + minute : Nat) : Int) - 0) % 1440).toNat = hour * 60 + minute := by
    omega
  unfold minusMinutes
  dsimp only
  rw [within, if_neg (by omega), if_neg (by omega)]
  congr 1 <;> omega

theorem monthLength_le (year : Int) (month : Nat) : monthLength year month ≤ 31 := by
  unfold monthLength
  split
  · split <;> omega
  · split <;> omega

end CalendarTime

namespace Timestamp

theorem ofCalendar?_zero (t : Timestamp) :
    ofCalendar? t.toCalendarTime 0 = some t.inWholeSeconds :=
  dif_pos ⟨t.isValid, by decide⟩

theorem inWholeSeconds_eq_iff (t : Timestamp) : t.inWholeSeconds = t ↔ t.nanosecond = 0 := by
  obtain ⟨clock, nanosecond, isValid, nanosecond_lt⟩ := t
  simp [inWholeSeconds, eq_comm]

theorem toText_inWholeSeconds (t : Timestamp) : t.inWholeSeconds.toText = t.toText := rfl

/-! ## Numbers in a fixed number of places -/

theorem digitsValue?_padded (places n : Nat) : Text.digitsValue? 10 (padded places n) = some n :=
  Text.digitsValue?_zeros_append ..

theorem isDigit_of_mem_padded {places n : Nat} {c : Char} (mem : c ∈ padded places n) :
    c.isDigit = true := by
  rcases List.mem_append.1 mem with mem | mem
  · rw [List.eq_of_mem_replicate mem]
    rfl
  · exact Text.isDigit_of_mem_decimalDigits mem

theorem length_padded {places n : Nat} (some_place : 0 < places) (fits : n < 10 ^ places) :
    (padded places n).length = places := by
  have digits := (Text.length_decimalDigits_le_iff some_place).2 fits
  unfold padded
  rw [List.length_append, List.length_replicate]
  omega

theorem exists_padded_cons (places n : Nat) :
    ∃ c cs, padded places n = c :: cs ∧ c.isDigit = true := by
  have some_digit : padded places n ≠ [] :=
    List.append_ne_nil_of_right_ne_nil _ (Text.decimalDigits_ne_nil n)
  obtain ⟨c, cs, digits⟩ := List.exists_cons_of_ne_nil some_digit
  exact ⟨c, cs, digits, isDigit_of_mem_padded (digits ▸ List.mem_cons_self)⟩

theorem isBlank_of_isDigit {c : Char} (digit : c.isDigit = true) : Text.isBlank c = false := by
  have code := Text.toNat_of_isDigit digit
  simp only [Text.isBlank, Bool.or_eq_false_iff, Bool.and_eq_false_iff, decide_eq_false_iff_not,
    beq_eq_false_iff_ne]
  omega

theorem dropWhile_isBlank_padded (places n : Nat) (rest : List Char) :
    (padded places n ++ rest).dropWhile Text.isBlank = padded places n ++ rest := by
  obtain ⟨c, cs, digits, digit⟩ := exists_padded_cons places n
  have no_blank : ¬Text.isBlank c = true := by simp [isBlank_of_isDigit digit]
  rw [digits, List.cons_append, List.dropWhile_cons_of_neg no_blank]

/-- A number in all its places is read as this number, whatever follows it. -/
theorem number?_padded {places n : Nat} (some_place : 0 < places) (fits : n < 10 ^ places)
    (rest : List Char) : number? places (padded places n ++ rest) = some (n, rest) := by
  have digits : (padded places n).takeWhile Char.isDigit = padded places n :=
    List.takeWhile_eq_self_iff.2 fun c => isDigit_of_mem_padded
  unfold number?
  dsimp only
  rw [dropWhile_isBlank_padded, List.take_left' (length_padded some_place fits), digits,
    digitsValue?_padded, List.drop_left]
  rfl

/-! ## Years -/

theorem leadingDigits?_padded {places n : Nat} (rest : List Char) :
    leadingDigits? (padded places n ++ '-' :: rest) = some (n, '-' :: rest) := by
  have digits : ∀ c ∈ padded places n, c.isDigit = true := fun c => isDigit_of_mem_padded
  unfold leadingDigits?
  rw [List.takeWhile_append_of_pos digits, List.dropWhile_append_of_pos digits,
    List.takeWhile_cons_of_neg (by decide), List.dropWhile_cons_of_neg (by decide),
    List.append_nil, digitsValue?_padded]
  rfl

theorem year?_unsigned {n : Nat} (fits : n < 10 ^ 4) (rest : List Char) :
    year? (padded 4 n ++ rest) = some ((n : Int), rest) := by
  have read := number?_padded (by omega : 0 < 4) fits rest
  obtain ⟨c, cs, digits, digit⟩ := exists_padded_cons 4 n
  unfold year?
  rw [dropWhile_isBlank_padded]
  rw [digits, List.cons_append] at read ⊢
  -- the first character is a digit and so no sign
  split
  · next sign => cases sign; cases digit
  · next sign => cases sign; cases digit
  · exact congrArg (Option.map _) read

theorem year?_plus (n : Nat) (rest : List Char) :
    year? ('+' :: (padded 4 n ++ '-' :: rest)) = some ((n : Int), '-' :: rest) :=
  congrArg (Option.map _) (leadingDigits?_padded rest)

theorem year?_minus (n : Nat) (rest : List Char) :
    year? ('-' :: (padded 4 n ++ '-' :: rest)) = some (-(n : Int), '-' :: rest) :=
  congrArg (Option.map _) (leadingDigits?_padded rest)

theorem year?_yearText (year : Int) (rest : List Char) :
    year? (yearText year ++ '-' :: rest) = some (year, '-' :: rest) := by
  unfold yearText
  split
  · next within =>
    have positive : (year.natAbs : Int) = year := by omega
    rw [year?_unsigned (by omega), positive]
  · split
    · next below =>
      have negated : -(year.natAbs : Int) = year := by omega
      rw [List.cons_append, year?_minus, negated]
    · next above =>
      have positive : (year.natAbs : Int) = year := by omega
      rw [List.cons_append, year?_plus, positive]

/-! ## The written form -/

/-- What is written of a point in time is read as the second in which it lies. -/
theorem parse?_toText (t : Timestamp) : parse? t.toText = some t.inWholeSeconds := by
  obtain ⟨_, ⟨_, month_le⟩, ⟨_, day_le⟩, hour_lt, minute_lt, second_le⟩ := t.isValid
  have day_lt : t.day < 100 :=
    Nat.lt_of_le_of_lt (day_le.trans (CalendarTime.monthLength_le ..)) (by omega)
  have two {n : Nat} (fits : n < 100) (rest : List Char) :
      number? 2 (padded 2 n ++ rest) = some (n, rest) := number?_padded (by omega) fits rest
  have dash (rest : List Char) : afterMark? '-' ('-' :: rest) = some rest := rfl
  have colon (rest : List Char) : afterMark? ':' (':' :: rest) = some rest := rfl
  have date_end (rest : List Char) : afterDate? ('T' :: rest) = some rest := rfl
  have no_fraction : fraction? ['Z'] = some (0, ['Z']) := rfl
  have utc : offset? (['Z'].dropWhile Text.isBlank) = some (0, []) := rfl
  have after {α β : Type} {step : Option α} {next : α → Option β} {a : α} {b : β}
      (read : step = some a) (behind : next a = some b) : step.bind next = some b :=
    Option.bind_eq_some_iff.2 ⟨a, read, behind⟩
  unfold parse? toText
  rw [String.toList_ofList]
  simp only [List.append_assoc, List.cons_append]
  refine after (year?_yearText ..) (after (dash _) ?_)
  refine after (two (by omega) _) (after (dash _) (after (two day_lt _) ?_))
  refine after (date_end _) (after (two (by omega) _) ?_)
  refine after (colon _) (after (two (by omega) _) ?_)
  refine after (colon _) (after (two (by omega) _) (after no_fraction (after utc ?_)))
  dsimp only
  rw [if_pos ⟨t.isValid, rfl⟩, CalendarTime.minusMinutes_zero t.isValid]
  exact ofCalendar?_zero t

end Timestamp

end MeshRoutes
