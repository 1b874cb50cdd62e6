import MeshRoutes.Proofs.Text.Numeral
import MeshRoutes.Proofs.Yaml.Plain

/-!
# Quoted texts read back

A text between quotes reads back, also when it is moved to the right. A gap inside it stands for the
blanks and line breaks that it was read from, because no blank stands beside a line break.

* `Yaml.scanSingleQuoted_nest`, `Yaml.scanDoubleQuoted_escape`.
-/

namespace MeshRoutes.Yaml

/-! ## Adjacent characters -/

section Adjacent

variable {P Q : Char → Bool} {c : Char} {cs : List Char}

theorem hasAdjacent_cons_iff : hasAdjacent P Q (c :: cs) = false ↔
    (P c = true → cs.head?.any Q = false) ∧ hasAdjacent P Q cs = false := by
  rw [hasAdjacent, Bool.or_eq_false_iff]
  cases P c <;> simp

theorem isWritable_iff : isWritable cs = true ↔
    (∀ c ∈ cs, isPrintable c = true) ∧ hasAdjacent (· == ' ') isBreak cs = false := by
  simp [isWritable]

end Adjacent

/-! ## Gaps that stand for themselves -/

namespace Gap

variable {gap : Gap} {c : Char}

/-- Whether a line break may be added so that the gap still stands for what it was read from. -/
def Faithful (gap : Gap) : Prop :=
  if gap.broken then ∃ c, gap.first = some c ∧ c ≠ '\n' else gap.blanks = []

theorem text_addBlank (unbroken : gap.broken = false) (c : Char) :
    (gap.addBlank c).text = gap.text ++ [c] := by
  simp [addBlank, text, unbroken]

theorem text_addBreak (faithful : gap.Faithful) (is_normal : normalBreak c = c) (other : c ≠ '\n') :
    (gap.addBreak c).text = gap.text ++ [c] := by
  unfold Faithful at faithful
  split at faithful
  · next broken =>
    obtain ⟨d, first, no_feed⟩ := faithful
    rw [addBreak, if_pos broken, text, text, if_pos broken, if_pos broken, first, is_normal]
    split
    · next feed => exact absurd (Option.some.inj feed) no_feed
    · next some_eq => rw [← Option.some.inj some_eq, List.cons_append]
    · next none_eq => cases none_eq
  · next unbroken =>
    rw [addBreak, if_neg unbroken, text, text, if_neg unbroken, faithful, is_normal]
    simp

theorem faithful_addBreak (faithful : gap.Faithful) (is_normal : normalBreak c = c)
    (other : c ≠ '\n') : (gap.addBreak c).Faithful := by
  unfold Faithful at faithful
  unfold Faithful addBreak
  split at faithful
  · next broken => rwa [if_pos broken, if_pos broken]
  · next unbroken => simpa [unbroken, is_normal] using other

theorem broken_addBreak (gap : Gap) (c : Char) : (gap.addBreak c).broken = true := by
  unfold addBreak
  split
  · assumption
  · rfl

end Gap

/-! ## Single quotes -/

section SingleQuoted

variable {columns : Nat} {cs text rest : List Char} {c : Char} {p : Position} {gap : Gap}
  {atStart : Bool}

/-- A text as it stands between single quotes. -/
def doubleQuotes (cs : List Char) : List Char :=
  cs.flatMap fun c => if c == '\'' then ['\'', '\''] else [c]

theorem doubleQuotes_cons (other : c ≠ '\'') (cs : List Char) :
    doubleQuotes (c :: cs) = c :: doubleQuotes cs := by
  simp [doubleQuotes, other]

theorem doubleQuotes_quote (cs : List Char) :
    doubleQuotes ('\'' :: cs) = '\'' :: '\'' :: doubleQuotes cs := rfl

theorem scanSingleQuoted_space :
    scanSingleQuoted (' ' :: cs) p text gap =
      scanSingleQuoted cs (p.advance 1) text (gap.addBlank ' ') := by
  simp [scanSingleQuoted, isBreak, isBlank]

theorem scanSingleQuoted_spaces (broken : gap.broken = true) (count : Nat) :
    scanSingleQuoted (List.replicate count ' ' ++ cs) p text gap =
      scanSingleQuoted cs (p.advance count) text gap := by
  induction count generalizing p with
  | zero => rfl
  | succ count ih =>
    have unchanged : gap.addBlank ' ' = gap := by rw [Gap.addBlank, if_pos broken]
    rw [List.replicate_succ, List.cons_append, scanSingleQuoted_space, unchanged, ih]
    simp only [Position.advance, Nat.add_assoc, Nat.add_comm 1 count]

theorem scanSingleQuoted_break (is_break : isBreak c = true) (no_return : c ≠ '\r') :
    scanSingleQuoted (c :: cs) p text gap =
      scanSingleQuoted cs (p.newline 1) text (gap.addBreak c) := by
  have no_quote : c ≠ '\'' := by
    rintro rfl
    cases is_break
  rw [scanSingleQuoted.eq_4 _ _ _ _ _ (fun _ quote _ => no_quote quote)
    (fun _ is_return _ => no_return is_return)]
  simp [no_quote, is_break]

theorem scanSingleQuoted_char (no_quote : c ≠ '\'') (no_blank : isBlank c = false)
    (no_break : isBreak c = false) (not_first : p.column ≠ 0) :
    scanSingleQuoted (c :: cs) p text gap =
      scanSingleQuoted cs (p.advance 1) (extend text gap c) {} := by
  have no_return : c ≠ '\r' := by
    rintro rfl
    cases no_break
  rw [scanSingleQuoted.eq_4 _ _ _ _ _ (fun _ quote _ => no_quote quote)
    (fun _ is_return _ => no_return is_return)]
  simp [no_quote, no_break, no_blank, not_first]

theorem scanSingleQuoted_quote :
    scanSingleQuoted ('\'' :: '\'' :: cs) p text gap =
      scanSingleQuoted cs (p.advance 2) (extend text gap '\'') {} := by
  simp [scanSingleQuoted]

theorem scanSingleQuoted_close (closed : rest.head? ≠ some '\'') :
    scanSingleQuoted ('\'' :: rest) p text gap =
      some { text := text.reverse ++ gap.text, rest, pos := p.advance 1 } := by
  rw [scanSingleQuoted.eq_4 _ _ _ _ _ (fun _ _ quote => closed (by rw [quote]; rfl))
    (fun _ is_return _ => by cases is_return)]
  rfl

/-- The first line of a moved text is read like a line that starts further to the right. -/
theorem scanSingleQuoted_of_line {out : List Char} (no_break : isBreak c = false)
    (at_start : atStart = true → gap.broken = true) (moved : columns ≠ 0)
    (not_first : atStart = false → p.column ≠ 0)
    (line : ∀ p, p.column ≠ 0 → scanSingleQuoted (nest columns false (c :: cs) ++ rest) p text gap =
      some { text := out, rest, pos := p.after (nest columns false (c :: cs)) }) :
    scanSingleQuoted (nest columns atStart (c :: cs) ++ rest) p text gap =
      some { text := out, rest, pos := p.after (nest columns atStart (c :: cs)) } := by
  cases atStart with
  | false => exact line p (not_first rfl)
  | true =>
    rw [nest_true_cons no_break, List.append_assoc, scanSingleQuoted_spaces (at_start rfl),
      Position.after_append, Position.after_spaces]
    exact line _ (by simp only [Position.advance]; omega)

/-- A text up to its closing quote, from some character on. What was read before it is `text` and
what the gap stands for. -/
theorem scanSingleQuoted_nest (printable : ∀ c ∈ cs, isPrintable c = true)
    (no_feed : '\n' ∉ cs) (spaces : hasAdjacent (· == ' ') isBreak cs = false)
    (breaks : hasAdjacent isBreak (· == ' ') cs = false)
    (behind_break : gap.broken = true → cs.head? ≠ some ' ')
    (before_break : cs.head?.any isBreak = true → gap.Faithful)
    (at_start : atStart = true → gap.broken = true) (moved : columns ≠ 0)
    (not_first : atStart = false → p.column ≠ 0) (closed : rest.head? ≠ some '\'') :
    scanSingleQuoted (nest columns atStart (doubleQuotes cs ++ ['\'']) ++ rest) p text gap =
      some { text := text.reverse ++ (gap.text ++ cs)
             rest
             pos := p.after (nest columns atStart (doubleQuotes cs ++ ['\''])) } := by
  induction cs generalizing p text gap atStart with
  | nil =>
    refine scanSingleQuoted_of_line rfl at_start moved not_first fun p _ => ?_
    rw [List.append_nil]
    exact scanSingleQuoted_close closed
  | cons c cs ih =>
    obtain ⟨printable_c, printable_cs⟩ := List.forall_mem_cons.1 printable
    obtain ⟨other_c, no_feed_cs⟩ := not_or.1 (mt List.mem_cons.2 no_feed)
    obtain ⟨space_c, spaces_cs⟩ := hasAdjacent_cons_iff.1 spaces
    obtain ⟨break_c, breaks_cs⟩ := hasAdjacent_cons_iff.1 breaks
    have no_return : c ≠ '\r' := (isPrintable_iff.1 printable_c).2.2.1
    by_cases is_break : isBreak c = true
    · have no_quote : c ≠ '\'' := by
        rintro rfl
        cases is_break
      have faithful := before_break is_break
      have normal := normalBreak_of_printable printable_c is_break
      rw [doubleQuotes_cons no_quote, List.cons_append, nest_cons_break is_break, List.cons_append,
        scanSingleQuoted_break is_break no_return, Position.after_cons_break is_break,
        ih printable_cs no_feed_cs spaces_cs breaks_cs
          (fun _ space => by simpa [space] using break_c is_break)
          (fun _ => Gap.faithful_addBreak faithful normal (Ne.symm other_c))
          (fun _ => Gap.broken_addBreak gap c) (fun h => by cases h),
        Gap.text_addBreak faithful normal (Ne.symm other_c), List.append_assoc,
        List.singleton_append]
    have no_break := Bool.eq_false_iff.2 is_break
    have behind_char (p : Position) (text : List Char) (not_first : p.column ≠ 0) :
        scanSingleQuoted (nest columns false (doubleQuotes cs ++ ['\'']) ++ rest) p text {} =
          some { text := text.reverse ++ cs
                 rest
                 pos := p.after (nest columns false (doubleQuotes cs ++ ['\''])) } :=
      ih printable_cs no_feed_cs spaces_cs breaks_cs (fun broken => by cases broken) (fun _ => rfl)
        (fun start => by cases start) (fun _ => not_first)
    by_cases quote : c = '\''
    · subst quote
      rw [doubleQuotes_quote, List.cons_append, List.cons_append]
      refine scanSingleQuoted_of_line rfl at_start moved not_first fun p not_first => ?_
      rw [nest_false_cons rfl, nest_false_cons rfl, List.cons_append, List.cons_append,
        scanSingleQuoted_quote, behind_char _ _ (by simp [Position.advance]),
        Position.after_cons rfl, Position.after_cons rfl]
      simp [extend, Position.advance]
    · rw [doubleQuotes_cons quote, List.cons_append]
      refine scanSingleQuoted_of_line no_break at_start moved not_first fun p not_first => ?_
      rw [nest_false_cons no_break, List.cons_append, Position.after_cons no_break]
      by_cases space : c = ' '
      · subst space
        have unbroken : gap.broken = false :=
          Bool.eq_false_iff.2 fun broken => behind_break broken rfl
        rw [scanSingleQuoted_space,
          ih printable_cs no_feed_cs spaces_cs breaks_cs (by simp [Gap.addBlank, unbroken])
            (fun is_break => by rw [space_c rfl] at is_break; cases is_break) (by simp)
            (by simp [Position.advance]), Gap.text_addBlank unbroken, List.append_assoc,
          List.singleton_append]
      · have no_blank : isBlank c = false :=
          Bool.eq_false_iff.2 fun blank => space ((isBlank_of_printable printable_c).1 blank)
        rw [scanSingleQuoted_char quote no_blank no_break not_first,
          behind_char _ _ (by simp [Position.advance])]
        simp [extend]

end SingleQuoted

/-! ## Hexadecimal digits -/

theorem digitValue?_upperHexDigit :
    ∀ d < 16, Text.digitValue? 16 (Text.upperHexDigit d) = some d := by decide

theorem hexDigits_succ (width n : Nat) :
    hexDigits (width + 1) n = Text.upperHexDigit (n / 16 ^ width % 16) :: hexDigits width n := by
  unfold hexDigits
  rw [List.range_succ, List.reverse_append, List.map_append]
  rfl

theorem length_hexDigits (width n : Nat) : (hexDigits width n).length = width := by
  simp [hexDigits]

/-- Behind a number, digits at a fixed width denote their lowest places. -/
theorem foldlM_hexDigits (width n value : Nat) :
    (hexDigits width n).foldlM
        (fun value c => (Text.digitValue? 16 c).map (16 * value + ·)) value =
      some (16 ^ width * value + n % 16 ^ width) := by
  induction width generalizing value with
  | zero => simp [hexDigits, Nat.mod_one]
  | succ width ih =>
    rw [hexDigits_succ, List.foldlM_cons,
      digitValue?_upperHexDigit _ (Nat.mod_lt _ (by decide)), Option.map_some,
      Option.bind_eq_bind, Option.bind_some, ih, Nat.mod_pow_succ, Nat.pow_succ]
    congr 1
    rw [Nat.mul_add, ← Nat.mul_assoc]
    omega

theorem codeEscape?_hexDigits {c : Char} (width : Nat) (positive : width ≠ 0)
    (fits : c.toNat < 16 ^ width) : codeEscape? (hexDigits width c.toNat) = some c := by
  have ne : hexDigits width c.toNat ≠ [] :=
    List.ne_nil_of_length_pos (by rw [length_hexDigits]; omega)
  have value : Text.digitsValue? 16 (hexDigits width c.toNat) = some c.toNat := by
    rw [Text.digitsValue?_of_ne_nil ne, foldlM_hexDigits, Nat.mul_zero, Nat.zero_add,
      Nat.mod_eq_of_lt fits]
  have valid : c.toNat < 0xD800 ∨ (0xDFFF < c.toNat ∧ c.toNat < 0x110000) := c.valid
  have is_char : ((decide (0xD800 ≤ c.toNat) && decide (c.toNat ≤ 0xDFFF)) ||
      decide (c.toNat > 0x10FFFF)) = false := by
    simp only [Bool.or_eq_false_iff, Bool.and_eq_false_iff, decide_eq_false_iff_not]
    omega
  unfold codeEscape?
  rw [value, Option.bind_eq_bind, Option.bind_some, is_char]
  simp

theorem isVisible_upperHexDigit : ∀ d < 16, isPrintable (Text.upperHexDigit d) = true ∧
    isBreak (Text.upperHexDigit d) = false := by decide

theorem isVisible_hexDigits {width n : Nat} {c : Char} (mem : c ∈ hexDigits width n) :
    isPrintable c = true ∧ isBreak c = false := by
  obtain ⟨place, _, rfl⟩ := List.mem_map.1 mem
  exact isVisible_upperHexDigit _ (Nat.mod_lt _ (by decide))

/-! ## Double quotes -/

/-- Whether characters between double quotes are read as one character. -/
def StandsFor (cs : List Char) (c : Char) : Prop :=
  ∀ rest p text gap, p.column ≠ 0 → scanDoubleQuoted (cs ++ rest) p text gap =
    scanDoubleQuoted rest (p.advance cs.length) (extend text gap c) {}

/-- A few characters of one line that are read as one character between double quotes. -/
structure Escapes (cs : List Char) (c : Char) : Prop where
  stands : StandsFor cs c
  visible : ∀ d ∈ cs, isPrintable d = true ∧ isBreak d = false
  short : cs.length ≤ 6

section DoubleQuoted

variable {c : Char}

theorem escapes_letter {letter : Char} (escape : letterEscape? letter = some c)
    (visible : isPrintable letter = true ∧ isBreak letter = false)
    (no_code : letter ∉ ['x', 'u', 'U']) : Escapes ['\\', letter] c := by
  obtain ⟨no_x, no_u, no_U, _⟩ : letter ≠ 'x' ∧ letter ≠ 'u' ∧ letter ≠ 'U' ∧ True := by
    simpa using no_code
  have no_return := (isPrintable_iff.1 visible.1).2.2.1
  refine ⟨fun rest p text gap _ => ?_, ?_, by simp⟩
  · rw [List.cons_append, List.cons_append, List.nil_append,
      scanDoubleQuoted.eq_6 _ _ _ _ _ (fun _ h _ => no_return h) (fun _ _ _ h _ => no_x h)
        (fun _ _ _ _ _ h _ => no_u h) (fun _ _ _ _ _ _ _ _ _ h _ => no_U h), visible.2, escape]
    rfl
  · rw [List.forall_mem_cons, List.forall_mem_singleton]
    exact ⟨by decide, visible⟩

theorem escapes_code2 (fits : c.toNat ≤ 0xFF) :
    Escapes ('\\' :: 'x' :: hexDigits 2 c.toNat) c := by
  refine ⟨fun rest p text gap _ => ?_, ?_, by simp [length_hexDigits]⟩
  · have code := codeEscape?_hexDigits 2 (by decide) (Nat.lt_succ_of_le fits)
    obtain ⟨a, b, digits⟩ := List.length_eq_two.1 (length_hexDigits 2 c.toNat)
    rw [digits] at code ⊢
    simp only [List.cons_append, List.nil_append]
    rw [scanDoubleQuoted, code]
    rfl
  · rw [List.forall_mem_cons, List.forall_mem_cons]
    exact ⟨by decide, by decide, fun d mem => isVisible_hexDigits mem⟩

theorem escapes_code4 (fits : c.toNat ≤ 0xFFFF) :
    Escapes ('\\' :: 'u' :: hexDigits 4 c.toNat) c := by
  refine ⟨fun rest p text gap _ => ?_, ?_, by simp [length_hexDigits]⟩
  · have code := codeEscape?_hexDigits 4 (by decide) (Nat.lt_succ_of_le fits)
    obtain ⟨w, x, y, z, digits⟩ : ∃ w x y z, hexDigits 4 c.toNat = [w, x, y, z] :=
      ⟨_, _, _, _, rfl⟩
    rw [digits] at code ⊢
    simp only [List.cons_append, List.nil_append]
    rw [scanDoubleQuoted, code]
    rfl
  · rw [List.forall_mem_cons, List.forall_mem_cons]
    exact ⟨by decide, by decide, fun d mem => isVisible_hexDigits mem⟩

theorem escapes_self (visible : isPrintable c = true ∧ isBreak c = false) (no_quote : c ≠ '"')
    (no_slash : c ≠ '\\') (no_space : c ≠ ' ') : Escapes [c] c := by
  have no_return := (isPrintable_iff.1 visible.1).2.2.1
  have no_blank : isBlank c = false :=
    Bool.eq_false_iff.2 fun blank => no_space ((isBlank_of_printable visible.1).1 blank)
  refine ⟨fun rest p text gap not_first => ?_, by simpa using visible, by simp⟩
  rw [List.singleton_append, scanDoubleQuoted.eq_8 _ _ _ _ _ (fun _ h _ => no_slash h)
    (fun _ _ _ h _ => no_slash h) (fun _ _ _ _ _ h _ => no_slash h)
    (fun _ _ _ _ _ _ _ _ _ h _ => no_slash h) (fun _ _ h _ => no_slash h)
    (fun _ h _ => no_return h)]
  simp [no_quote, no_slash, visible, no_blank, not_first]

/-- Every character that is not written as itself has a code of sixteen bits. -/
theorem toNat_le_of_hidden (hidden : ¬(isPrintable c && !isBreak c) = true) :
    c.toNat ≤ 0xFFFF := by
  by_contra large
  refine hidden (Bool.and_eq_true_iff.2 ⟨isPrintable_iff.2 ⟨?_, ?_, ?_, by omega, ?_⟩, ?_⟩)
  · unfold isAllowed
    simp only [Bool.or_eq_true, decide_eq_true_eq]
    exact .inr (by omega)
  · rintro rfl
    exact large (by decide)
  · rintro rfl
    exact large (by decide)
  · rintro rfl
    exact large (by decide)
  · have no_feed : c ≠ '\n' ∧ c ≠ '\r' := by
      constructor <;> rintro rfl <;> exact large (by decide)
    simp only [isBreak, no_feed.1, no_feed.2, Bool.not_eq_true', Bool.or_eq_false_iff,
      beq_eq_false_iff_ne, ne_eq, not_false_eq_true, true_and]
    omega

theorem Escapes.ite {P : Prop} [Decidable P] {cs ds : List Char} (yes : P → Escapes cs c)
    (no : ¬P → Escapes ds c) : Escapes (if P then cs else ds) c := by
  split
  · next holds => exact yes holds
  · next fails => exact no fails

theorem escapes_escapeChar (no_space : c ≠ ' ') : Escapes (escapeChar c) c := by
  have letter {n : Nat} (l : Char) (escape : letterEscape? l = some (Char.ofNat n))
      (visible : isPrintable l = true ∧ isBreak l = false) (no_code : l ∉ ['x', 'u', 'U'])
      (is_code : (c.toNat == n) = true) : Escapes ['\\', l] c := by
    rw [← Char.ofNat_toNat c, beq_iff_eq.1 is_code]
    exact escapes_letter escape visible no_code
  refine Escapes.ite (fun special => ?_) fun ordinary => ?_
  · rw [Bool.or_eq_true, beq_iff_eq, beq_iff_eq] at special
    rcases special with rfl | rfl
    · exact escapes_letter rfl (by decide) (by decide)
    · exact escapes_letter rfl (by decide) (by decide)
  obtain ⟨no_quote, no_slash⟩ : c ≠ '"' ∧ c ≠ '\\' := by simpa using ordinary
  refine Escapes.ite (fun itself => ?_) fun hidden => ?_
  · rw [Bool.and_eq_true, Bool.not_eq_true'] at itself
    exact escapes_self itself no_quote no_slash no_space
  refine Escapes.ite (letter '0' rfl (by decide) (by decide)) fun _ => ?_
  refine Escapes.ite (letter 'a' rfl (by decide) (by decide)) fun _ => ?_
  refine Escapes.ite (letter 'b' rfl (by decide) (by decide)) fun _ => ?_
  refine Escapes.ite (letter 't' rfl (by decide) (by decide)) fun _ => ?_
  refine Escapes.ite (letter 'n' rfl (by decide) (by decide)) fun _ => ?_
  refine Escapes.ite (letter 'v' rfl (by decide) (by decide)) fun _ => ?_
  refine Escapes.ite (letter 'f' rfl (by decide) (by decide)) fun _ => ?_
  refine Escapes.ite (letter 'r' rfl (by decide) (by decide)) fun _ => ?_
  refine Escapes.ite (letter 'e' rfl (by decide) (by decide)) fun _ => ?_
  refine Escapes.ite (letter 'N' rfl (by decide) (by decide)) fun _ => ?_
  refine Escapes.ite (letter 'L' rfl (by decide) (by decide)) fun _ => ?_
  refine Escapes.ite (letter 'P' rfl (by decide) (by decide)) fun _ => ?_
  refine Escapes.ite escapes_code2 fun _ => ?_
  exact Escapes.ite escapes_code4 fun large => absurd (toNat_le_of_hidden hidden) large

theorem escapeChar_space : escapeChar ' ' = [' '] := by decide

theorem isVisible_escapeChar {d : Char} (mem : d ∈ escapeChar c) :
    isPrintable d = true ∧ isBreak d = false := by
  by_cases space : c = ' '
  · rw [space, escapeChar_space, List.mem_singleton] at mem
    rw [mem]
    decide
  · exact (escapes_escapeChar space).visible d mem

theorem length_escapeChar_le (c : Char) : (escapeChar c).length ≤ 6 := by
  by_cases space : c = ' '
  · rw [space, escapeChar_space]
    decide
  · exact (escapes_escapeChar space).short

/-- A text up to its closing quote, from some character on. What was read before it is `text` and
the blanks of the gap. -/
theorem scanDoubleQuoted_escape {cs rest text : List Char} {p : Position} {gap : Gap}
    (unbroken : gap.broken = false) (not_first : p.column ≠ 0) :
    scanDoubleQuoted (cs.flatMap escapeChar ++ '"' :: rest) p text gap =
      some { text := text.reverse ++ (gap.text ++ cs)
             rest
             pos := p.advance ((cs.flatMap escapeChar).length + 1) } := by
  induction cs generalizing p text gap with
  | nil =>
    rw [List.flatMap_nil, List.nil_append, scanDoubleQuoted.eq_8 _ _ _ _ _
      (fun _ h _ => by cases h) (fun _ _ _ h _ => by cases h) (fun _ _ _ _ _ h _ => by cases h)
      (fun _ _ _ _ _ _ _ _ _ h _ => by cases h) (fun _ _ h _ => by cases h)
      (fun _ h _ => by cases h)]
    simp
  | cons c cs ih =>
    have advance_eq (p : Position) (a b : Nat) : (p.advance a).advance (b + 1) =
        p.advance (a + b + 1) := by
      simp only [Position.advance, Position.mk.injEq, true_and]
      omega
    rw [List.flatMap_cons, List.append_assoc, List.length_append, ← advance_eq]
    by_cases space : c = ' '
    · subst space
      have step (cs : List Char) : scanDoubleQuoted (' ' :: cs) p text gap =
          scanDoubleQuoted cs (p.advance 1) text (gap.addBlank ' ') := by
        rw [scanDoubleQuoted.eq_8 _ _ _ _ _
          (fun _ h _ => by cases h) (fun _ _ _ h _ => by cases h)
          (fun _ _ _ _ _ h _ => by cases h) (fun _ _ _ _ _ _ _ _ _ h _ => by cases h)
          (fun _ _ h _ => by cases h) (fun _ h _ => by cases h)]
        simp [isBreak, isBlank]
      rw [escapeChar_space, List.singleton_append, step,
        ih (by simp [Gap.addBlank, unbroken]) (by simp [Position.advance]),
        Gap.text_addBlank unbroken, List.append_assoc, List.singleton_append]
      rfl
    · rw [(escapes_escapeChar space).stands _ _ _ _ not_first,
        ih rfl (by simp only [Position.advance]; omega)]
      simp [extend, Gap.text]

end DoubleQuoted

end MeshRoutes.Yaml
