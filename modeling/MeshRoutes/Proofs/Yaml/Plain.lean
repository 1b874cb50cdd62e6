import MeshRoutes.Proofs.Yaml.Lines
import MeshRoutes.Yaml.Token.Stream

/-!
# Plain texts read back

A text that may be written as it is reads back, in front of the colon of a key as well as at the end
of a line.

* `Yaml.BeginsAt`: the rest of a stream whose next token stands at some column.
* `Yaml.scanPlain_key`, `Yaml.scanPlain_line`: plain texts in front of a colon and of a line break.
-/

namespace MeshRoutes.Yaml

/-! ## Characters -/

/-- Whether a token may start with the character, so that it does not belong to the gap in front. -/
def isTokenStart (c : Char) : Bool :=
  !isBlank c && !isBreak c && c != '#' && c != byteOrderMark

/-- Whether a line starts here whose next token stands at the given column, or the stream ends. -/
def BeginsAt (column : Nat) (cs : List Char) : Prop :=
  (column = 0 ∧ cs = []) ∨
    ∃ c rest, isTokenStart c = true ∧ cs = List.replicate column ' ' ++ c :: rest

section Characters

variable {c : Char} {cs : List Char}

theorem isTokenStart_iff : isTokenStart c = true ↔
    isBlank c = false ∧ isBreak c = false ∧ c ≠ '#' ∧ c ≠ byteOrderMark := by
  simp [isTokenStart, and_assoc]

theorem isPrintable_iff : isPrintable c = true ↔
    isAllowed c = true ∧ c ≠ '\t' ∧ c ≠ '\r' ∧ c.toNat ≠ 0x85 ∧ c ≠ byteOrderMark := by
  simp [isPrintable, and_assoc]

theorem isBlank_of_printable (printable : isPrintable c = true) :
    isBlank c = true ↔ c = ' ' := by
  have no_tab := (isPrintable_iff.1 printable).2.1
  simp [isBlank, no_tab]

/-- A break that can be printed enters a text as it is. -/
theorem normalBreak_of_printable (printable : isPrintable c = true) (is_break : isBreak c = true) :
    normalBreak c = c := by
  obtain ⟨_, _, no_return, no_next, _⟩ := isPrintable_iff.1 printable
  simp only [isBreak, Bool.or_eq_true, beq_iff_eq, no_return, no_next, or_false] at is_break
  unfold normalBreak
  rcases is_break with (rfl | separator) | separator
  · rfl
  · simp [separator]
  · simp [separator]

theorem atBlankOrEnd_append (ne : cs ≠ []) (rest : List Char) :
    atBlankOrEnd (cs ++ rest) = atBlankOrEnd cs := by
  cases cs with
  | nil => exact absurd rfl ne
  | cons c cs => rfl

end Characters

/-! ## Gaps between tokens -/

theorem skipGap_spaces (count : Nat) (allowed : Bool) (cs : List Char) (p : Position) :
    Scanner.skipGap false false allowed (List.replicate count ' ' ++ cs) p =
      Scanner.skipGap false false allowed cs (p.advance count) := by
  induction count generalizing p with
  | zero => rfl
  | succ count ih =>
    rw [List.replicate_succ, List.cons_append]
    refine Eq.trans ?_ ((ih (p.advance 1)).trans ?_)
    · simp [Scanner.skipGap, isBreak]
    · simp only [Position.advance, Nat.add_assoc, Nat.add_comm 1 count]

theorem skipGap_lineFeed (allowed : Bool) (cs : List Char) (p : Position) :
    Scanner.skipGap false false allowed ('\n' :: cs) p =
      Scanner.skipGap false false true cs (p.newline 1) := by
  simp [Scanner.skipGap, isBreak]

theorem skipGap_token {c : Char} (starts : isTokenStart c = true) (allowed : Bool)
    (cs : List Char) (p : Position) :
    Scanner.skipGap false false allowed (c :: cs) p = (c :: cs, p, allowed) := by
  obtain ⟨no_blank, no_break, no_hash, no_mark⟩ := isTokenStart_iff.1 starts
  obtain ⟨no_space, no_tab⟩ : c ≠ ' ' ∧ c ≠ '\t' := by simpa [isBlank] using no_blank
  have no_return : c ≠ '\r' := by
    rintro rfl
    cases no_break
  rw [Scanner.skipGap.eq_3 _ _ _ _ _ _ (fun _ is_return _ => no_return is_return)]
  simp [no_break, no_hash, no_mark, no_space, no_tab]

/-- The gap in front of the next token, which stands at a known column. -/
theorem BeginsAt.skipGap {column : Nat} {cs : List Char} (begins : BeginsAt column cs)
    (allowed : Bool) (p : Position) :
    ∃ rest, Scanner.skipGap false false allowed cs p = (rest, p.advance column, allowed) := by
  rcases begins with ⟨rfl, rfl⟩ | ⟨c, rest, starts, rfl⟩
  · exact ⟨[], rfl⟩
  · refine ⟨c :: rest, ?_⟩
    rw [skipGap_spaces, skipGap_token starts]

/-! ## Plain texts -/

section Plain

variable {indent : Nat} {cs text blanks : List Char} {c : Char} {p : Position} {gap : Gap}
  {afterGap : Bool}

theorem scanPlain_space :
    scanPlain false indent (' ' :: cs) p text gap afterGap =
      scanPlain false indent cs (p.advance 1) text (gap.addBlank ' ') true := by
  simp [scanPlain, isBreak, isBlank]

theorem scanPlain_lineFeed :
    scanPlain false indent ('\n' :: cs) p text gap afterGap =
      scanPlain false indent cs (p.newline 1) text (gap.addBreak '\n') true := by
  simp [scanPlain, isBreak]

theorem ambiguousColon_false (cs : List Char) : ambiguousColon false cs = false := by
  unfold ambiguousColon
  split <;> rfl

theorem scanPlain_char (no_blank : isBlank c = false) (no_break : isBreak c = false)
    (stays : afterGap = true → indent ≤ p.column ∧ p.column ≠ 0 ∧ c ≠ '#')
    (goes_on : c = ':' → atBlankOrEnd cs = false) :
    scanPlain false indent (c :: cs) p text gap afterGap =
      scanPlain false indent cs (p.advance 1) (extend text gap c) {} false := by
  have no_return : c ≠ '\r' := by
    rintro rfl
    cases no_break
  have in_text : (afterGap && ((!false && decide (p.column < indent)) || c == '#' ||
      (p.column == 0 && atDocumentMark (c :: cs)))) = false := by
    cases afterGap with
    | false => rfl
    | true =>
      obtain ⟨deep, not_first, no_hash⟩ := stays rfl
      simp [deep, not_first, no_hash]
  have no_stop : stopsPlain false (c :: cs) = false := by
    simpa [stopsPlain] using goes_on
  rw [scanPlain.eq_3 _ _ _ _ _ _ _ _ (fun _ is_return _ => no_return is_return), no_break, no_blank,
    in_text, no_stop, ambiguousColon_false]
  rfl

/-- A text that may be written as it is, from some character on. `blanks` were read before it. -/
theorem scanPlain_text (ne : cs ≠ []) (printable : ∀ c ∈ cs, isPrintable c = true)
    (no_break : ∀ c ∈ cs, isBreak c = false) (last : cs.getLast? ≠ some ' ')
    (no_mark : containsMark cs = false) (deep : indent ≤ p.column + 1)
    (stays : afterGap = true → indent ≤ p.column ∧ p.column ≠ 0 ∧ cs.head? ≠ some '#')
    {rest : List Char} :
    scanPlain false indent (cs ++ rest) p text { blanks } afterGap =
      scanPlain false indent rest (p.advance cs.length) (cs.reverse ++ (blanks.reverse ++ text))
        {} false := by
  induction cs generalizing p text blanks afterGap with
  | nil => exact absurd rfl ne
  | cons c cs ih =>
    obtain ⟨printable_c, printable_cs⟩ := List.forall_mem_cons.1 printable
    obtain ⟨no_break_c, no_break_cs⟩ := List.forall_mem_cons.1 no_break
    rw [containsMark, Bool.or_eq_false_iff, Bool.or_eq_false_iff] at no_mark
    obtain ⟨⟨no_colon, no_hash⟩, no_mark⟩ := no_mark
    have advance_eq : (p.advance 1).advance cs.length = p.advance (c :: cs).length := by
      simp only [Position.advance, List.length_cons, Position.mk.injEq, true_and]
      omega
    by_cases space : c = ' '
    · subst space
      cases cs with
      | nil => exact absurd rfl last
      | cons d cs =>
        have stays : true = true → indent ≤ (p.advance 1).column ∧ (p.advance 1).column ≠ 0 ∧
            (d :: cs).head? ≠ some '#' := by
          intro _
          exact ⟨deep, Nat.succ_ne_zero _, by simpa [isBlank, isBreak] using no_hash⟩
        rw [List.cons_append, scanPlain_space]
        refine (ih (List.cons_ne_nil d cs) printable_cs no_break_cs (by simpa using last) no_mark
          (Nat.le_succ_of_le deep) stays).trans ?_
        rw [advance_eq]
        simp
    · have no_blank : isBlank c = false :=
        Bool.eq_false_iff.2 fun blank => space ((isBlank_of_printable printable_c).1 blank)
      have goes_on : c = ':' → atBlankOrEnd (cs ++ rest) = false := by
        rintro rfl
        rw [beq_self_eq_true, Bool.true_and] at no_colon
        rw [atBlankOrEnd_append _ rest, no_colon]
        rintro rfl
        cases no_colon
      have stays_c : afterGap = true → indent ≤ p.column ∧ p.column ≠ 0 ∧ c ≠ '#' := by
        intro after
        obtain ⟨deep, not_first, no_hash⟩ := stays after
        exact ⟨deep, not_first, fun hash => no_hash (by rw [hash]; rfl)⟩
      rw [List.cons_append, scanPlain_char no_blank no_break_c stays_c goes_on]
      cases cs with
      | nil => simp [extend, Gap.text, Position.advance]
      | cons d cs =>
        refine (ih (List.cons_ne_nil d cs) printable_cs no_break_cs (by simpa using last) no_mark
          (Nat.le_succ_of_le deep) (by simp)).trans ?_
        rw [advance_eq]
        simp [extend, Gap.text]

theorem scanPlain_spaces (broken : gap.broken = true) (count : Nat) (cs : List Char) :
    scanPlain false indent (List.replicate count ' ' ++ cs) p text gap true =
      scanPlain false indent cs (p.advance count) text gap true := by
  induction count generalizing p with
  | zero => rfl
  | succ count ih =>
    have unchanged : gap.addBlank ' ' = gap := by rw [Gap.addBlank, if_pos broken]
    rw [List.replicate_succ, List.cons_append, scanPlain_space, unchanged, ih]
    simp only [Position.advance, Nat.add_assoc, Nat.add_comm 1 count]

theorem scanPlain_left (no_blank : isBlank c = false) (no_break : isBreak c = false)
    (left : p.column < indent) :
    scanPlain false indent (c :: cs) p text gap true =
      some ⟨text.reverse, c :: cs, p, gap.broken⟩ := by
  have no_return : c ≠ '\r' := by
    rintro rfl
    cases no_break
  rw [scanPlain.eq_3 _ _ _ _ _ _ _ _ (fun _ is_return _ => no_return is_return), no_break, no_blank]
  simp [left]

/-- What a text has to be like for being written as it is. -/
theorem allowsPlain_iff : allowsPlain cs = true ↔ (∀ c ∈ cs, isPrintable c = true) ∧
    (∀ c ∈ cs, isBreak c = false) ∧ cs ≠ [] ∧ cs.head? ≠ some ' ' ∧ cs.getLast? ≠ some ' ' ∧
    startsWithMark cs = false ∧ containsMark cs = false := by
  have no_adjacent (no_break : ∀ c ∈ cs, isBreak c = false) :
      hasAdjacent (· == ' ') isBreak cs = false := by
    induction cs with
    | nil => rfl
    | cons c cs ih =>
      have no_break' := (List.forall_mem_cons.1 no_break).2
      rw [hasAdjacent, ih no_break', Bool.or_false]
      cases cs with
      | nil => simp
      | cons d cs => simp [no_break' d List.mem_cons_self]
  unfold allowsPlain isWritable
  simp only [Bool.and_eq_true, Bool.not_eq_true', List.any_eq_false, List.all_eq_true,
    bne_iff_ne, ne_eq, List.isEmpty_eq_false_iff, Bool.not_eq_true]
  constructor
  · rintro ⟨⟨⟨⟨⟨⟨⟨printable, _⟩, ne⟩, no_break⟩, head⟩, last⟩, start⟩, mark⟩
    exact ⟨printable, no_break, ne, head, last, start, mark⟩
  · rintro ⟨printable, no_break, ne, head, last, start, mark⟩
    exact ⟨⟨⟨⟨⟨⟨⟨printable, no_adjacent no_break⟩, ne⟩, no_break⟩, head⟩, last⟩, start⟩, mark⟩

/-- A plain text in front of a colon. -/
theorem scanPlain_key (allowed : allowsPlain cs = true) (deep : indent ≤ p.column + 1)
    {rest : List Char} (ends : atBlankOrEnd rest = true) :
    scanPlain false indent (cs ++ ':' :: rest) p [] {} false =
      some ⟨cs, ':' :: rest, p.after cs, false⟩ := by
  obtain ⟨printable, no_break, ne, _, last, _, no_mark⟩ := allowsPlain_iff.1 allowed
  refine (scanPlain_text ne printable no_break last no_mark deep (by simp)).trans ?_
  rw [Position.after_of_no_break no_break]
  rw [scanPlain.eq_3 _ _ _ _ _ _ _ _ (fun _ is_return _ => by cases is_return)]
  rw [ambiguousColon_false]
  simp [isBreak, isBlank, stopsPlain, ends]

/-- A plain text at the end of a line, behind which something stands further to the left. -/
theorem scanPlain_line (allowed : allowsPlain cs = true) (deep : indent ≤ p.column + 1)
    {column : Nat} {tail : List Char} (begins : BeginsAt column tail) (left : column < indent) :
    ∃ rest q, scanPlain false indent (cs ++ '\n' :: tail) p [] {} false =
        some ⟨cs, rest, q, true⟩ ∧
      Scanner.skipGap false false true rest q =
        Scanner.skipGap false false true tail (p.after (cs ++ ['\n'])) := by
  obtain ⟨printable, no_break, ne, _, last, _, no_mark⟩ := allowsPlain_iff.1 allowed
  have read : scanPlain false indent (cs ++ '\n' :: tail) p [] {} false =
      scanPlain false indent ('\n' :: tail) (p.advance cs.length) (cs.reverse ++ ([] ++ [])) {}
        false :=
    scanPlain_text ne printable no_break last no_mark deep (by simp)
  have position : p.after (cs ++ ['\n']) = (p.advance cs.length).newline 1 := by
    rw [Position.after_append, Position.after_of_no_break no_break,
      Position.after_cons_break rfl, Position.after_nil]
  rw [read, scanPlain_lineFeed, position]
  rcases begins with ⟨rfl, rfl⟩ | ⟨c, rest, starts, rfl⟩
  · refine ⟨[], (p.advance cs.length).newline 1, ?_, rfl⟩
    simp [scanPlain, Gap.addBreak]
  · obtain ⟨no_blank, no_break, _, _⟩ := isTokenStart_iff.1 starts
    refine ⟨c :: rest, ((p.advance cs.length).newline 1).advance column, ?_, ?_⟩
    · rw [scanPlain_spaces (by rfl), scanPlain_left no_blank no_break]
      · simp [Gap.addBreak]
      · simpa [Position.advance, Position.newline] using left
    · rw [skipGap_spaces]

end Plain

end MeshRoutes.Yaml
