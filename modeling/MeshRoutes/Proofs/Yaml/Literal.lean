import MeshRoutes.Proofs.Yaml.Quoted

/-!
# Block texts read back

A text that is written as the indented lines of a block reads back. The scanner of a block holds the
characters that it has read, those of the last line breaks apart from the others; the mark of the
block says how many of the line breaks at its end belong to the text.

* `Yaml.BlockState.Holds`: what the scanner of a block has read.
* `Yaml.scanBlock_literal`: blocks read back.
-/

namespace MeshRoutes.Yaml

/-! ## Line breaks at the end -/

/-- What keeps of the line breaks at the end of a block those of the text. -/
def chompingOf (cs : List Char) : Chomping :=
  match cs.reverse with
  | [] => .strip
  | [c] => if isBreak c then .keep else .strip
  | c :: d :: _ => if !isBreak c then .strip else if isBreak d then .keep else .clip

theorem chompingOf_eq_strip_iff {cs : List Char} :
    chompingOf cs = .strip ↔ cs.getLast?.any isBreak = false := by
  rw [← List.head?_reverse]
  unfold chompingOf
  rcases cs.reverse with _ | ⟨c, _ | ⟨d, rest⟩⟩
  · simp
  · cases is_break : isBreak c <;> simp [is_break]
  · cases is_break : isBreak c <;> cases is_break' : isBreak d <;> simp [is_break, is_break']

theorem chompingOf_append_break {cs : List Char} {c : Char} (is_break : isBreak c = true)
    (behind_break : cs.getLast?.all isBreak = true) : chompingOf (cs ++ [c]) = .keep := by
  rw [← List.head?_reverse] at behind_break
  unfold chompingOf
  rw [List.reverse_append]
  rcases reverse_eq : cs.reverse with _ | ⟨d, rest⟩
  · simp [is_break]
  · have is_break' : isBreak d = true := by simpa [reverse_eq] using behind_break
    simp [is_break, is_break']

/-! ## What has been read -/

/-- Whether the scanner of a literal block of the given indentation has read some characters. -/
structure BlockState.Holds (s : BlockState) (indent : Nat) (read : List Char) : Prop where
  is_literal : s.literal = true
  indent_eq : s.indent = some indent
  in_line : s.inLine = true → s.first = [] ∧ s.others = []
  between : s.inLine = false → read.getLast?.all isBreak = true
  keeps : s.others ≠ [] → chompingOf read = .keep
  read_eq : s.text.reverse ++ (s.first ++ s.others) = read

section Holds

variable {s : BlockState} {indent : Nat} {read cs rest : List Char} {c : Char} {p : Position}
  {chomping : Chomping}

theorem scanBlockLines_break (is_break : isBreak c = true) (no_return : c ≠ '\r') :
    scanBlockLines chomping (c :: cs) p s =
      scanBlockLines chomping cs (p.newline 1) (s.afterBreak c p.column) := by
  rw [scanBlockLines.eq_3 _ _ _ _ _ (fun _ is_return _ => no_return is_return), if_pos is_break]

theorem BlockState.Holds.afterBreak (holds : s.Holds indent read) (is_break : isBreak c = true)
    (is_normal : normalBreak c = c) (column : Nat) :
    (s.afterBreak c column).Holds indent (read ++ [c]) := by
  have read_eq := holds.read_eq
  have ends : (read ++ [c]).getLast?.all isBreak = true := by simp [is_break]
  unfold BlockState.afterBreak
  split
  · next in_line =>
    obtain ⟨no_first, no_others⟩ := holds.in_line in_line
    refine ⟨holds.is_literal, holds.indent_eq, fun h => (by cases h), fun _ => ends,
      fun others => absurd no_others others, ?_⟩
    rw [no_first, no_others] at read_eq
    simpa [no_others, is_normal] using read_eq
  · next between =>
    have behind_break := holds.between (Bool.eq_false_iff.2 between)
    refine ⟨holds.is_literal, holds.indent_eq, fun h => absurd h between, fun _ => ends,
      fun _ => chompingOf_append_break is_break behind_break, ?_⟩
    rw [← read_eq]
    simp [is_normal]

theorem BlockState.inLine_afterBreak (s : BlockState) (c : Char) (column : Nat) :
    (s.afterBreak c column).inLine = false := by
  unfold BlockState.afterBreak
  split
  · rfl
  · next between => exact Bool.eq_false_iff.2 between

theorem BlockState.text_afterBreak (s : BlockState) (c : Char) (column : Nat) :
    (s.afterBreak c column).text = s.text := by
  unfold BlockState.afterBreak
  split <;> rfl

theorem scanBlockLines_inLine (no_break : isBreak c = false) (in_line : s.inLine = true) :
    scanBlockLines chomping (c :: cs) p s =
      scanBlockLines chomping cs (p.advance 1) { s with text := c :: s.text } := by
  have no_return : c ≠ '\r' := by
    rintro rfl
    cases no_break
  rw [scanBlockLines.eq_3 _ _ _ _ _ (fun _ is_return _ => no_return is_return), no_break, in_line]
  rfl

theorem BlockState.Holds.cons (holds : s.Holds indent read) (in_line : s.inLine = true)
    (c : Char) : ({ s with text := c :: s.text } : BlockState).Holds indent (read ++ [c]) := by
  obtain ⟨no_first, no_others⟩ := holds.in_line in_line
  refine ⟨holds.is_literal, holds.indent_eq, fun _ => ⟨no_first, no_others⟩,
    fun between => absurd in_line (Bool.eq_false_iff.1 between),
    fun others => absurd no_others others, ?_⟩
  rw [← holds.read_eq, no_first, no_others]
  simp

/-- Spaces in front of a line are skipped while they belong to the indentation. -/
theorem scanBlockLines_spaces (between : s.inLine = false) {count : Nat}
    (in_indent : ∀ column < p.column + count, s.inIndent column = true) :
    scanBlockLines chomping (List.replicate count ' ' ++ cs) p s =
      scanBlockLines chomping cs (p.advance count) s := by
  induction count generalizing p with
  | zero => rfl
  | succ count ih =>
    have here := in_indent p.column (by omega)
    rw [List.replicate_succ, List.cons_append,
      scanBlockLines.eq_3 _ _ _ _ _ (fun _ is_return _ => by cases is_return), between, here]
    refine (ih fun column below => in_indent column ?_).trans ?_
    · simp only [Position.advance] at below
      omega
    · simp only [Position.advance, Nat.add_assoc, Nat.add_comm 1 count]

/-- A line of a literal block starts behind its indentation. -/
theorem scanBlockLines_start (no_break : isBreak c = false) (no_tab : c ≠ '\t')
    (between : s.inLine = false) (outside : s.inIndent p.column = true → c ≠ ' ')
    (settled : (s.settle p.column).indent = some p.column) :
    scanBlockLines chomping (c :: cs) p s =
      scanBlockLines chomping cs (p.advance 1) ((s.settle p.column).startLine c) := by
  have no_return : c ≠ '\r' := by
    rintro rfl
    cases no_break
  have no_space : (s.inIndent p.column && c == ' ') = false := by
    rw [Bool.and_eq_false_iff, beq_eq_false_iff_ne]
    exact (Bool.eq_false_or_eq_true _).symm.imp_right outside
  rw [scanBlockLines.eq_3 _ _ _ _ _ (fun _ is_return _ => no_return is_return), no_break, between,
    no_space]
  simp [no_tab, settled]

theorem BlockState.Holds.startLine (holds : s.Holds indent read) (c : Char) :
    (s.startLine c).Holds indent (read ++ [c]) := by
  refine ⟨holds.is_literal, holds.indent_eq, fun _ => ⟨rfl, rfl⟩, fun between => (by cases between),
    fun others => absurd rfl others, ?_⟩
  rw [← holds.read_eq]
  simp [BlockState.startLine, holds.is_literal]

theorem BlockState.Holds.settle_eq (holds : s.Holds indent read) (column : Nat) :
    s.settle column = s := by
  unfold BlockState.settle
  rw [holds.indent_eq]

theorem BlockState.Holds.inIndent_iff (holds : s.Holds indent read) (column : Nat) :
    s.inIndent column = true ↔ column < indent := by
  unfold BlockState.inIndent
  rw [holds.indent_eq]
  simp

/-! ## Lines -/

/-- The lines of a text, from some character on. -/
theorem BlockState.Holds.scan (holds : s.Holds indent read) (chomping : Chomping)
    (printable : ∀ c ∈ cs, isPrintable c = true) (atStart : Bool) (start : s.inLine = !atStart)
    (column : atStart = true → p.column = 0) (rest : List Char) :
    ∃ s' : BlockState, scanBlockLines chomping (nest indent atStart cs ++ rest) p s =
        scanBlockLines chomping rest (p.after (nest indent atStart cs)) s' ∧
      s'.Holds indent (read ++ cs) ∧
      s'.inLine = cs.getLast?.elim s.inLine fun c => !isBreak c := by
  induction cs generalizing s read p atStart with
  | nil => exact ⟨s, by cases atStart <;> rfl, by rwa [List.append_nil], rfl⟩
  | cons c cs ih =>
    obtain ⟨printable_c, printable_cs⟩ := List.forall_mem_cons.1 printable
    have last {s' s'' : BlockState} (here : s''.inLine = !isBreak c)
        (there : s'.inLine = cs.getLast?.elim s''.inLine fun c => !isBreak c) :
        s'.inLine = (c :: cs).getLast?.elim s.inLine fun c => !isBreak c := by
      rw [there, here, List.getLast?_cons]
      cases cs.getLast? <;> rfl
    obtain ⟨_, no_tab, no_return, _⟩ := isPrintable_iff.1 printable_c
    by_cases is_break : isBreak c = true
    · have after := holds.afterBreak is_break (normalBreak_of_printable printable_c is_break)
        p.column
      have between := s.inLine_afterBreak c p.column
      obtain ⟨s', scans, holds', last'⟩ := ih after printable_cs true between
        (p := p.newline 1) (fun _ => rfl)
      refine ⟨s', ?_, by simpa using holds', last (between.trans (by rw [is_break]; rfl)) last'⟩
      rw [nest_cons_break is_break, List.cons_append, scanBlockLines_break is_break no_return,
        scans, Position.after_cons_break is_break]
    have no_break := Bool.eq_false_iff.2 is_break
    cases atStart with
    | false =>
      obtain ⟨s', scans, holds', last'⟩ := ih (holds.cons start c) printable_cs false
        start (p := p.advance 1) (fun h => by cases h)
      refine ⟨s', ?_, by simpa using holds', last (start.trans (by rw [no_break])) last'⟩
      rw [nest_false_cons no_break, List.cons_append, scanBlockLines_inLine no_break start, scans,
        Position.after_cons no_break]
    | true =>
      have at_column : (p.advance indent).column = indent := by
        simp only [Position.advance, column rfl]
        omega
      have in_line : (s.startLine c).inLine = !isBreak c := by rw [no_break]; rfl
      obtain ⟨s', scans, holds', last'⟩ := ih (holds.startLine c) printable_cs false
        rfl (p := (p.advance indent).advance 1) (fun h => by cases h)
      refine ⟨s', ?_, by simpa using holds', last in_line last'⟩
      rw [nest_true_cons no_break, List.append_assoc, scanBlockLines_spaces start fun q below =>
          (holds.inIndent_iff q).2 (by rw [column rfl] at below; omega),
        nest_false_cons no_break, List.cons_append, scanBlockLines_start no_break no_tab start,
        holds.settle_eq, scans,
        Position.after_append, Position.after_spaces, Position.after_cons no_break]
      · intro inside
        rw [holds.inIndent_iff, at_column] at inside
        omega
      · rw [holds.settle_eq, holds.indent_eq, at_column]

/-- A block whose indentation is found at its first line, which is not empty. -/
theorem scanBlockLines_found {least : Nat} (printable : ∀ d ∈ c :: cs, isPrintable d = true)
    (no_break : isBreak c = false) (no_space : c ≠ ' ') (deep : least ≤ indent)
    (column : p.column = 0) (rest : List Char) :
    ∃ s' : BlockState, scanBlockLines chomping (nest indent true (c :: cs) ++ rest) p
          { literal := true, indent := none, least } =
        scanBlockLines chomping rest (p.after (nest indent true (c :: cs))) s' ∧
      s'.Holds indent (c :: cs) ∧
      s'.inLine = (c :: cs).getLast?.elim false fun c => !isBreak c := by
  obtain ⟨printable_c, printable_cs⟩ := List.forall_mem_cons.1 printable
  have no_tab := (isPrintable_iff.1 printable_c).2.1
  let s : BlockState := { literal := true, indent := none, least }
  have at_column : (p.advance indent).column = indent := by
    simp only [Position.advance, column]
    omega
  have settled : (s.settle (p.advance indent).column).indent = some indent := by
    simp only [BlockState.settle, s, at_column, Option.some.injEq]
    omega
  have holds : ((s.settle (p.advance indent).column).startLine c).Holds indent [c] :=
    ⟨rfl, settled, fun _ => ⟨rfl, rfl⟩, fun between => (by cases between),
      fun others => absurd rfl others, rfl⟩
  obtain ⟨s', scans, holds', last'⟩ := holds.scan chomping printable_cs false rfl
    (p := (p.advance indent).advance 1) (fun h => by cases h) rest
  refine ⟨s', ?_, holds', ?_⟩
  · rw [nest_true_cons no_break, List.append_assoc, scanBlockLines_spaces rfl fun _ _ => rfl,
      nest_false_cons no_break, List.cons_append,
      scanBlockLines_start no_break no_tab rfl (fun _ => no_space), scans,
      Position.after_append, Position.after_spaces, Position.after_cons no_break]
    rw [settled, at_column]
  · rw [last', List.getLast?_cons]
    cases cs.getLast? with
    | none => simp [BlockState.startLine, no_break]
    | some d => rfl

/-- A block ends in front of something further to the left. -/
theorem BlockState.Holds.scan_tail (holds : s.Holds indent read) (chomping : Chomping)
    (between : s.inLine = false) {column : Nat} (begins : BeginsAt column cs)
    (left : column < indent) (at_start : p.column = 0) :
    ∃ rest q, scanBlockLines chomping cs p s =
        some { text := s.finish chomping, rest, pos := q } ∧
      Scanner.skipGap false false true rest q = Scanner.skipGap false false true cs p := by
  rcases begins with ⟨rfl, rfl⟩ | ⟨c, rest, starts, rfl⟩
  · exact ⟨[], p, rfl, rfl⟩
  · obtain ⟨no_blank, no_break, _, _⟩ := isTokenStart_iff.1 starts
    obtain ⟨no_space, no_tab⟩ : c ≠ ' ' ∧ c ≠ '\t' := by simpa [isBlank] using no_blank
    have no_return : c ≠ '\r' := by
      rintro rfl
      cases no_break
    have column_eq : (p.advance column).column = column := by
      simp only [Position.advance, at_start]
      omega
    refine ⟨c :: rest, p.advance column, ?_, (skipGap_spaces column true (c :: rest) p).symm⟩
    rw [scanBlockLines_spaces between fun q below =>
      (holds.inIndent_iff q).2 (by rw [at_start] at below; omega)]
    have outside : indent ≠ column := by omega
    rw [scanBlockLines.eq_3 _ _ _ _ _ (fun _ is_return _ => no_return is_return), no_break, between]
    simp [no_space, no_tab, holds.settle_eq, holds.indent_eq, column_eq, outside]

end Holds

/-! ## Blocks -/

section Block

variable {cs : List Char} {p : Position}

/-- Whether the indentation of a block cannot be told from its first line. -/
def isIndented (cs : List Char) : Bool := cs.head?.any fun c => c == ' ' || isBreak c

/-- The sign for what becomes of the line breaks at the end of a block. -/
def Chomping.sign : Chomping → List Char
  | strip => ['-']
  | clip => []
  | keep => ['+']

theorem literalHints_eq (cs : List Char) :
    literalHints cs = (if isIndented cs then ['2'] else []) ++ (chompingOf cs).sign := by
  unfold literalHints chompingOf
  refine congrArg (List.append _) ?_
  rcases cs.reverse with _ | ⟨c, _ | ⟨d, rest⟩⟩
  · rfl
  · dsimp only
    cases isBreak c <;> rfl
  · dsimp only
    cases isBreak c <;> cases isBreak d <;> rfl

theorem blockIndicators_literalHints (cs lines : List Char) :
    blockIndicators (literalHints cs ++ '\n' :: lines) =
      some (⟨chompingOf cs, if isIndented cs then some 2 else none⟩, '\n' :: lines) := by
  rw [literalHints_eq]
  cases isIndented cs <;> cases chompingOf cs <;> rfl

theorem mem_literalHints {c : Char} (mem : c ∈ literalHints cs) :
    c = '2' ∨ c = '+' ∨ c = '-' := by
  rw [literalHints_eq] at mem
  cases indented : isIndented cs <;> cases chomping : chompingOf cs <;>
    simp [indented, chomping, Chomping.sign] at mem <;> grind

theorem BlockState.Holds.finish_eq {s : BlockState} {indent : Nat} (holds : s.Holds indent cs)
    (keeps_some : chompingOf cs ≠ .strip) : s.finish (chompingOf cs) = cs := by
  have read_eq := holds.read_eq
  unfold BlockState.finish
  cases chomping : chompingOf cs with
  | strip => exact absurd chomping keeps_some
  | keep => exact read_eq
  | clip =>
    have no_others : s.others = [] := by
      by_contra others
      rw [holds.keeps others] at chomping
      cases chomping
    rwa [no_others, List.append_nil] at read_eq

/-- The lines of a block that has just been started. -/
theorem scanBlockLines_text (chomping : Chomping) (printable : ∀ c ∈ cs, isPrintable c = true)
    (ne : cs ≠ []) {indent least : Nat} (deep : least ≤ indent)
    (column : p.column = 0) (rest : List Char) :
    ∃ s' : BlockState, scanBlockLines chomping (nest indent true cs ++ rest) p
          { literal := true, indent := if isIndented cs then some indent else none, least } =
        scanBlockLines chomping rest (p.after (nest indent true cs)) s' ∧
      s'.Holds indent cs ∧ s'.inLine = cs.getLast?.elim false fun c => !isBreak c := by
  cases indented : isIndented cs with
  | true =>
    have holds : ({ literal := true, indent := some indent, least } : BlockState).Holds indent [] :=
      ⟨rfl, rfl, fun h => (by cases h), fun _ => rfl, fun others => absurd rfl others, rfl⟩
    exact holds.scan chomping printable true rfl (fun _ => column) rest
  | false =>
    cases cs with
    | nil => exact absurd rfl ne
    | cons c cs =>
      obtain ⟨no_space, no_break⟩ : c ≠ ' ' ∧ isBreak c = false := by
        simpa [isIndented] using indented
      exact scanBlockLines_found printable no_break no_space deep column rest

theorem nest_append_lineFeed (columns : Nat) (atStart : Bool) (cs : List Char) :
    nest columns atStart (cs ++ ['\n']) = nest columns atStart cs ++ ['\n'] := by
  induction cs generalizing atStart with
  | nil => rfl
  | cons c cs ih => cases atStart <;> by_cases here : isBreak c = true <;> simp [nest, here, ih]

theorem allowsLiteral_iff : allowsLiteral cs = true ↔
    ((∀ c ∈ cs, isPrintable c = true) ∧ hasAdjacent (· == ' ') isBreak cs = false) ∧
      cs.getLast? ≠ some ' ' := by
  unfold allowsLiteral
  rw [Bool.and_eq_true, isWritable_iff, bne_iff_ne]

theorem after_literalHints (cs lines : List Char) : p.after (literalHints cs ++ '\n' :: lines) =
    ((p.advance (literalHints cs).length).newline 1).after lines := by
  have no_break : ∀ c ∈ literalHints cs, isBreak c = false := by
    intro c mem
    rcases mem_literalHints mem with rfl | rfl | rfl <;> rfl
  rw [Position.after_append, Position.after_of_no_break no_break, Position.after_cons_break rfl]

theorem scanBlock_literalHints (parent : Nat) (cs lines : List Char) :
    scanBlock true parent (literalHints cs ++ '\n' :: lines) p =
      scanBlockLines (chompingOf cs) lines ((p.advance (literalHints cs).length).newline 1)
        { literal := true, indent := if isIndented cs then some (parent + 2) else none
          least := parent + 1 } := by
  have hints_length : (literalHints cs ++ '\n' :: lines).length - ('\n' :: lines).length =
      (literalHints cs).length := by
    rw [List.length_append]
    omega
  have least_eq : (max ((parent : Int) + 1) 1).toNat = parent + 1 := by omega
  have line : finishLine ('\n' :: lines) = some ('\n' :: lines) := rfl
  unfold scanBlock
  rw [blockIndicators_literalHints, Option.bind_eq_bind, Option.bind_some]
  dsimp only
  rw [line, Option.bind_eq_bind, Option.bind_some, hints_length, least_eq]
  cases isIndented cs <;> simp

/-- The lines of a text that ends with a line break. -/
theorem scanBlockLines_ended (printable : ∀ c ∈ cs, isPrintable c = true)
    (ends : cs.getLast?.any isBreak = true) {parent column : Nat} {tail : List Char}
    (begins : BeginsAt column tail) (left : column ≤ parent) (at_start : p.column = 0) :
    ∃ rest q, scanBlockLines (chompingOf cs) (nest (parent + 2) true cs ++ tail) p
          { literal := true, indent := if isIndented cs then some (parent + 2) else none
            least := parent + 1 } =
        some { text := cs, rest, pos := q } ∧
      Scanner.skipGap false false true rest q =
        Scanner.skipGap false false true tail (p.after (nest (parent + 2) true cs)) := by
  obtain ⟨c, last, is_break⟩ := (Option.any_eq_true _ _).1 ends
  have ne : cs ≠ [] := by
    rintro rfl
    cases last
  obtain ⟨s, scans, holds, in_line⟩ := scanBlockLines_text (chompingOf cs) printable
    ne (by omega : parent + 1 ≤ parent + 2) at_start tail
  have between : s.inLine = false := by
    rw [in_line, last, Option.elim_some, is_break]
    rfl
  have keeps_some : chompingOf cs ≠ .strip := by
    rw [Ne, chompingOf_eq_strip_iff, ends]
    simp
  have column_eq : (p.after (nest (parent + 2) true cs)).column = 0 :=
    (EndsLine.nest ends _ _).column_after
  obtain ⟨rest, q, tail_scans, skips⟩ := holds.scan_tail (chompingOf cs) between
    begins (by omega) column_eq
  refine ⟨rest, q, ?_, skips⟩
  rw [scans, tail_scans, holds.finish_eq keeps_some]

/-- The lines of a text that does not end with a line break: the one that is added is dropped. -/
theorem scanBlockLines_unended (printable : ∀ c ∈ cs, isPrintable c = true) (ne : cs ≠ [])
    (ends : cs.getLast?.any isBreak = false) {parent column : Nat} {tail : List Char}
    (begins : BeginsAt column tail) (left : column ≤ parent) (at_start : p.column = 0) :
    ∃ rest q, scanBlockLines (chompingOf cs) (nest (parent + 2) true (cs ++ ['\n']) ++ tail) p
          { literal := true, indent := if isIndented cs then some (parent + 2) else none
            least := parent + 1 } =
        some { text := cs, rest, pos := q } ∧
      Scanner.skipGap false false true rest q =
        Scanner.skipGap false false true tail (p.after (nest (parent + 2) true (cs ++ ['\n']))) := by
  have strips : chompingOf cs = .strip := chompingOf_eq_strip_iff.2 ends
  obtain ⟨s, scans, holds, in_line⟩ := scanBlockLines_text (chompingOf cs) printable
    ne (by omega : parent + 1 ≤ parent + 2) at_start ('\n' :: tail)
  have in_line : s.inLine = true := by
    obtain ⟨c, last⟩ := Option.ne_none_iff_exists'.1 (mt List.getLast?_eq_none_iff.1 ne)
    rw [last] at in_line ends
    rw [in_line, Option.elim_some, Bool.not_eq_true']
    exact ends
  obtain ⟨no_first, no_others⟩ := holds.in_line in_line
  have text_eq : s.text.reverse = cs := by
    have read_eq := holds.read_eq
    rwa [no_first, no_others, List.append_nil, List.append_nil] at read_eq
  have after_eq : (p.after (nest (parent + 2) true cs)).newline 1 =
      p.after (nest (parent + 2) true cs ++ ['\n']) := by
    rw [Position.after_append, Position.after_cons_break rfl]
    rfl
  have after := holds.afterBreak (c := '\n') rfl rfl (p.after (nest (parent + 2) true cs)).column
  have line_ends : EndsLine (nest (parent + 2) true cs ++ ['\n']) := EndsLine.append _ rfl
  obtain ⟨rest, q, tail_scans, skips⟩ := after.scan_tail (chompingOf cs)
    (s.inLine_afterBreak _ _) begins (by omega) line_ends.column_after
  rw [nest_append_lineFeed, List.append_assoc, List.singleton_append]
  refine ⟨rest, q, ?_, skips⟩
  rw [scans, scanBlockLines_break rfl (by decide), after_eq, tail_scans]
  unfold BlockState.finish
  rw [strips, List.append_nil, BlockState.text_afterBreak, text_eq]

/-- A block reads back, in front of something that stands at most as far to the right as what is
around the block. -/
theorem scanBlock_literal (printable : ∀ c ∈ cs, isPrintable c = true) (ne : cs ≠ [])
    {parent column : Nat} {tail : List Char} (begins : BeginsAt column tail)
    (left : column ≤ parent) :
    ∃ rest q, scanBlock true parent
          (literalHints cs ++ '\n' :: (nest (parent + 2) true (endLine cs) ++ tail)) p =
        some { text := cs, rest, pos := q } ∧
      Scanner.skipGap false false true rest q = Scanner.skipGap false false true tail
        (p.after (literalHints cs ++ '\n' :: nest (parent + 2) true (endLine cs))) := by
  rw [scanBlock_literalHints, after_literalHints]
  by_cases ends : cs.getLast?.any isBreak = true
  · rw [endLine, if_pos ends]
    exact scanBlockLines_ended printable ends begins left rfl
  · rw [endLine, if_neg ends]
    exact scanBlockLines_unended printable ne (Bool.eq_false_iff.2 ends) begins left rfl

end Block

end MeshRoutes.Yaml
