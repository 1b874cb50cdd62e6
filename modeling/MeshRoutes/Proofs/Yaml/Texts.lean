import MeshRoutes.Proofs.Yaml.Steps
import MeshRoutes.Yaml.Printer

/-!
# Texts as tokens

A text in its form is one token, on lines of its own as well as in front of the colon of a key.

* `Yaml.Scanner.reads_text`: a text on lines of its own.
* `Yaml.Scanner.reads_simpleKey`: a text in front of a colon.
-/

namespace MeshRoutes.Yaml

/-! ## Forms -/

/-- The token of a text in its form. -/
def textToken (s : String) : Token := .scalar s (if Form.of s = .plain then .plain else .quoted)

section Forms

variable {s : String} {c : Char}

theorem allowsPlain_of_form (form : Form.of s = .plain) : allowsPlain s.toList = true := by
  unfold Form.of at form
  grind

theorem readsAsText_of_form (form : Form.of s = .plain) : readsAsText s = true := by
  unfold Form.of at form
  grind

theorem allowsSingleQuoted_of_form (form : Form.of s = .singleQuoted) :
    allowsSingleQuoted s.toList = true ∧ '\n' ∉ s.toList := by
  unfold Form.of at form
  grind

theorem allowsLiteral_of_form (form : Form.of s = .literal) :
    allowsLiteral s.toList = true ∧ '\n' ∈ s.toList := by
  unfold Form.of at form
  grind

theorem allowsSingleQuoted_iff {cs : List Char} : allowsSingleQuoted cs = true ↔
    ((∀ c ∈ cs, isPrintable c = true) ∧ hasAdjacent (· == ' ') isBreak cs = false) ∧
      hasAdjacent isBreak (· == ' ') cs = false := by
  unfold allowsSingleQuoted
  rw [Bool.and_eq_true, isWritable_iff, Bool.not_eq_true']

theorem isTokenStart_of_plain {cs : List Char} (plain : allowsPlain (c :: cs) = true) :
    isTokenStart c = true := by
  obtain ⟨printable, no_break, _, no_space, _, no_mark, _⟩ := allowsPlain_iff.1 plain
  have printable_c := printable c List.mem_cons_self
  refine isTokenStart_iff.2 ⟨?_, no_break c List.mem_cons_self, ?_,
    (isPrintable_iff.1 printable_c).2.2.2.2⟩
  · exact Bool.eq_false_iff.2 fun blank =>
      no_space (congrArg some ((isBlank_of_printable printable_c).1 blank))
  · rintro rfl
    cases no_mark

theorem mem_singleQuoted {cs : List Char} (mem : c ∈ singleQuoted cs) : c = '\'' ∨ c ∈ cs := by
  simp only [singleQuoted, List.cons_append, List.nil_append, List.mem_cons, List.mem_append,
    List.mem_flatMap, List.not_mem_nil, or_false] at mem
  rcases mem with rfl | ⟨d, mem_d, mem⟩ | rfl
  · exact .inl rfl
  · split at mem
    · exact .inl (by simpa using mem)
    · rw [List.mem_singleton.1 mem]
      exact .inr mem_d
  · exact .inl rfl

theorem isVisible_of_mem_doubleQuoted {cs : List Char} (mem : c ∈ doubleQuoted cs) :
    isPrintable c = true ∧ isBreak c = false := by
  simp only [doubleQuoted, List.cons_append, List.nil_append, List.mem_cons, List.mem_append,
    List.mem_flatMap, List.not_mem_nil, or_false] at mem
  rcases mem with rfl | ⟨d, _, mem⟩ | rfl
  · decide
  · exact isVisible_escapeChar mem
  · decide

/-- A text in its form starts like a token. -/
theorem exists_writeText_eq_cons (s : String) :
    ∃ c cs, writeText s = c :: cs ∧ isTokenStart c = true := by
  unfold writeText
  cases form : Form.of s with
  | plain =>
    have plain := allowsPlain_of_form form
    obtain ⟨c, cs, eq⟩ := List.exists_cons_of_ne_nil (allowsPlain_iff.1 plain).2.2.1
    exact ⟨c, cs, eq, isTokenStart_of_plain (eq ▸ plain)⟩
  | singleQuoted => exact ⟨'\'', _, rfl, by decide⟩
  | doubleQuoted => exact ⟨'"', _, rfl, by decide⟩
  | literal => exact ⟨'|', _, rfl, by decide⟩

theorem endLine_append {cs : List Char} (front : List Char) (ne : cs ≠ []) :
    endLine (front ++ cs) = front ++ endLine cs := by
  unfold endLine
  rw [List.getLast?_append_of_ne_nil _ ne]
  split
  · rfl
  · exact List.append_assoc _ _ _

/-- A text whose last line is left open. -/
theorem endLine_writeText (other : Form.of s ≠ .literal) :
    endLine (writeText s) = writeText s ++ ['\n'] := by
  have no_end : (writeText s).getLast?.any isBreak = false := by
    unfold writeText
    cases form : Form.of s with
    | plain =>
      cases last : s.toList.getLast? with
      | none => simp
      | some c =>
        have no_break := (allowsPlain_iff.1 (allowsPlain_of_form form)).2.1
        simpa [last] using no_break c (List.mem_of_getLast? last)
    | singleQuoted =>
      dsimp only
      rw [singleQuoted, List.getLast?_concat]
      rfl
    | doubleQuoted =>
      dsimp only
      rw [doubleQuoted, List.getLast?_concat]
      rfl
    | literal => exact absurd form other
  rw [endLine, no_end]
  rfl

/-! ## Keys -/

theorem length_toList_le_utf8ByteSize (s : String) : s.toList.length ≤ s.utf8ByteSize := by
  have bytes (cs : List Char) : cs.length ≤ (String.ofList cs).utf8ByteSize := by
    induction cs with
    | nil => exact Nat.zero_le _
    | cons c cs ih =>
      have positive := c.utf8Size_pos
      rw [String.ofList_cons, String.utf8ByteSize_append, String.utf8ByteSize_singleton,
        List.length_cons]
      omega
  have := bytes s.toList
  rwa [String.ofList_toList] at this

theorem isSimpleKey_iff : isSimpleKey s = true ↔
    (∀ c ∈ s.toList, isBreak c = false) ∧ s.utf8ByteSize ≤ 128 := by
  simp [isSimpleKey]

theorem not_literal_of_simple (simple : isSimpleKey s = true) : Form.of s ≠ .literal := by
  intro form
  have feed := (isSimpleKey_iff.1 simple).1 '\n' (allowsLiteral_of_form form).2
  cases feed

/-- A key in front of its colon stands on one line. -/
theorem no_break_of_simple (simple : isSimpleKey s = true) :
    ∀ c ∈ writeText s, isBreak c = false := by
  obtain ⟨no_break, _⟩ := isSimpleKey_iff.1 simple
  unfold writeText
  cases form : Form.of s with
  | plain => exact no_break
  | singleQuoted =>
    intro c mem
    rcases mem_singleQuoted mem with rfl | mem
    · rfl
    · exact no_break c mem
  | doubleQuoted => exact fun c mem => (isVisible_of_mem_doubleQuoted mem).2
  | literal => exact absurd form (not_literal_of_simple simple)

theorem length_flatMap_le {f : Char → List Char} {bound : Nat}
    (each : ∀ c, (f c).length ≤ bound) (cs : List Char) :
    (cs.flatMap f).length ≤ bound * cs.length := by
  induction cs with
  | nil => exact Nat.zero_le _
  | cons c cs ih =>
    have here := each c
    rw [List.flatMap_cons, List.length_append, List.length_cons, Nat.mul_succ]
    omega

/-- The colon of a key comes in time. -/
theorem length_writeText_le (simple : isSimpleKey s = true) : (writeText s).length ≤ 1024 := by
  have bytes := length_toList_le_utf8ByteSize s
  have few := (isSimpleKey_iff.1 simple).2
  unfold writeText
  cases form : Form.of s with
  | plain => exact (by omega : s.toList.length ≤ 1024)
  | singleQuoted =>
    have each (c : Char) : (if c == '\'' then ['\'', '\''] else [c]).length ≤ 2 := by
      split <;> simp
    have quotes := length_flatMap_le each s.toList
    simp only [singleQuoted, List.length_append, List.length_singleton]
    omega
  | doubleQuoted =>
    have escapes := length_flatMap_le length_escapeChar_le s.toList
    simp only [doubleQuoted, List.length_append, List.length_singleton]
    omega
  | literal => exact absurd form (not_literal_of_simple simple)

end Forms

namespace Scanner

section Texts

variable {cs rest tail : List Char} {p q : Position} {indent : Int} {outer : List Int}
  {allowed allowed' : Bool} {tokens : List Token} {n column : Nat} {scanned : Scanned}

/-- The note that a key may start at a position. -/
def noted (allowed : Bool) (tokens : List Token) (p : Position) (indent : Int) :
    Option PendingKey :=
  if allowed then some ⟨tokens.length, p, indent == p.column⟩ else none

theorem savePending_outside : (outside cs p indent outer allowed none tokens).savePending =
    some (outside cs p indent outer allowed (noted allowed tokens p indent) tokens) := by
  cases allowed <;> simp [savePending, outside, noted, dropPending, pending, setPending,
    Scanner.column]

theorem plainText_outside
    (scans : scanPlain false (indent + 1).toNat cs p [] {} false = some scanned) :
    (outside cs p indent outer allowed none tokens).plainText =
      some (outside scanned.rest scanned.pos indent outer scanned.broken
        (noted allowed tokens p indent)
        (tokens ++ [.scalar (String.ofList scanned.text) .plain])) := by
  unfold plainText
  rw [savePending_outside, Option.bind_eq_bind, Option.bind_some]
  have scans' : scanPlain
      ((outside cs p indent outer allowed (noted allowed tokens p indent) tokens).flow != 0)
      ((outside cs p indent outer allowed (noted allowed tokens p indent) tokens).indent + 1).toNat
      (outside cs p indent outer allowed (noted allowed tokens p indent) tokens).rest
      (outside cs p indent outer allowed (noted allowed tokens p indent) tokens).pos [] {} false =
      some scanned := scans
  rw [scans', Option.bind_eq_bind, Option.bind_some, ← push_outside]
  rfl

theorem quotedText_outside (single : Bool) {quote : Char}
    (scans : (if single then scanSingleQuoted cs (p.advance 1) [] {}
      else scanDoubleQuoted cs (p.advance 1) [] {}) = some scanned) :
    (outside (quote :: cs) p indent outer allowed none tokens).quotedText single =
      some (outside scanned.rest scanned.pos indent outer false (noted allowed tokens p indent)
        (tokens ++ [.scalar (String.ofList scanned.text) .quoted])) := by
  unfold quotedText
  rw [savePending_outside, Option.bind_eq_bind, Option.bind_some, ← push_outside]
  cases single
  all_goals
    simp only [Bool.false_eq_true, if_false, if_true, Option.bind_eq_bind] at scans ⊢
    have drop : List.drop 1 (quote :: cs) = cs := rfl
    simp only [outside, drop, scans, Option.bind_some]
    rfl

theorem blockText_outside {mark : Char}
    (scans : scanBlock true indent cs (p.advance 1) = some scanned) :
    (outside (mark :: cs) p indent outer allowed none tokens).blockText true =
      some (outside scanned.rest scanned.pos indent outer true none
        (tokens ++ [.scalar (String.ofList scanned.text) .quoted])) := by
  unfold blockText
  have dropped : (outside (mark :: cs) p indent outer allowed none tokens).dropPending =
      some (outside (mark :: cs) p indent outer allowed none tokens) := rfl
  have drop : List.drop 1 (mark :: cs) = cs := rfl
  rw [dropped, Option.bind_eq_bind, Option.bind_some, ← push_outside]
  simp only [outside, drop, scans, Option.bind_eq_bind, Option.bind_some]
  rfl

/-! ## Plain texts -/

theorem atDocumentMark_of_plain (no_mark : startsWithMark cs = false) (ne : cs ≠ [])
    (ends : rest.head? = some '\n' ∨ rest.head? = some ':') :
    atDocumentMark (cs ++ rest) = false := by
  obtain ⟨d, rest, rfl, no_dash, no_dot⟩ : ∃ d ds, rest = d :: ds ∧ d ≠ '-' ∧ d ≠ '.' := by
    cases rest with
    | nil => simp at ends
    | cons d rest =>
      refine ⟨d, rest, rfl, ?_⟩
      rcases ends with feed | colon
      · cases feed
        decide
      · cases colon
        decide
  rcases cs with _ | ⟨a, _ | ⟨b, _ | ⟨c, cs⟩⟩⟩
  · exact absurd rfl ne
  all_goals
    unfold atDocumentMark
    split
    all_goals simp_all [startsWithMark]

/-- The first character of a text that is written as it is. -/
theorem not_mark_of_plain {c : Char} (no_mark : startsWithMark (c :: cs) = false) :
    c ∉ "#,[]\x7b\x7d&*!|>'\"%@`".toList := by
  intro mark
  have other : c ≠ '-' ∧ c ≠ '.' ∧ c ≠ '?' := by
    refine ⟨?_, ?_, ?_⟩ <;> rintro rfl <;> revert mark <;> decide
  rw [startsWithMark.eq_5 _ _ (fun _ h _ => other.1 h) (fun _ h _ => other.2.1 h) other.1
    other.2.2] at no_mark
  exact absurd (List.contains_iff_mem.2 mark) (Bool.eq_false_iff.1 no_mark)

/-- A dash, a question mark or a colon at the start of such a text is no mark of its own. -/
theorem atBlankOrEnd_of_plain {c : Char} (plain : allowsPlain (c :: cs) = true)
    (special : c = '-' ∨ c = '?' ∨ c = ':') (rest : List Char) :
    atBlankOrEnd (cs ++ rest) = false := by
  obtain ⟨_, _, _, _, _, no_mark, no_inner⟩ := allowsPlain_iff.1 plain
  have no_end : atBlankOrEnd cs = false := by
    rcases special with rfl | rfl | rfl
    · unfold startsWithMark at no_mark
      grind
    · simpa [startsWithMark] using no_mark
    · rw [containsMark, Bool.or_eq_false_iff, Bool.or_eq_false_iff] at no_inner
      simpa using no_inner.1.1
  rw [atBlankOrEnd_append, no_end]
  rintro rfl
  cases no_end

theorem startsPlain_of_plain {c : Char} (plain : allowsPlain (c :: cs) = true)
    (rest : List Char) : startsPlain false c (cs ++ rest) = true := by
  obtain ⟨printable, no_break, _, no_space, _, no_mark, _⟩ := allowsPlain_iff.1 plain
  unfold startsPlain
  by_cases special : c = '-' ∨ c = '?' ∨ c = ':'
  · have no_end := atBlankOrEnd_of_plain plain special rest
    rcases special with rfl | rfl | rfl
    · cases behind : cs ++ rest with
      | nil => rfl
      | cons d ds =>
        rw [behind, atBlankOrEnd, Bool.or_eq_false_iff] at no_end
        simp [no_end.1]
    · simp [no_end]
    · simp [no_end]
  · have no_blank : isBlank c = false := Bool.eq_false_iff.2 fun blank => no_space
      (congrArg some ((isBlank_of_printable (printable c List.mem_cons_self)).1 blank))
    have marks := not_mark_of_plain no_mark
    simp only [String.reduceToList, List.mem_cons, List.not_mem_nil, or_false, not_or]
      at marks special
    simp [no_blank, no_break c List.mem_cons_self, marks, special]

/-- A text that is written as it is, in front of its end. -/
theorem token_plain (plain : allowsPlain cs = true)
    (ends : rest.head? = some '\n' ∨ rest.head? = some ':') :
    (outside (cs ++ rest) p indent outer allowed none tokens).token =
      (outside (cs ++ rest) p indent outer allowed none tokens).plainText := by
  obtain ⟨_, _, ne, _, _, no_mark, _⟩ := allowsPlain_iff.1 plain
  have no_document := atDocumentMark_of_plain no_mark ne ends
  obtain ⟨c, cs, rfl⟩ := List.exists_cons_of_ne_nil ne
  have starts := startsPlain_of_plain plain rest
  have marks := not_mark_of_plain no_mark
  simp only [String.reduceToList, List.mem_cons, List.not_mem_nil, or_false, not_or] at marks
  have not_special (d : Char) (special : d = '-' ∨ d = '?' ∨ d = ':') :
      ¬(c = d ∧ atBlankOrEnd (cs ++ rest) = true) := by
    rintro ⟨rfl, ends⟩
    rw [atBlankOrEnd_of_plain plain special rest] at ends
    cases ends
  have not_dash := not_special '-' (by simp)
  have not_question := not_special '?' (by simp)
  have not_colon := not_special ':' (by simp)
  rw [List.cons_append] at no_document ⊢
  unfold token
  simp [outside, no_document, starts, marks, not_dash, not_question, not_colon]

/-! ## Texts on lines of their own -/

/-- A token at the end of its line. The key that it might have been is given up. -/
theorem Reads.of_line {s : Scanner} {token : Token} {front : List Token} {p' : Position}
    (step : s.next? = some
      (outside rest q indent outer allowed' (noted allowed front p indent) (tokens ++ [token])))
    (goes_on : token ≠ .streamEnd)
    (gap : skipGap false false allowed' rest q = skipGap false false true tail p')
    (right : indent < p.column) (later : p.line < p'.line) (shorter : tail.length < s.rest.length) :
    Reads s (outside tail p' indent outer true none (tokens ++ [token])) := by
  refine Reads.of_step step (not_ended goes_on) ((toToken_congr gap).trans ?_) shorter
  unfold noted
  cases allowed with
  | false => rfl
  | true => exact toToken_stale later (by simp; omega)

/-- A text that is written as it is, whatever its value. -/
theorem reads_plain (plain : allowsPlain cs = true) (right : n < p.column)
    (begins : BeginsAt column tail) (left : column ≤ n) :
    Reads (outside (cs ++ '\n' :: tail) p n outer allowed none tokens)
      (outside tail (p.after (cs ++ ['\n'])) n outer true none
        (tokens ++ [.scalar (String.ofList cs) .plain])) := by
  obtain ⟨rest, q, scans, gap⟩ :=
    scanPlain_line (p := p) plain (by omega) begins (by omega : column < n + 1)
  obtain ⟨c, cs', eq⟩ := List.exists_cons_of_ne_nil (allowsPlain_iff.1 plain).2.2.1
  have starts : isTokenStart c = true := isTokenStart_of_plain (eq ▸ plain)
  have step : (outside (cs ++ '\n' :: tail) p n outer allowed none tokens).next? =
      some (outside rest q n outer true (noted allowed tokens p n)
        (tokens ++ [.scalar (String.ofList cs) .plain])) := by
    have read : (outside (cs ++ '\n' :: tail) p n outer allowed none tokens).next? =
        (outside (cs ++ '\n' :: tail) p n outer allowed none tokens).token := by
      rw [eq]
      exact next?_outside starts (by omega) rfl
    have scans : scanPlain false ((n : Int) + 1).toNat (cs ++ '\n' :: tail) p [] {} false =
        some ⟨cs, rest, q, true⟩ := scans
    rw [read, token_plain plain (.inl rfl)]
    exact plainText_outside scans
  exact Reads.of_line step (by simp) gap (by omega) (EndsLine.line_lt (EndsLine.append cs rfl))
    (by simp [outside]; omega)

theorem token_singleQuote : (outside ('\'' :: cs) p indent outer allowed none tokens).token =
    (outside ('\'' :: cs) p indent outer allowed none tokens).quotedText true := by
  simp [token, outside, atDocumentMark]

theorem token_doubleQuote : (outside ('"' :: cs) p indent outer allowed none tokens).token =
    (outside ('"' :: cs) p indent outer allowed none tokens).quotedText false := by
  simp [token, outside, atDocumentMark]

theorem token_bar : (outside ('|' :: cs) p indent outer allowed none tokens).token =
    (outside ('|' :: cs) p indent outer allowed none tokens).blockText true := by
  simp [token, outside, atDocumentMark]

/-- A text between quotes. -/
theorem next?_quoted {s : String} (quoted : Form.of s = .singleQuoted ∨ Form.of s = .doubleQuoted)
    (inside : indent ≤ p.column) {columns : Nat} (moved : columns ≠ 0)
    (closed : rest.head? ≠ some '\'') :
    (outside (nest columns false (writeText s) ++ rest) p indent outer allowed none tokens).next? =
      some (outside rest (p.after (nest columns false (writeText s))) indent outer false
        (noted allowed tokens p indent) (tokens ++ [textToken s])) := by
  have token_eq : textToken s = .scalar (String.ofList s.toList) .quoted := by
    rw [String.ofList_toList]
    unfold textToken
    rcases quoted with form | form <;> rw [form] <;> rfl
  rw [token_eq]
  unfold writeText
  rcases quoted with form | form
  · obtain ⟨allows, no_feed⟩ := allowsSingleQuoted_of_form form
    obtain ⟨⟨printable, spaces⟩, breaks⟩ := allowsSingleQuoted_iff.1 allows
    have scans : scanSingleQuoted (nest columns false (doubleQuotes s.toList ++ ['\'']) ++ rest)
        (p.advance 1) [] {} = some { text := [].reverse ++ (({} : Gap).text ++ s.toList), rest
                                     pos := (p.advance 1).after
                                       (nest columns false (doubleQuotes s.toList ++ ['\''])) } :=
      scanSingleQuoted_nest printable no_feed spaces breaks (by simp) (by simp [Gap.Faithful])
        (by simp) moved (by simp [Position.advance]) closed
    have written : nest columns false (singleQuoted s.toList) =
        '\'' :: nest columns false (doubleQuotes s.toList ++ ['\'']) := nest_false_cons rfl _
    rw [form]
    dsimp only
    rw [written, List.cons_append, next?_outside (by decide) inside rfl, token_singleQuote,
      quotedText_outside true scans, Position.after_cons rfl]
    rfl
  · have scans : scanDoubleQuoted (s.toList.flatMap escapeChar ++ '"' :: rest) (p.advance 1) [] {} =
        some { text := [].reverse ++ (({} : Gap).text ++ s.toList), rest
               pos := (p.advance 1).advance ((s.toList.flatMap escapeChar).length + 1) } :=
      scanDoubleQuoted_escape rfl (by simp [Position.advance])
    have no_break : ∀ c ∈ s.toList.flatMap escapeChar ++ ['"'], isBreak c = false :=
      fun c mem => (isVisible_of_mem_doubleQuoted (List.mem_cons_of_mem '"' mem)).2
    have written : nest columns false (doubleQuoted s.toList) =
        '"' :: (s.toList.flatMap escapeChar ++ ['"']) :=
      (nest_false_cons rfl _).trans (congrArg _ (nest_of_no_break no_break))
    rw [form]
    dsimp only
    rw [written, List.cons_append, List.append_assoc, next?_outside (by decide) inside rfl,
      token_doubleQuote, List.singleton_append, quotedText_outside false scans,
      Position.after_cons rfl, Position.after_of_no_break no_break, List.length_append]
    rfl

theorem reads_quoted {s : String} (quoted : Form.of s = .singleQuoted ∨ Form.of s = .doubleQuoted)
    (right : n < p.column) :
    Reads (outside (nest (n + 2) false (writeText s) ++ '\n' :: tail) p n outer allowed none tokens)
      (outside tail (p.after (nest (n + 2) false (writeText s) ++ ['\n'])) n outer true none
        (tokens ++ [textToken s])) := by
  have step : (outside (nest (n + 2) false (writeText s) ++ '\n' :: tail) p n outer allowed none
      tokens).next? = some (outside ('\n' :: tail) (p.after (nest (n + 2) false (writeText s))) n
        outer false (noted allowed tokens p n) (tokens ++ [textToken s])) :=
    next?_quoted quoted (by omega) (Nat.succ_ne_zero (n + 1)) (by simp)
  refine Reads.of_line step (by simp [textToken]) ?_ (by omega)
    (EndsLine.line_lt (EndsLine.append _ rfl)) (by simp [outside]; omega)
  rw [skipGap_lineFeed, Position.after_append]
  rfl

theorem reads_literal {s : String} (form : Form.of s = .literal) (right : n < p.column)
    (begins : BeginsAt column tail) (left : column ≤ n) :
    Reads (outside (nest (n + 2) false (endLine (writeText s)) ++ tail) p n outer allowed none
        tokens)
      (outside tail (p.after (nest (n + 2) false (endLine (writeText s)))) n outer true none
        (tokens ++ [textToken s])) := by
  obtain ⟨allows, feed⟩ := allowsLiteral_of_form form
  obtain ⟨⟨printable, _⟩, _⟩ := allowsLiteral_iff.1 allows
  have ne := List.ne_nil_of_mem feed
  obtain ⟨rest, q, scans, gap⟩ :=
    scanBlock_literal (p := p.advance 1) printable ne begins left
  have token_eq : textToken s = .scalar (String.ofList s.toList) .quoted := by
    rw [String.ofList_toList]
    unfold textToken
    rw [form]
    rfl
  have no_break : ∀ c ∈ '|' :: literalHints s.toList, isBreak c = false := by
    intro c mem
    rcases List.mem_cons.1 mem with rfl | mem
    · rfl
    · rcases mem_literalHints mem with rfl | rfl | rfl <;> rfl
  have written : nest (n + 2) false (endLine (writeText s)) = '|' :: (literalHints s.toList ++
      '\n' :: nest (n + 2) true (endLine s.toList)) := by
    have text_eq : writeText s = ('|' :: literalHints s.toList ++ ['\n']) ++ s.toList := by
      unfold writeText
      rw [form]
      rfl
    have ends : EndsLine ('|' :: literalHints s.toList ++ ['\n']) := EndsLine.append _ rfl
    rw [text_eq, endLine_append _ ne, nest_append_of_endsLine ends,
      nest_append_of_no_break no_break, List.append_assoc]
    rfl
  rw [written, token_eq, List.cons_append, List.append_assoc, Position.after_cons rfl]
  refine Reads.of_step ?_ (not_ended (by simp)) (toToken_congr gap)
    (by simp only [outside, List.length_cons, List.length_append]; omega)
  rw [next?_outside (by decide) (by omega) rfl, token_bar]
  exact blockText_outside scans

/-- A text in its form. -/
theorem reads_text (s : String) (right : n < p.column) (begins : BeginsAt column tail)
    (left : column ≤ n) :
    Reads (outside (nest (n + 2) false (endLine (writeText s)) ++ tail) p n outer allowed none
        tokens)
      (outside tail (p.after (nest (n + 2) false (endLine (writeText s)))) n outer true none
        (tokens ++ [textToken s])) := by
  cases form : Form.of s with
  | literal => exact reads_literal form right begins left
  | plain =>
    have plain := allowsPlain_of_form form
    have no_break := (allowsPlain_iff.1 plain).2.1
    have written : writeText s = s.toList := by
      unfold writeText
      rw [form]
    have token_eq : textToken s = .scalar (String.ofList s.toList) .plain := by
      rw [String.ofList_toList]
      unfold textToken
      rw [form]
      rfl
    rw [endLine_writeText (by simp [form]), nest_append_lineFeed, written,
      nest_of_no_break no_break, token_eq, List.append_assoc]
    exact reads_plain plain right begins left
  | singleQuoted | doubleQuoted =>
    rw [endLine_writeText (by simp [form]), nest_append_lineFeed, List.append_assoc]
    exact reads_quoted (by simp [form]) right

/-! ## Texts in front of a colon -/

theorem next?_plain_key {s : String} (form : Form.of s = .plain) (inside : indent ≤ p.column)
    (ends : atBlankOrEnd rest = true) :
    (outside (writeText s ++ ':' :: rest) p indent outer allowed none tokens).next? =
      some (outside (':' :: rest) (p.after (writeText s)) indent outer false
        (noted allowed tokens p indent) (tokens ++ [textToken s])) := by
  have plain := allowsPlain_of_form form
  obtain ⟨c, cs, eq, starts⟩ := exists_writeText_eq_cons s
  have written : writeText s = s.toList := by
    unfold writeText
    rw [form]
  have token_eq : textToken s = .scalar (String.ofList s.toList) .plain := by
    rw [String.ofList_toList]
    unfold textToken
    rw [form]
    rfl
  have read : (outside (writeText s ++ ':' :: rest) p indent outer allowed none tokens).next? =
      (outside (writeText s ++ ':' :: rest) p indent outer allowed none tokens).token := by
    rw [eq]
    exact next?_outside starts inside rfl
  have scans : scanPlain false (indent + 1).toNat (s.toList ++ ':' :: rest) p [] {} false =
      some ⟨s.toList, ':' :: rest, p.after s.toList, false⟩ :=
    scanPlain_key plain (by omega) ends
  rw [read, written, token_plain plain (.inr rfl), token_eq]
  exact plainText_outside scans

/-- A key with its colon. -/
theorem reads_simpleKey {s : String} (simple : isSimpleKey s = true) (inside : indent ≤ p.column)
    {c : Char} (ends : isBlank c = true ∨ isBreak c = true) :
    Reads (outside (writeText s ++ ':' :: c :: cs) p indent outer true none tokens)
      (outside (c :: cs) ((p.after (writeText s)).advance 1) p.column
        (around indent outer p.column) false none
        (tokens ++ opening indent p.column .blockMappingStart ++ [.key, textToken s, .value])) := by
  have no_break := no_break_of_simple simple
  have ends : atBlankOrEnd (c :: cs) = true := by simpa [atBlankOrEnd] using ends
  have text : (outside (writeText s ++ ':' :: c :: cs) p indent outer true none tokens).next? =
      some (outside (':' :: c :: cs) (p.after (writeText s)) indent outer false
        (noted true tokens p indent) (tokens ++ [textToken s])) := by
    have quoted (form : Form.of s = .singleQuoted ∨ Form.of s = .doubleQuoted) :
        (outside (writeText s ++ ':' :: c :: cs) p indent outer true none tokens).next? =
          some (outside (':' :: c :: cs) (p.after (writeText s)) indent outer false
            (noted true tokens p indent) (tokens ++ [textToken s])) := by
      have moved : nest 1 false (writeText s) = writeText s := nest_of_no_break no_break
      rw [← moved]
      exact next?_quoted form inside Nat.one_ne_zero (by simp)
    cases form : Form.of s with
    | plain => exact next?_plain_key form inside ends
    | singleQuoted => exact quoted (.inl form)
    | doubleQuoted => exact quoted (.inr form)
    | literal => exact absurd form (not_literal_of_simple simple)
  obtain ⟨_, _, written, _⟩ := exists_writeText_eq_cons s
  have position := Position.after_of_no_break (p := p) no_break
  have short := length_writeText_le simple
  refine Reads.trans (Reads.of_step text (not_ended (by simp [textToken])) rfl ?_) ?_
  · simp only [outside, written, List.length_append, List.length_cons]
    omega
  · have late : isLate ⟨tokens.length, p, indent == p.column⟩ (p.after (writeText s)) = false := by
      simp only [isLate, position, Position.advance, Nat.lt_irrefl, decide_false, Bool.false_or,
        decide_eq_false_iff_not]
      omega
    have behind : p.column ≤ (p.after (writeText s)).column := by
      simp [position, Position.advance]
    simpa [noted] using reads_colon_of_pending ⟨tokens.length, p, indent == p.column⟩ tokens
      [textToken s] rfl ends inside behind late

end Texts

end Scanner

end MeshRoutes.Yaml
