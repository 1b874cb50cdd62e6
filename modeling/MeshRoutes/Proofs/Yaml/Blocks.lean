import MeshRoutes.Proofs.Yaml.Integers
import MeshRoutes.Proofs.Yaml.Texts

/-!
# Documents as tokens

The lines of a document are read as its tokens, wherever the lines stand: a collection is a chunk
of entries, each of which starts at the column of the collection and ends its line.

* `Json.IsWritable`: documents of numbers that a value can hold, nested up to some depth.
* `Yaml.nodeTokens`: the tokens of a document.
* `Yaml.ReadsEntries`: lines that are read as entries of a collection.
* `Yaml.readsDocument`: the lines of a document, behind a dash and behind a key.
-/

namespace MeshRoutes

/-- Whether the collections of a document nest at most so deep, its numbers are whole and fit in 64
bits, and no object has a name twice. -/
inductive Json.IsWritable : Nat → Json → Prop
  | null (depth : Nat) : IsWritable depth .null
  | bool (depth : Nat) (b : Bool) : IsWritable depth (.bool b)
  | int (depth : Nat) (n : Int) (fits : Yaml.Value.intRange n = .word) : IsWritable depth (.int n)
  | str (depth : Nat) (s : String) : IsWritable depth (.str s)
  | arr (depth : Nat) (items : List Json) (each : ∀ item ∈ items, IsWritable depth item) :
    IsWritable (depth + 1) (.arr items)
  | obj (depth : Nat) (fields : List (String × Json)) (distinct : (fields.map (·.1)).Nodup)
    (each : ∀ field ∈ fields, IsWritable depth field.2) : IsWritable (depth + 1) (.obj fields)

namespace Yaml

/-! ## Tokens of documents -/

mutual

/-- The tokens of a document. -/
def nodeTokens : Json → List Token
  | .null => [.scalar "null" .plain]
  | .bool b => [.scalar (if b then "true" else "false") .plain]
  | .int n => [.scalar (Text.intText n) .plain]
  | .decimal x => [.scalar x.toText .plain]
  | .str s => [textToken s]
  | .arr [] => [.flowSequenceStart, .flowSequenceEnd]
  | .arr (item :: items) => .blockSequenceStart :: itemTokens (item :: items) ++ [.blockEnd]
  | .obj [] => [.flowMappingStart, .flowMappingEnd]
  | .obj (field :: fields) => .blockMappingStart :: fieldTokens (field :: fields) ++ [.blockEnd]

/-- The tokens of the elements of a sequence. -/
def itemTokens : List Json → List Token
  | [] => []
  | item :: items => .blockEntry :: nodeTokens item ++ itemTokens items

/-- The tokens of the fields of a mapping. The elements below a key that stands in front of its
colon have no indentation of their own. -/
def fieldTokens : List (String × Json) → List Token
  | [] => []
  | (name, value) :: fields =>
    let valueTokens := nodeTokens value
    .key :: textToken name :: .value ::
      (if isSimpleKey name then
        match value with
        | .arr (item :: items) => itemTokens (item :: items)
        | _ => valueTokens
      else valueTokens) ++ fieldTokens fields

end

/-- The lines of a value below or behind its key. -/
def keyed (value : Json) : List Char :=
  match value with
  | .arr (_ :: _) => '\n' :: block value
  | .obj (_ :: _) => '\n' :: nest 2 true (block value)
  | _ => ' ' :: nest 2 false (block value)

/-- The tokens of a value below or behind its key. -/
def keyedTokens : Json → List Token
  | .arr (item :: items) => itemTokens (item :: items)
  | value => nodeTokens value

/-- The lines of a field. -/
def fieldLines (name : String) (value : Json) : List Char :=
  if isSimpleKey name then writeText name ++ ':' :: keyed value
  else '?' :: ' ' :: (nest 2 false (endLine (writeText name)) ++
    ':' :: ' ' :: nest 2 false (block value))

section Equations

variable {name : String} {value item : Json} {items : List Json} {fields : List (String × Json)}

theorem blockItems_cons :
    blockItems (item :: items) = ('-' :: ' ' :: nest 2 false (block item)) ++ blockItems items :=
  rfl

theorem blockFields_cons :
    blockFields ((name, value) :: fields) = fieldLines name value ++ blockFields fields := by
  unfold fieldLines keyed
  cases simple : isSimpleKey name <;> rcases value with _ | _ | _ | _ | _ | (_ | _) | (_ | _) <;>
    simp [blockFields, simple]

theorem fieldTokens_cons : fieldTokens ((name, value) :: fields) = .key :: textToken name ::
    .value :: (if isSimpleKey name then keyedTokens value else nodeTokens value) ++
      fieldTokens fields := by
  rcases value with _ | _ | _ | _ | _ | (_ | _) | (_ | _) <;> rfl

theorem fieldTokens_cons_eq_append (field : String × Json) (fields : List (String × Json)) :
    fieldTokens (field :: fields) = fieldTokens [field] ++ fieldTokens fields := by
  have first : fieldTokens [field] = _ := fieldTokens_cons
  rw [fieldTokens_cons, first, fieldTokens, List.append_nil]

end Equations

/-! ## Chunks of entries -/

/-- Whether a token starts at the front. -/
def StartsToken (cs : List Char) : Prop := ∃ c rest, isTokenStart c = true ∧ cs = c :: rest

section StartsToken

variable {cs front back : List Char}

theorem StartsToken.append (starts : StartsToken front) (back : List Char) :
    StartsToken (front ++ back) := by
  obtain ⟨c, rest, starts, rfl⟩ := starts
  exact ⟨c, rest ++ back, starts, rfl⟩

theorem StartsToken.nest_true (starts : StartsToken cs) (columns : Nat) :
    nest columns true cs = List.replicate columns ' ' ++ nest columns false cs := by
  obtain ⟨c, rest, starts, rfl⟩ := starts
  exact nest_true_cons (isTokenStart_iff.1 starts).2.1 rest

theorem StartsToken.beginsAt (starts : StartsToken cs) (columns : Nat) (tail : List Char) :
    BeginsAt columns (nest columns true cs ++ tail) := by
  have moved := starts.nest_true columns
  obtain ⟨c, rest, starts, rfl⟩ := starts
  refine .inr ⟨c, nest columns false rest ++ tail, starts, ?_⟩
  rw [moved, nest_false_cons (isTokenStart_iff.1 starts).2.1, List.append_assoc]
  rfl

theorem startsToken_fieldLines (name : String) (value : Json) :
    StartsToken (fieldLines name value) := by
  obtain ⟨c, cs, written, starts⟩ := exists_writeText_eq_cons name
  unfold fieldLines
  split
  · rw [written]
    exact ⟨c, _, starts, rfl⟩
  · exact ⟨'?', _, by decide, rfl⟩

end StartsToken

open Scanner

/-- Lines that are read as entries of a collection, whose first entry opens it, in front of anything
that stands at most as far to the right. -/
structure ReadsEntries (start : Token) (lines : List Char) (read : List Token) : Prop where
  starts : StartsToken lines
  ends : EndsLine lines
  reads : ∀ (p : Position) (indent : Int) (outer : List Int) (tokens : List Token) {column : Nat}
    {tail : List Char}, indent ≤ p.column → BeginsAt column tail → column ≤ p.column →
    Reads (outside (nest p.column false lines ++ tail) p indent outer true none tokens)
      (outside tail (p.after (nest p.column false lines)) p.column (around indent outer p.column)
        true none (tokens ++ opening indent p.column start ++ read))

section ReadsEntries

variable {start : Token} {lines more tail : List Char} {read read' tokens : List Token}
  {p : Position} {outer : List Int} {allowed : Bool} {n column : Nat}

@[simp] theorem opening_self (column : Nat) (start : Token) : opening column column start = [] :=
  if_neg (Int.lt_irrefl _)

@[simp] theorem around_self (column : Nat) (outer : List Int) :
    around column outer column = outer :=
  if_neg (Int.lt_irrefl _)

/-- Entries at the column of the collection they are in. -/
theorem ReadsEntries.goes_on (entries : ReadsEntries start lines read) (at_start : p.column = 0)
    (begins : BeginsAt column tail) (left : column ≤ n) :
    Reads (outside (nest n true lines ++ tail) p n outer true none tokens)
      (outside tail (p.after (nest n true lines)) n outer true none (tokens ++ read)) := by
  have column_eq : (p.advance n).column = n := by
    simp only [Position.advance, at_start, Nat.zero_add]
  have here : Reads (outside (nest n true lines ++ tail) p n outer true none tokens)
      (outside (nest n false lines ++ tail) (p.advance n) n outer true none tokens) := by
    rw [entries.starts.nest_true, List.append_assoc]
    exact Reads.of_toToken_eq (toToken_spaces n) (by simp [outside])
  have read := entries.reads (p.advance n) n outer tokens (by omega) begins
    (by rwa [column_eq])
  rw [column_eq, opening_self, around_self, List.append_nil] at read
  rw [entries.starts.nest_true, Position.after_append, Position.after_spaces,
    ← entries.starts.nest_true]
  exact here.trans read

/-- Entries in front of further ones. -/
theorem ReadsEntries.append (entries : ReadsEntries start lines read)
    (later : ReadsEntries start more read') :
    ReadsEntries start (lines ++ more) (read ++ read') where
  starts := entries.starts.append more
  ends := later.ends.append lines
  reads := by
    intro p indent outer tokens column tail inside begins left
    have at_start : (p.after (nest p.column false lines)).column = 0 :=
      (entries.ends.nest p.column false).column_after
    rw [nest_append_of_endsLine entries.ends, List.append_assoc, Position.after_append,
      ← List.append_assoc _ read read']
    exact (entries.reads p indent outer tokens inside (later.starts.beginsAt p.column tail)
      (Nat.le_refl _)).trans (later.goes_on at_start begins left)

/-- Entries to the right of the collection around them, which are a collection of their own. -/
theorem ReadsEntries.nested (entries : ReadsEntries start lines read) (column_eq : p.column = n + 2)
    (begins : BeginsAt column tail) (left : column ≤ n) :
    Reads (outside (nest (n + 2) false lines ++ tail) p n outer true none tokens)
      (outside tail (p.after (nest (n + 2) false lines)) n outer true none
        (tokens ++ (start :: read ++ [.blockEnd]))) := by
  have right : (n : Int) < (p.column : Nat) := by omega
  have read := entries.reads p n outer tokens (by omega) begins (by omega)
  rw [column_eq, opening, if_pos (by omega), around, if_pos (by omega)] at read
  have at_start : (p.after (nest (n + 2) false lines)).column = 0 :=
    (entries.ends.nest (n + 2) false).column_after
  refine read.trans (Reads.of_toToken_eq ?_ (Nat.le_refl _))
  rw [toToken_close begins at_start (by omega), List.append_assoc, List.append_assoc]
  rfl

end ReadsEntries

/-! ## Documents -/

/-- Lines that are read as the tokens of their document, behind a dash as well as behind a key and
its colon. -/
structure ReadsDocument (doc : Json) : Prop where
  ends : EndsLine (block doc)
  behind_dash : ∀ (p : Position) (n : Nat) (outer : List Int) (tokens : List Token) {column : Nat}
    {tail : List Char}, p.column = n + 2 → BeginsAt column tail → column ≤ n →
    Reads (outside (nest (n + 2) false (block doc) ++ tail) p n outer true none tokens)
      (outside tail (p.after (nest (n + 2) false (block doc))) n outer true none
        (tokens ++ nodeTokens doc))
  behind_key : ∀ (p : Position) (n : Nat) (outer : List Int) (tokens : List Token) {column : Nat}
    {tail : List Char}, n < p.column → BeginsAt column tail → column ≤ n →
    Reads (outside (nest n false (keyed doc) ++ tail) p n outer false none tokens)
      (outside tail (p.after (nest n false (keyed doc))) n outer true none
        (tokens ++ keyedTokens doc))

/-- Lines that need not be told where they stand. -/
theorem ReadsDocument.of_leaf {doc : Json} (ends : EndsLine (block doc))
    (keyed_eq : keyed doc = ' ' :: nest 2 false (block doc))
    (keyedTokens_eq : keyedTokens doc = nodeTokens doc)
    (reads : ∀ (p : Position) (n : Nat) (outer : List Int) (allowed : Bool) (tokens : List Token)
      {column : Nat} {tail : List Char}, n < p.column → BeginsAt column tail → column ≤ n →
      Reads (outside (nest (n + 2) false (block doc) ++ tail) p n outer allowed none tokens)
        (outside tail (p.after (nest (n + 2) false (block doc))) n outer true none
          (tokens ++ nodeTokens doc))) : ReadsDocument doc where
  ends := ends
  behind_dash := fun p n outer tokens _ _ column_eq begins left =>
    reads p n outer true tokens (by omega) begins left
  behind_key := by
    intro p n outer tokens column tail right begins left
    rw [keyed_eq, keyedTokens_eq, nest_false_cons rfl, nest_nest, List.cons_append,
      Position.after_cons rfl]
    exact (Reads.of_toToken_eq (toToken_spaces 1) (by simp [outside])).trans
      (reads (p.advance 1) n outer false tokens (Nat.lt_succ_of_lt right) begins left)

theorem readsDocument_plain {doc : Json} {text : String} (plain : allowsPlain text.toList = true)
    (block_eq : block doc = text.toList ++ ['\n'])
    (keyed_eq : keyed doc = ' ' :: nest 2 false (block doc))
    (nodeTokens_eq : nodeTokens doc = [.scalar text .plain])
    (keyedTokens_eq : keyedTokens doc = nodeTokens doc) : ReadsDocument doc := by
  refine .of_leaf (block_eq ▸ EndsLine.append _ rfl) keyed_eq keyedTokens_eq ?_
  intro p n outer allowed tokens column tail right begins left
  have no_break := (allowsPlain_iff.1 plain).2.1
  have token_eq : nodeTokens doc = [.scalar (String.ofList text.toList) .plain] := by
    rw [String.ofList_toList, nodeTokens_eq]
  rw [block_eq, nest_append_lineFeed, nest_of_no_break no_break, token_eq, List.append_assoc]
  exact reads_plain plain right begins left

theorem readsDocument_str (s : String) : ReadsDocument (.str s) :=
  .of_leaf (endsLine_endLine _) rfl rfl fun _ _ _ _ _ _ _ right begins left =>
    reads_text s right begins left

theorem readsDocument_null : ReadsDocument .null :=
  readsDocument_plain (by decide) rfl rfl rfl rfl

theorem readsDocument_bool (b : Bool) : ReadsDocument (.bool b) := by
  cases b <;> exact readsDocument_plain (by decide) rfl rfl rfl rfl

theorem readsDocument_int (n : Int) : ReadsDocument (.int n) :=
  readsDocument_plain (allowsPlain_intText n) rfl rfl rfl rfl

/-! ## Empty collections -/

section Empty

variable {cs tail : List Char} {p : Position} {indent : Int} {outer : List Int}
  {tokens : List Token} {n : Nat}

/-- The scanner inside of a bracket or a brace that nothing stands around. -/
def insideBrackets (rest : List Char) (pos : Position) (indent : Int) (outer : List Int)
    (key : Option PendingKey) (tokens : List Token) : Scanner :=
  { outside rest pos indent outer true none tokens with flow := 1, keys := [none, key] }

/-- The characters around empty collections, with their tokens. -/
inductive Encloses : Char → Char → Token → Token → Prop
  | brackets : Encloses '[' ']' .flowSequenceStart .flowSequenceEnd
  | braces : Encloses '\x7b' '\x7d' .flowMappingStart .flowMappingEnd

variable {opens closes : Char} {start stop : Token}

theorem next?_opens (encloses : Encloses opens closes start stop) (inside : indent ≤ p.column) :
    (outside (opens :: cs) p indent outer allowed none tokens).next? =
      some (insideBrackets cs (p.advance 1) indent outer (noted allowed tokens p indent)
        (tokens ++ [start])) := by
  have starts : isTokenStart opens = true := by cases encloses <;> rfl
  have token_eq : (outside (opens :: cs) p indent outer allowed none tokens).token =
      (outside (opens :: cs) p indent outer allowed none tokens).openFlow start := by
    cases encloses <;> simp [token, outside, atDocumentMark]
  rw [next?_outside starts inside rfl, token_eq, openFlow, savePending_outside]
  simp [outside, insideBrackets, skip, push]

theorem next?_closes (encloses : Encloses opens closes start stop) {key : Option PendingKey}
    (fresh : key.all (!isLate · p) = true) :
    (insideBrackets (closes :: cs) p indent outer key tokens).next? =
      some (outside cs (p.advance 1) indent outer false key (tokens ++ [stop])) := by
  have starts : isTokenStart closes = true := by cases encloses <;> rfl
  have to_token : (insideBrackets (closes :: cs) p indent outer key tokens).toToken =
      some (insideBrackets (closes :: cs) p indent outer key tokens) := by
    have gap : skipGap true false true (closes :: cs) p = (closes :: cs, p, true) := by
      cases encloses <;> simp [skipGap, isBreak, byteOrderMark]
    have kept : (insideBrackets (closes :: cs) p indent outer key tokens).dropStale =
        some (insideBrackets (closes :: cs) p indent outer key tokens) := by
      unfold dropStale insideBrackets outside
      cases key with
      | none => simp
      | some pending =>
        have fresh : isLate pending p = false := by simpa using fresh
        have fresh : ∀ s : Scanner, s.pos = p → s.isStale pending = false := by
          rintro s rfl
          exact fresh
        simp [fresh, Option.filter]
    refine (toToken_of_skipGap (s := insideBrackets (closes :: cs) p indent outer key tokens)
      gap).trans ?_
    refine (congrArg (Option.bind · _) kept).trans ?_
    rfl
  have token_eq : (insideBrackets (closes :: cs) p indent outer key tokens).token =
      (insideBrackets (closes :: cs) p indent outer key tokens).closeFlow stop := by
    cases encloses <;> simp [token, insideBrackets, outside, atDocumentMark]
  rw [next?, to_token, Option.bind_some, token_eq, closeFlow]
  simp [outside, insideBrackets, skip, push, dropPending, pending, setPending]

theorem reads_empty (encloses : Encloses opens closes start stop) (right : n < p.column) :
    Reads (outside (opens :: closes :: '\n' :: tail) p n outer allowed none tokens)
      (outside tail (p.after [opens, closes, '\n']) n outer true none
        (tokens ++ [start, stop])) := by
  have opened : (outside (opens :: closes :: '\n' :: tail) p n outer allowed none tokens).next? =
      some (insideBrackets (closes :: '\n' :: tail) (p.advance 1) n outer (noted allowed tokens p n)
        (tokens ++ [start])) := next?_opens encloses (by omega)
  have fresh : (noted allowed tokens p n).all (!isLate · (p.advance 1)) = true := by
    cases allowed <;> simp [noted, isLate, Position.advance]
  have no_end : start ≠ .streamEnd ∧ stop ≠ .streamEnd := by cases encloses <;> simp
  have no_break : isBreak opens = false ∧ isBreak closes = false := by
    cases encloses <;> exact ⟨rfl, rfl⟩
  have position : p.after [opens, closes, '\n'] = ((p.advance 1).advance 1).newline 1 := by
    rw [Position.after_cons no_break.1, Position.after_cons no_break.2,
      Position.after_cons_break rfl]
    rfl
  have tokens_eq : tokens ++ [start, stop] = tokens ++ [start] ++ [stop] := by simp
  rw [position, tokens_eq]
  refine (Reads.of_step opened ?_ rfl (by simp [outside, insideBrackets])).trans
    (Reads.of_line (next?_closes encloses fresh) no_end.2 (skipGap_lineFeed false tail _)
      (by omega) (by simp [Position.advance, Position.newline])
      (by simp only [insideBrackets, outside, List.length_cons]; omega))
  simp [insideBrackets, outside, no_end.1]

end Empty

/-! ## Collections -/

section Collections

variable {item value : Json} {items : List Json} {fields : List (String × Json)}

/-- An element behind its dash. -/
theorem readsEntries_item (read : ReadsDocument item) :
    ReadsEntries .blockSequenceStart ('-' :: ' ' :: nest 2 false (block item))
      (.blockEntry :: nodeTokens item) where
  starts := ⟨'-', _, by decide, rfl⟩
  ends := ((read.ends.nest 2 false).cons ' ').cons '-'
  reads := by
    intro p indent outer tokens column tail inside begins left
    have moved : nest p.column false ('-' :: ' ' :: nest 2 false (block item)) =
        '-' :: ' ' :: nest (p.column + 2) false (block item) := by
      rw [nest_false_cons rfl, nest_false_cons rfl, nest_nest]
    rw [moved, Position.after_cons rfl, Position.after_cons rfl]
    have behind := read.behind_dash (p.advance 2) p.column (around indent outer p.column)
      (tokens ++ opening indent p.column .blockSequenceStart ++ [.blockEntry]) rfl begins left
    rw [List.append_assoc _ [Token.blockEntry]] at behind
    exact (reads_dash inside).trans behind

theorem ReadsDocument.endsLine_keyed (read : ReadsDocument value) : EndsLine (keyed value) := by
  unfold keyed
  split
  · exact read.ends.cons _
  · exact (read.ends.nest _ _).cons _
  · exact (read.ends.nest _ _).cons _

theorem exists_nest_keyed (columns : Nat) (value : Json) :
    ∃ c cs, (isBlank c = true ∨ isBreak c = true) ∧ nest columns false (keyed value) = c :: cs := by
  unfold keyed
  split
  · exact ⟨'\n', _, .inr rfl, nest_cons_break rfl _ _⟩
  · exact ⟨'\n', _, .inr rfl, nest_cons_break rfl _ _⟩
  · exact ⟨' ', _, .inl rfl, nest_false_cons rfl _⟩

/-- A field whose name stands in front of its colon. -/
theorem reads_simpleField {name : String} (simple : isSimpleKey name = true)
    (read : ReadsDocument value) (p : Position) {indent : Int} (outer : List Int)
    (tokens : List Token) (inside : indent ≤ p.column) {column : Nat} {tail : List Char}
    (begins : BeginsAt column tail) (left : column ≤ p.column) :
    Reads (outside (nest p.column false (writeText name ++ ':' :: keyed value) ++ tail) p indent
        outer true none tokens)
      (outside tail (p.after (nest p.column false (writeText name ++ ':' :: keyed value))) p.column
        (around indent outer p.column) true none (tokens ++
          opening indent p.column .blockMappingStart ++ (.key :: textToken name :: .value ::
            keyedTokens value))) := by
  have no_break := no_break_of_simple simple
  have moved : nest p.column false (writeText name ++ ':' :: keyed value) =
      writeText name ++ ':' :: nest p.column false (keyed value) := by
    rw [nest_append_of_no_break no_break, nest_false_cons rfl]
  have right : p.column < ((p.after (writeText name)).advance 1).column := by
    rw [Position.after_of_no_break no_break]
    simp only [Position.advance]
    omega
  have behind := read.behind_key _ p.column (around indent outer p.column) (tokens ++
    opening indent p.column .blockMappingStart ++ [.key, textToken name, .value]) right begins left
  rw [moved, Position.after_append, Position.after_cons rfl, List.append_assoc, List.cons_append]
  rw [List.append_assoc _ [Token.key, textToken name, .value]] at behind
  obtain ⟨c, cs, ends, written⟩ := exists_nest_keyed p.column value
  rw [written] at behind ⊢
  exact (reads_simpleKey simple inside ends).trans behind

/-- A field whose name stands behind a mark. -/
theorem reads_markedField (name : String) (read : ReadsDocument value) (p : Position)
    {indent : Int} (outer : List Int) (tokens : List Token) (inside : indent ≤ p.column)
    {column : Nat} {tail : List Char} (begins : BeginsAt column tail) (left : column ≤ p.column)
    {lines : List Char} (lines_eq : lines = '?' :: ' ' ::
      (nest 2 false (endLine (writeText name)) ++ ':' :: ' ' :: nest 2 false (block value))) :
    Reads (outside (nest p.column false lines ++ tail) p indent outer true none tokens)
      (outside tail (p.after (nest p.column false lines)) p.column (around indent outer p.column)
        true none (tokens ++ opening indent p.column .blockMappingStart ++
          (.key :: textToken name :: .value :: nodeTokens value))) := by
  have key_ends : EndsLine (nest 2 false (endLine (writeText name))) :=
    (endsLine_endLine _).nest 2 false
  have moved : nest p.column false lines =
      '?' :: ' ' :: (nest (p.column + 2) false (endLine (writeText name)) ++
        (List.replicate p.column ' ' ++ ':' :: ' ' ::
          nest (p.column + 2) false (block value))) := by
    rw [lines_eq, nest_false_cons rfl, nest_false_cons rfl, nest_append_of_endsLine key_ends,
      nest_nest, nest_true_cons rfl, nest_false_cons rfl, nest_false_cons rfl, nest_nest]
  have value_begins : BeginsAt p.column (List.replicate p.column ' ' ++
      ':' :: ' ' :: nest (p.column + 2) false (block value) ++ tail) :=
    .inr ⟨':', _, by decide, by rw [List.append_assoc]; rfl⟩
  have at_column (q : Position) :
      ((q.after (nest (p.column + 2) false (endLine (writeText name)))).advance p.column).column =
        p.column := by
    have at_start := ((endsLine_endLine (writeText name)).nest (p.column + 2) false).column_after
      (p := q)
    simp only [Position.advance, at_start, Nat.zero_add]
  rw [moved, Position.after_cons rfl, Position.after_cons rfl, Position.after_append,
    Position.after_append, Position.after_spaces, Position.after_cons rfl, Position.after_cons rfl,
    List.cons_append, List.cons_append, List.append_assoc]
  refine (reads_questionMark inside).trans ?_
  refine (reads_text name (by simp [Position.advance]) value_begins (Nat.le_refl _)).trans ?_
  rw [List.append_assoc]
  refine (Reads.of_toToken_eq (toToken_spaces p.column) (by simp [outside])).trans ?_
  refine (reads_colon (congrArg _ (at_column _).symm)).trans ?_
  have behind := read.behind_dash ((((p.advance 2).after (nest (p.column + 2) false
      (endLine (writeText name)))).advance p.column).advance 2) p.column
    (around indent outer p.column)
    (tokens ++ opening indent p.column .blockMappingStart ++ [.key] ++ [textToken name] ++ [.value])
    (congrArg (· + 2) (at_column (p.advance 2))) begins left
  simp only [List.append_assoc, List.singleton_append] at behind ⊢
  exact behind

/-- A field with its name in front of the colon or behind a mark. -/
theorem readsEntries_field (name : String) (read : ReadsDocument value) :
    ReadsEntries .blockMappingStart (fieldLines name value) (fieldTokens [(name, value)]) := by
  rw [fieldTokens_cons]
  cases simple : isSimpleKey name with
  | true =>
    have lines_eq : fieldLines name value = writeText name ++ ':' :: keyed value := if_pos simple
    refine ⟨startsToken_fieldLines name value, ?_, ?_⟩
    · rw [lines_eq]
      exact (read.endsLine_keyed.cons ':').append _
    · intro p indent outer tokens column tail inside begins left
      rw [lines_eq]
      simpa [fieldTokens] using reads_simpleField simple read p outer tokens inside begins left
  | false =>
    have lines_eq : fieldLines name value = '?' :: ' ' ::
        (nest 2 false (endLine (writeText name)) ++
          ':' :: ' ' :: nest 2 false (block value)) := if_neg (Bool.eq_false_iff.1 simple)
    refine ⟨startsToken_fieldLines name value, ?_, ?_⟩
    · rw [lines_eq]
      exact ((((read.ends.nest 2 false).cons ' ').cons ':').append _).append ['?', ' ']
    · intro p indent outer tokens column tail inside begins left
      simpa [fieldTokens] using
        reads_markedField name read p outer tokens inside begins left lines_eq

theorem readsEntries_items (ne : items ≠ []) (each : ∀ item ∈ items, ReadsDocument item) :
    ReadsEntries .blockSequenceStart (blockItems items) (itemTokens items) := by
  induction items with
  | nil => exact absurd rfl ne
  | cons item items ih =>
    obtain ⟨first, each⟩ := List.forall_mem_cons.1 each
    have entry := readsEntries_item first
    rw [blockItems_cons, itemTokens]
    cases items with
    | nil => simpa [blockItems, itemTokens] using entry
    | cons next items => exact entry.append (ih (List.cons_ne_nil next items) each)

theorem readsEntries_fields (ne : fields ≠ []) (each : ∀ field ∈ fields, ReadsDocument field.2) :
    ReadsEntries .blockMappingStart (blockFields fields) (fieldTokens fields) := by
  induction fields with
  | nil => exact absurd rfl ne
  | cons field fields ih =>
    obtain ⟨first, each⟩ := List.forall_mem_cons.1 each
    have entry := readsEntries_field field.1 first
    rw [blockFields_cons]
    cases fields with
    | nil => simpa [blockFields] using entry
    | cons next fields =>
      rw [fieldTokens_cons_eq_append]
      exact entry.append (ih (List.cons_ne_nil next fields) each)

theorem readsDocument_arr (each : ∀ item ∈ items, ReadsDocument item) :
    ReadsDocument (.arr items) := by
  cases items with
  | nil =>
    exact .of_leaf rfl rfl rfl fun _ _ _ _ _ _ _ right _ _ => reads_empty .brackets right
  | cons item items =>
    have entries := readsEntries_items (List.cons_ne_nil item items) each
    refine ⟨entries.ends, fun _ _ _ _ => entries.nested, ?_⟩
    intro p n outer tokens column tail right begins left
    have written : nest n false (keyed (.arr (item :: items))) =
        '\n' :: nest n true (blockItems (item :: items)) := nest_cons_break rfl _ _
    rw [written, List.cons_append, Position.after_cons_break rfl]
    exact (Reads.of_toToken_eq toToken_lineFeed (by simp [outside])).trans
      (entries.goes_on rfl begins left)

theorem readsDocument_obj (each : ∀ field ∈ fields, ReadsDocument field.2) :
    ReadsDocument (.obj fields) := by
  cases fields with
  | nil =>
    exact .of_leaf rfl rfl rfl fun _ _ _ _ _ _ _ right _ _ => reads_empty .braces right
  | cons field fields =>
    have entries := readsEntries_fields (List.cons_ne_nil field fields) each
    refine ⟨entries.ends, fun _ _ _ _ => entries.nested, ?_⟩
    intro p n outer tokens column tail right begins left
    have written : nest n false (keyed (.obj (field :: fields))) = '\n' ::
        (List.replicate (n + 2) ' ' ++ nest (n + 2) false (blockFields (field :: fields))) :=
      (nest_cons_break rfl _ _).trans
        (congrArg _ ((nest_nest n 2 true _).trans (entries.starts.nest_true (n + 2))))
    have at_column : ((p.newline 1).advance (n + 2)).column = n + 2 := Nat.zero_add _
    rw [written, List.cons_append, List.append_assoc, Position.after_cons_break rfl,
      Position.after_append, Position.after_spaces]
    exact (Reads.of_toToken_eq (toToken_lineFeed.trans (toToken_spaces (n + 2)))
      (by simp [outside]; omega)).trans (entries.nested at_column begins left)

/-- The lines of a document are read as its tokens. -/
theorem readsDocument {depth : Nat} {doc : Json} (writable : doc.IsWritable depth) :
    ReadsDocument doc := by
  induction writable with
  | null => exact readsDocument_null
  | bool _ b => exact readsDocument_bool b
  | int _ n => exact readsDocument_int n
  | str _ s => exact readsDocument_str s
  | arr _ _ _ ih => exact readsDocument_arr ih
  | obj _ _ _ _ ih => exact readsDocument_obj ih

end Collections

end Yaml

end MeshRoutes
