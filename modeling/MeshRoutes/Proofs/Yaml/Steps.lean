import MeshRoutes.Proofs.Yaml.Scanning

/-!
# Marks

The steps of the scanner at a dash or a mark of a key or value, outside of brackets and braces. A
mark to the right of the collection around it opens a collection at its column.

* `Yaml.Scanner.openIndent_last`: a collection that is opened.
* `Yaml.Scanner.reads_dash`, `reads_questionMark`, `reads_colon`: the marks.
* `Yaml.Scanner.reads_colon_of_pending`: the colon behind a key that opens a collection.
-/

namespace MeshRoutes.Yaml.Scanner

/-! ## Collections that are opened -/

/-- The tokens that open a collection at a column, if it lies to the right of the one around. -/
def opening (indent : Int) (column : Nat) (start : Token) : List Token :=
  if indent < column then [start] else []

/-- The columns around a collection at a column. -/
def around (indent : Int) (outer : List Int) (column : Nat) : List Int :=
  if indent < column then indent :: outer else outer

section Steps

variable {cs rest : List Char} {p q : Position} {indent : Int} {outer : List Int}
  {allowed : Bool} {key : Option PendingKey} {tokens front back : List Token} {start : Token}

theorem insertIdx_length (front back : List Token) (token : Token) :
    (front ++ back).insertIdx front.length token = front ++ token :: back := by
  induction front with
  | nil => rfl
  | cons a front ih => exact congrArg (a :: ·) ih

theorem insert_outside (token : Token) :
    (outside cs p indent outer allowed key (front ++ back)).insert front.length token =
      outside cs p indent outer allowed key (front ++ token :: back) := by
  unfold insert outside
  simp [insertIdx_length]

theorem openIndent_outside (front back : List Token) (column : Nat) (inside : indent ≤ column) :
    (outside cs p indent outer allowed key (front ++ back)).openIndent column front.length start =
      outside cs p column (around indent outer column) allowed key
        (front ++ opening indent column start ++ back) := by
  unfold openIndent around opening
  by_cases right : indent < column
  · have opens : ((outside cs p indent outer allowed key (front ++ back)).flow == 0 &&
        decide ((outside cs p indent outer allowed key (front ++ back)).indent < column)) =
        true := by
      rw [Bool.and_eq_true]
      exact ⟨rfl, decide_eq_true right⟩
    rw [if_pos opens, insert_outside, if_pos right, if_pos right, List.append_assoc,
      List.singleton_append]
    rfl
  · have same : indent = column := by omega
    subst same
    simp [outside]

theorem openIndent_last (inside : indent ≤ p.column) :
    (outside cs p indent outer allowed key tokens).openIndent p.column tokens.length start =
      outside cs p p.column (around indent outer p.column) allowed key
        (tokens ++ opening indent p.column start) := by
  have opened := @openIndent_outside cs p indent outer allowed key start tokens [] p.column inside
  rwa [List.append_nil, List.append_nil] at opened

theorem push_outside (token : Token) : (outside cs p indent outer allowed key tokens).push token =
    outside cs p indent outer allowed key (tokens ++ [token]) := by
  simp [push, outside]

theorem next?_outside {c : Char} (starts : isTokenStart c = true) (inside : indent ≤ p.column)
    (fresh : key.all (!isLate · p) = true) :
    (outside (c :: cs) p indent outer allowed key tokens).next? =
      (outside (c :: cs) p indent outer allowed key tokens).token := by
  rw [next?, toToken_eq_self starts inside fresh, Option.bind_some]

theorem not_ended {token : Token} (goes_on : token ≠ .streamEnd) :
    (outside cs p indent outer allowed key (tokens ++ [token])).tokens.back? ≠
      some .streamEnd := by
  unfold outside
  rw [List.back?_toArray, List.getLast?_concat]
  exact fun ended => goes_on (Option.some.inj ended)

/-- A step over a mark that leaves the scanner in front of a space. -/
theorem Reads.of_mark {s : Scanner} {c : Char} {token : Token} (at_mark : s.rest = c :: ' ' :: cs)
    (step : s.next? = some (outside (' ' :: cs) p indent outer allowed key (tokens ++ [token])))
    (goes_on : token ≠ .streamEnd) :
    Reads s (outside cs (p.advance 1) indent outer allowed key (tokens ++ [token])) := by
  refine Reads.of_step step (not_ended goes_on) (toToken_spaces 1) ?_
  rw [at_mark, List.length_cons, List.length_cons]
  exact Nat.lt_add_of_pos_right Nat.two_pos

/-! ## Marks -/

/-- The dash of an element. -/
theorem reads_dash (inside : indent ≤ p.column) :
    Reads (outside ('-' :: ' ' :: cs) p indent outer true none tokens)
      (outside cs (p.advance 2) p.column (around indent outer p.column) true none
        (tokens ++ opening indent p.column .blockSequenceStart ++ [.blockEntry])) := by
  have entry : (outside ('-' :: ' ' :: cs) p indent outer true none tokens).token =
      (outside ('-' :: ' ' :: cs) p indent outer true none tokens).blockEntry := by
    simp [token, outside, atDocumentMark, atBlankOrEnd, isBlank]
  refine Reads.of_mark (p := p.advance 1) rfl ?_ (by simp)
  have size : (outside ('-' :: ' ' :: cs) p indent outer true none tokens).tokens.size =
      tokens.length := by simp [outside]
  have column : (outside ('-' :: ' ' :: cs) p indent outer true none tokens).column =
      p.column := rfl
  rw [next?_outside (by decide) inside rfl, entry, blockEntry, size, column, openIndent_last inside]
  simp [outside, dropPending, pending, setPending, skip, push]

/-- The mark in front of a key that is written behind it. -/
theorem reads_questionMark (inside : indent ≤ p.column) :
    Reads (outside ('?' :: ' ' :: cs) p indent outer true none tokens)
      (outside cs (p.advance 2) p.column (around indent outer p.column) true none
        (tokens ++ opening indent p.column .blockMappingStart ++ [.key])) := by
  have entry : (outside ('?' :: ' ' :: cs) p indent outer true none tokens).token =
      (outside ('?' :: ' ' :: cs) p indent outer true none tokens).explicitKey := by
    simp [token, outside, atDocumentMark, atBlankOrEnd, isBlank]
  refine Reads.of_mark (p := p.advance 1) rfl ?_ (by simp)
  have size : (outside ('?' :: ' ' :: cs) p indent outer true none tokens).tokens.size =
      tokens.length := by simp [outside]
  have column : (outside ('?' :: ' ' :: cs) p indent outer true none tokens).column =
      p.column := rfl
  rw [next?_outside (by decide) inside rfl, entry, explicitKey, size, column,
    openIndent_last inside]
  simp [outside, dropPending, pending, setPending, skip, push]

/-- The colon behind a key that is written behind its mark. -/
theorem reads_colon (same : indent = p.column) :
    Reads (outside (':' :: ' ' :: cs) p indent outer true none tokens)
      (outside cs (p.advance 2) indent outer true none (tokens ++ [.value])) := by
  subst same
  have entry : (outside (':' :: ' ' :: cs) p p.column outer true none tokens).token =
      (outside (':' :: ' ' :: cs) p p.column outer true none tokens).value := by
    simp [token, outside, atDocumentMark, atBlankOrEnd, isBlank]
  refine Reads.of_mark (p := p.advance 1) rfl ?_ (by simp)
  rw [next?_outside (by decide) (Int.le_refl _) rfl, entry]
  simp [value, outside, pending, openIndent, Scanner.column, skip, push]

/-- The colon behind a key that has been read. -/
theorem reads_colon_of_pending (pending : PendingKey) (front back : List Token)
    (place : pending.place = front.length) {c : Char} (ends : atBlankOrEnd (c :: cs) = true)
    (inside : indent ≤ pending.pos.column) (behind : pending.pos.column ≤ p.column)
    (fresh : isLate pending p = false) :
    Reads (outside (':' :: c :: cs) p indent outer false (some pending) (front ++ back))
      (outside (c :: cs) (p.advance 1) pending.pos.column
        (around indent outer pending.pos.column) false none
        (front ++ opening indent pending.pos.column .blockMappingStart ++ .key :: back ++
          [.value])) := by
  have entry : (outside (':' :: c :: cs) p indent outer false (some pending)
      (front ++ back)).token =
      (outside (':' :: c :: cs) p indent outer false (some pending) (front ++ back)).value := by
    simp [token, outside, atDocumentMark, ends]
  have step : (outside (':' :: c :: cs) p indent outer false (some pending)
      (front ++ back)).next? = some (outside (c :: cs) (p.advance 1) pending.pos.column
        (around indent outer pending.pos.column) false none
        (front ++ opening indent pending.pos.column .blockMappingStart ++ .key :: back ++
          [.value])) := by
    have key : (outside (':' :: c :: cs) p indent outer false (some pending)
        (front ++ back)).pending = some pending := rfl
    rw [next?_outside (by decide) (by omega) (by simpa using fresh), entry, value, key]
    dsimp only
    rw [place, insert_outside, openIndent_outside front (.key :: back) _ inside, ← push_outside]
    rfl
  exact Reads.of_step step (not_ended (by simp)) rfl (by simp [outside])

end Steps

end MeshRoutes.Yaml.Scanner
