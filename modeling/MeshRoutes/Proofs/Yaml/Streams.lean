import MeshRoutes.Proofs.Yaml.Blocks
import MeshRoutes.Yaml.Stream

/-!
# Streams as tokens

Documents are separated by marks, which close the collections of the document in front. No line of
a document is taken for a mark, because the lines of its collections start with a dash and a space
or with a key.

* `Yaml.streamTokens`: the tokens of a stream of documents.
* `Yaml.tokens?_renderAll`: the tokens that a written stream is read as.
-/

namespace MeshRoutes.Yaml

/-! ## Characters of written documents -/

section Allowed

variable {c : Char} {cs : List Char} {doc : Json}

theorem mem_nest {columns : Nat} {atStart : Bool} (mem : c ∈ nest columns atStart cs) :
    c = ' ' ∨ c ∈ cs := by
  induction cs generalizing atStart with
  | nil => simp [nest] at mem
  | cons d cs ih =>
    rw [nest] at mem
    split at mem
    · rcases List.mem_cons.1 mem with rfl | mem
      · exact .inr List.mem_cons_self
      · exact (ih mem).imp_right (List.mem_cons_of_mem d)
    · split at mem
      · rcases List.mem_append.1 mem with mem | mem
        · exact .inl (List.eq_of_mem_replicate mem)
        · rcases List.mem_cons.1 mem with rfl | mem
          · exact .inr List.mem_cons_self
          · exact (ih mem).imp_right (List.mem_cons_of_mem d)
      · rcases List.mem_cons.1 mem with rfl | mem
        · exact .inr List.mem_cons_self
        · exact (ih mem).imp_right (List.mem_cons_of_mem d)

theorem mem_endLine (mem : c ∈ endLine cs) : c = '\n' ∨ c ∈ cs := by
  unfold endLine at mem
  split at mem
  · exact .inr mem
  · rcases List.mem_append.1 mem with mem | mem
    · exact .inr mem
    · exact .inl (List.mem_singleton.1 mem)

theorem isAllowed_of_printable (printable : isPrintable c = true) : isAllowed c = true :=
  (isPrintable_iff.1 printable).1

theorem isAllowed_writeText {s : String} : ∀ c ∈ writeText s, isAllowed c = true := by
  intro c mem
  unfold writeText at mem
  cases form : Form.of s with
  | plain =>
    rw [form] at mem
    exact isAllowed_of_printable ((allowsPlain_iff.1 (allowsPlain_of_form form)).1 c mem)
  | singleQuoted =>
    rw [form] at mem
    obtain ⟨⟨printable, _⟩, _⟩ := allowsSingleQuoted_iff.1 (allowsSingleQuoted_of_form form).1
    rcases mem_singleQuoted mem with rfl | mem
    · rfl
    · exact isAllowed_of_printable (printable c mem)
  | doubleQuoted =>
    rw [form] at mem
    exact isAllowed_of_printable (isVisible_of_mem_doubleQuoted mem).1
  | literal =>
    rw [form] at mem
    obtain ⟨⟨printable, _⟩, _⟩ := allowsLiteral_iff.1 (allowsLiteral_of_form form).1
    simp only [literal, List.cons_append, List.nil_append, List.mem_cons, List.mem_append,
      List.append_assoc] at mem
    rcases mem with rfl | mem | rfl | mem
    · rfl
    · rcases mem_literalHints mem with rfl | rfl | rfl <;> rfl
    · rfl
    · exact isAllowed_of_printable (printable c mem)

/-- The characters of moved lines. -/
theorem isAllowed_nest {columns : Nat} {atStart : Bool} (allowed : ∀ c ∈ cs, isAllowed c = true) :
    ∀ c ∈ nest columns atStart cs, isAllowed c = true := by
  intro c mem
  rcases mem_nest mem with rfl | mem
  · rfl
  · exact allowed c mem

theorem isAllowed_endLine (allowed : ∀ c ∈ cs, isAllowed c = true) :
    ∀ c ∈ endLine cs, isAllowed c = true := by
  intro c mem
  rcases mem_endLine mem with rfl | mem
  · rfl
  · exact allowed c mem

theorem isAllowed_blockItems {items : List Json}
    (each : ∀ item ∈ items, ∀ c ∈ block item, isAllowed c = true) :
    ∀ c ∈ blockItems items, isAllowed c = true := by
  induction items with
  | nil => simp [blockItems]
  | cons item items ih =>
    obtain ⟨first, each⟩ := List.forall_mem_cons.1 each
    rw [blockItems_cons, List.forall_mem_append, List.forall_mem_cons, List.forall_mem_cons]
    exact ⟨⟨rfl, rfl, isAllowed_nest first⟩, ih each⟩

theorem isAllowed_keyed (allowed : ∀ c ∈ block doc, isAllowed c = true) :
    ∀ c ∈ keyed doc, isAllowed c = true := by
  unfold keyed
  split <;> rw [List.forall_mem_cons]
  · exact ⟨rfl, allowed⟩
  · exact ⟨rfl, isAllowed_nest allowed⟩
  · exact ⟨rfl, isAllowed_nest allowed⟩

theorem isAllowed_blockFields {fields : List (String × Json)}
    (each : ∀ field ∈ fields, ∀ c ∈ block field.2, isAllowed c = true) :
    ∀ c ∈ blockFields fields, isAllowed c = true := by
  induction fields with
  | nil => simp [blockFields]
  | cons field fields ih =>
    obtain ⟨first, each⟩ := List.forall_mem_cons.1 each
    rw [blockFields_cons, List.forall_mem_append]
    refine ⟨?_, ih each⟩
    unfold fieldLines
    split
    · rw [List.forall_mem_append, List.forall_mem_cons]
      exact ⟨isAllowed_writeText, rfl, isAllowed_keyed first⟩
    · rw [List.forall_mem_cons, List.forall_mem_cons, List.forall_mem_append, List.forall_mem_cons,
        List.forall_mem_cons]
      exact ⟨rfl, rfl, isAllowed_nest (isAllowed_endLine isAllowed_writeText), rfl, rfl,
        isAllowed_nest first⟩

theorem isAllowed_block {depth : Nat} (writable : doc.IsWritable depth) :
    ∀ c ∈ block doc, isAllowed c = true := by
  induction writable with
  | null => exact List.all_eq_true.1 (by decide)
  | bool _ b => cases b <;> exact List.all_eq_true.1 (by decide)
  | int _ n =>
    have printable := (allowsPlain_iff.1 (allowsPlain_intText n)).1
    exact List.forall_mem_append.2 ⟨fun c mem => isAllowed_of_printable (printable c mem),
      List.forall_mem_singleton.2 rfl⟩
  | str _ s => exact isAllowed_endLine isAllowed_writeText
  | arr _ items _ ih =>
    cases items with
    | nil => exact List.all_eq_true.1 (by decide)
    | cons item items => exact isAllowed_blockItems ih
  | obj _ fields _ _ ih =>
    cases fields with
    | nil => exact List.all_eq_true.1 (by decide)
    | cons field fields => exact isAllowed_blockFields ih

end Allowed

/-! ## Documents with marks between them -/

/-- Whether a document is an object with a field, so that it is written as a block. -/
def IsRoot (depth : Nat) (doc : Json) : Prop :=
  doc.IsWritable depth ∧ ∃ field fields, doc = .obj (field :: fields)

/-- The lines of a stream of documents. -/
def streamLines : List Json → List Char
  | [] => []
  | [doc] => block doc
  | doc :: next :: docs => block doc ++ ("---\n".toList ++ streamLines (next :: docs))

/-- The tokens of a stream of documents. -/
def streamTokens : List Json → List Token
  | [] => [.streamEnd]
  | [doc] => nodeTokens doc ++ [.streamEnd]
  | doc :: next :: docs => nodeTokens doc ++ .documentStart :: streamTokens (next :: docs)

section Streams

variable {docs : List Json} {doc : Json} {depth : Nat} {cs tail : List Char} {p : Position}
  {tokens : List Token}

theorem toList_renderAll (roots : ∀ doc ∈ docs, IsRoot depth doc) :
    (renderAll docs).toList = streamLines docs := by
  have written : docs.map render = docs.map fun doc => String.ofList (block doc) := by
    refine List.map_congr_left fun doc mem => ?_
    obtain ⟨_, field, fields, rfl⟩ := roots doc mem
    rfl
  unfold renderAll
  rw [written, String.toList_intercalate, List.map_map]
  clear written roots
  induction docs with
  | nil => rfl
  | cons doc docs ih =>
    cases docs with
    | nil => simp [streamLines]
    | cons next docs =>
      simp only [List.map_cons] at ih ⊢
      rw [List.intercalate_cons_cons, ih, streamLines, Function.comp_apply, String.toList_ofList,
        List.append_assoc]

theorem isAllowed_streamLines (writable : ∀ doc ∈ docs, doc.IsWritable depth) :
    ∀ c ∈ streamLines docs, isAllowed c = true := by
  induction docs with
  | nil => simp [streamLines]
  | cons doc docs ih =>
    obtain ⟨first, writable⟩ := List.forall_mem_cons.1 writable
    cases docs with
    | nil => exact isAllowed_block first
    | cons next docs =>
      rw [streamLines, List.forall_mem_append, List.forall_mem_append]
      exact ⟨isAllowed_block first, List.all_eq_true.1 (by decide), ih writable⟩

theorem nest_zero (atStart : Bool) (cs : List Char) : nest 0 atStart cs = cs := by
  induction cs generalizing atStart with
  | nil => cases atStart <;> rfl
  | cons c cs ih => cases atStart <;> simp [nest, ih]

open Scanner

/-- The lines of a root are read up to its end. -/
theorem reads_root (root : IsRoot depth doc) (at_start : p.column = 0) (begins : BeginsAt 0 tail) :
    ∃ front q, nodeTokens doc = front ++ [.blockEnd] ∧ q.column = 0 ∧
      Reads (outside (block doc ++ tail) p (-1) [] true none tokens)
        (outside tail q 0 [-1] true none (tokens ++ front)) := by
  obtain ⟨writable, field, fields, rfl⟩ := root
  cases writable with
  | obj _ _ _ each =>
    have entries := readsEntries_fields (List.cons_ne_nil field fields)
      fun field mem => readsDocument (each field mem)
    have read := entries.reads p (-1) [] tokens (by omega) begins (Nat.zero_le _)
    rw [at_start, nest_zero, List.append_assoc] at read
    exact ⟨_, _, rfl, entries.ends.column_after, read⟩

/-- The mark in front of a further document. -/
theorem reads_documentStart (at_start : p.column = 0) :
    Reads (outside ('-' :: '-' :: '-' :: '\n' :: cs) p 0 [-1] true none tokens)
      (outside cs ((p.advance 3).newline 1) (-1) [] true none
        (tokens ++ [.blockEnd, .documentStart])) := by
  have step : (outside ('-' :: '-' :: '-' :: '\n' :: cs) p 0 [-1] true none tokens).next? =
      some (outside ('\n' :: cs) (p.advance 3) (-1) [] false none
        (tokens ++ [.blockEnd] ++ [.documentStart])) := by
    rw [next?_outside (by decide) (by omega) rfl]
    simp [token, outside, at_start, atDocumentMark, atBlankOrEnd, isBreak, documentMark,
      closeIndent, closeIndents, dropPending, pending, setPending, skip, push]
  have tokens_eq : tokens ++ [Token.blockEnd, .documentStart] =
      tokens ++ [.blockEnd] ++ [.documentStart] := by simp
  rw [tokens_eq]
  exact Reads.of_step step (not_ended (by simp)) toToken_lineFeed
    (by simp only [outside, List.length_cons]; omega)

theorem run_end {limit : Nat} (at_start : p.column = 0) :
    run (limit + 1) (outside [] p 0 [-1] true none tokens) =
      some (tokens ++ [.blockEnd, .streamEnd]) := by
  have step : (outside [] p 0 [-1] true none tokens).next? =
      some (outside [] p (-1) [] true none (tokens ++ [.blockEnd] ++ [.streamEnd])) := by
    have kept : (outside [] p 0 [-1] true none tokens).toToken =
        some (outside [] p 0 [-1] true none tokens) := by
      have gap : skipGap false false true [] p = ([], p, true) := rfl
      rw [toToken_outside, gap]
      dsimp only
      rw [dropStale_outside]
      simp [outside, closeIndent, closeIndents, Scanner.column, at_start]
    rw [next?, kept, Option.bind_some]
    simp [outside, token, streamEnd, closeIndent, closeIndents, dropPending, pending, setPending,
      push]
  rw [run, step]
  simp [outside]

theorem run_streamLines (ne : docs ≠ []) (roots : ∀ doc ∈ docs, IsRoot depth doc)
    (at_start : p.column = 0) {limit : Nat} (enough : (streamLines docs).length < limit) :
    run limit (outside (streamLines docs) p (-1) [] true none tokens) =
      some (tokens ++ streamTokens docs) := by
  induction docs generalizing p tokens limit with
  | nil => exact absurd rfl ne
  | cons doc docs ih =>
    obtain ⟨root, roots⟩ := List.forall_mem_cons.1 roots
    cases docs with
    | nil =>
      obtain ⟨front, q, tokens_eq, at_end, reads⟩ := reads_root root at_start (.inl ⟨rfl, rfl⟩)
      obtain ⟨limit', enough', eq⟩ := reads limit (by simpa [outside, streamLines] using enough)
      obtain ⟨limit', rfl⟩ := Nat.exists_eq_add_of_lt enough'
      rw [List.append_nil] at eq
      rw [streamLines, eq, run_end at_end, streamTokens, tokens_eq]
      simp
    | cons next docs =>
      obtain ⟨front, q, tokens_eq, at_end, reads⟩ := reads_root root at_start
        (.inr ⟨'-', _, by decide, rfl⟩)
      obtain ⟨limit', enough', eq⟩ := (reads.trans (reads_documentStart at_end)) limit enough
      rw [streamLines, streamTokens, tokens_eq]
      refine eq.trans ((ih (List.cons_ne_nil next docs) roots rfl enough').trans ?_)
      simp

/-- A written stream is read as the tokens of its documents. -/
theorem tokens?_renderAll (roots : ∀ doc ∈ docs, IsRoot depth doc) :
    tokens? (renderAll docs).toList = some (streamTokens docs) := by
  have allowed : (streamLines docs).all isAllowed = true :=
    List.all_eq_true.2 (isAllowed_streamLines fun doc mem => (roots doc mem).1)
  rw [toList_renderAll roots, tokens?, if_pos allowed]
  cases docs with
  | nil => rfl
  | cons doc docs =>
    exact run_streamLines (p := ⟨0, 0, 0⟩) (List.cons_ne_nil doc docs) roots rfl
      (Nat.lt_succ_self _)

end Streams

end MeshRoutes.Yaml
