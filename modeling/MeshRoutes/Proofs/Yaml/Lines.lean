import MeshRoutes.Yaml.Printer.Text

/-!
# Lines and columns

Where a text ends that starts at some position, and what moving a text to the right does to its
lines.

* `Yaml.Position.after`: the position behind a text.
* `Yaml.nest_append_of_endsLine`, `Yaml.nest_nest`: parts of a moved text, and a text that is moved twice.
-/

namespace MeshRoutes.Yaml

/-! ## Positions -/

namespace Position

/-- The position behind a text without carriage returns. -/
def after (p : Position) : List Char → Position
  | [] => p
  | c :: cs => (if isBreak c then p.newline 1 else p.advance 1).after cs

variable {p : Position} {cs : List Char} {c : Char}

@[simp] theorem after_nil (p : Position) : p.after [] = p := rfl

theorem after_cons_break (is_break : isBreak c = true) (cs : List Char) :
    p.after (c :: cs) = (p.newline 1).after cs := by
  rw [after, if_pos is_break]

theorem after_cons (no_break : isBreak c = false) (cs : List Char) :
    p.after (c :: cs) = (p.advance 1).after cs := by
  rw [after, no_break]
  rfl

theorem after_append (p : Position) (front back : List Char) :
    p.after (front ++ back) = (p.after front).after back := by
  induction front generalizing p with
  | nil => rfl
  | cons c front ih => exact ih _

theorem after_of_no_break (no_break : ∀ c ∈ cs, isBreak c = false) :
    p.after cs = p.advance cs.length := by
  induction cs generalizing p with
  | nil => rfl
  | cons c cs ih =>
    obtain ⟨here, there⟩ := List.forall_mem_cons.1 no_break
    rw [after_cons here, ih there]
    simp only [advance, List.length_cons, Position.mk.injEq, true_and]
    omega

@[simp] theorem after_spaces (p : Position) (count : Nat) :
    p.after (List.replicate count ' ') = p.advance count := by
  rw [after_of_no_break, List.length_replicate]
  intro c mem
  rw [List.eq_of_mem_replicate mem]
  rfl

theorem line_le_line_after (p : Position) (cs : List Char) : p.line ≤ (p.after cs).line := by
  induction cs generalizing p with
  | nil => exact Nat.le_refl _
  | cons c cs ih =>
    refine Nat.le_trans ?_ (ih _)
    split
    · exact Nat.le_succ _
    · exact Nat.le_refl _

theorem line_lt_line_after (mem : c ∈ cs) (is_break : isBreak c = true) :
    p.line < (p.after cs).line := by
  obtain ⟨front, back, rfl⟩ := List.append_of_mem mem
  rw [after_append, after_cons_break is_break]
  have before := p.line_le_line_after front
  have behind : (p.after front).line + 1 ≤ (((p.after front).newline 1).after back).line :=
    line_le_line_after ((p.after front).newline 1) back
  omega

end Position

/-! ## Ends of lines -/

/-- Whether a text ends with a line break. -/
def EndsLine (cs : List Char) : Prop := cs.getLast?.any isBreak = true

section EndsLine

variable {cs front back : List Char} {c : Char} {p : Position}

theorem EndsLine.append (front : List Char) (ends : EndsLine back) : EndsLine (front ++ back) := by
  unfold EndsLine at *
  rw [List.getLast?_append]
  cases last : back.getLast? with
  | none => rw [last] at ends; cases ends
  | some c => rwa [last] at ends

theorem EndsLine.cons (c : Char) (ends : EndsLine cs) : EndsLine (c :: cs) :=
  ends.append [c]

theorem EndsLine.exists_eq (ends : EndsLine cs) :
    ∃ front c, cs = front ++ [c] ∧ isBreak c = true := by
  obtain ⟨c, last, is_break⟩ := (Option.any_eq_true _ _).1 ends
  obtain ⟨front, rfl⟩ := List.getLast?_eq_some_iff.1 last
  exact ⟨front, c, rfl, is_break⟩

theorem endsLine_endLine (cs : List Char) : EndsLine (endLine cs) := by
  unfold endLine
  split
  · assumption
  · exact EndsLine.append cs rfl

theorem EndsLine.column_after (ends : EndsLine cs) : (p.after cs).column = 0 := by
  obtain ⟨front, c, rfl, is_break⟩ := ends.exists_eq
  rw [Position.after_append, Position.after_cons_break is_break]
  rfl

theorem EndsLine.line_lt (ends : EndsLine cs) : p.line < (p.after cs).line := by
  obtain ⟨front, c, rfl, is_break⟩ := ends.exists_eq
  exact Position.line_lt_line_after (List.mem_append_right _ List.mem_cons_self) is_break

end EndsLine

/-! ## Moved texts -/

section Nest

variable {columns : Nat} {cs front back : List Char} {c : Char}

theorem nest_cons_break (is_break : isBreak c = true) (atStart : Bool) (cs : List Char) :
    nest columns atStart (c :: cs) = c :: nest columns true cs := by
  rw [nest, if_pos is_break]

theorem nest_false_cons (no_break : isBreak c = false) (cs : List Char) :
    nest columns false (c :: cs) = c :: nest columns false cs := by
  rw [nest, no_break]
  rfl

theorem nest_true_cons (no_break : isBreak c = false) (cs : List Char) :
    nest columns true (c :: cs) = List.replicate columns ' ' ++ nest columns false (c :: cs) := by
  rw [nest_false_cons no_break, nest, no_break]
  rfl

theorem nest_append_of_endsLine (ends : EndsLine front) (atStart : Bool) (back : List Char) :
    nest columns atStart (front ++ back) =
      nest columns atStart front ++ nest columns true back := by
  obtain ⟨front, c, rfl, is_break⟩ := ends.exists_eq
  clear ends
  induction front generalizing atStart with
  | nil =>
    rw [List.nil_append, List.singleton_append, nest_cons_break is_break,
      nest_cons_break is_break]
    rfl
  | cons d front ih =>
    simp only [List.cons_append, List.append_assoc, List.nil_append] at ih ⊢
    cases atStart <;> by_cases here : isBreak d = true <;> simp [nest, here, ih]

theorem nest_append_of_no_break (no_break : ∀ c ∈ front, isBreak c = false) (back : List Char) :
    nest columns false (front ++ back) = front ++ nest columns false back := by
  induction front with
  | nil => rfl
  | cons c front ih =>
    obtain ⟨here, there⟩ := List.forall_mem_cons.1 no_break
    rw [List.cons_append, nest_false_cons here, ih there, List.cons_append]

theorem nest_of_no_break (no_break : ∀ c ∈ cs, isBreak c = false) :
    nest columns false cs = cs := by
  have moved : nest columns false (cs ++ []) = cs ++ [] := nest_append_of_no_break no_break []
  rwa [List.append_nil] at moved

theorem nest_spaces (count : Nat) (no_break : isBreak c = false) (cs : List Char) :
    nest columns true (List.replicate count ' ' ++ c :: cs) =
      List.replicate (columns + count) ' ' ++ c :: nest columns false cs := by
  cases count with
  | zero =>
    rw [List.replicate_zero, List.nil_append, nest_true_cons no_break, nest_false_cons no_break,
      Nat.add_zero]
  | succ count =>
    have spaces : ∀ c ∈ List.replicate (count + 1) ' ', isBreak c = false := by
      intro c mem
      rw [List.eq_of_mem_replicate mem]
      rfl
    have shifted : nest columns true (List.replicate (count + 1) ' ' ++ c :: cs) =
        List.replicate columns ' ' ++
          nest columns false (List.replicate (count + 1) ' ' ++ c :: cs) :=
      nest_true_cons rfl _
    rw [shifted, nest_append_of_no_break spaces, nest_false_cons no_break, ← List.append_assoc,
      List.replicate_append_replicate]

/-- A text that is moved twice is moved by both distances. -/
theorem nest_nest (outer inner : Nat) (atStart : Bool) (cs : List Char) :
    nest outer atStart (nest inner atStart cs) = nest (outer + inner) atStart cs := by
  induction cs generalizing atStart with
  | nil => cases atStart <;> rfl
  | cons c cs ih =>
    by_cases is_break : isBreak c = true
    · rw [nest_cons_break is_break, nest_cons_break is_break, nest_cons_break is_break, ih]
    · have no_break := Bool.eq_false_iff.2 is_break
      cases atStart with
      | false =>
        rw [nest_false_cons no_break, nest_false_cons no_break, nest_false_cons no_break, ih]
      | true =>
        rw [nest_true_cons no_break, nest_true_cons no_break, nest_false_cons no_break,
          nest_false_cons no_break, nest_spaces inner no_break, ih]

theorem EndsLine.nest (ends : EndsLine cs) (columns : Nat) (atStart : Bool) :
    EndsLine (nest columns atStart cs) := by
  obtain ⟨front, c, rfl, is_break⟩ := ends.exists_eq
  clear ends
  induction front generalizing atStart with
  | nil =>
    rw [List.nil_append, nest_cons_break is_break]
    simpa [EndsLine, Yaml.nest] using is_break
  | cons d front ih =>
    by_cases here : isBreak d = true
    · rw [List.cons_append, nest_cons_break here]
      exact (ih true).cons d
    · have no_break := Bool.eq_false_iff.2 here
      cases atStart with
      | false =>
        rw [List.cons_append, nest_false_cons no_break]
        exact (ih false).cons d
      | true =>
        rw [List.cons_append, nest_true_cons no_break, nest_false_cons no_break]
        exact ((ih false).cons d).append _

end Nest

end MeshRoutes.Yaml
