import Mathlib.Data.List.Forall2

/-!
# Results of traversals

Computations that may fail succeed when each of their steps does. For a traversal of a list this is
a relation between the list and the results, element by element. A traversal that fails does so with
the first of its steps that fails.

* `mapM_eq_ok_iff`, `mapM_eq_some_iff`: the results of a traversal.
* `forall₂_filter_filterMap`: what is picked stands for the elements of which something is picked.
* `IsFirstWith`: the first element of a list of which something holds.
* `mapM_eq_error_iff`: why a traversal fails.
-/

namespace MeshRoutes

variable {α β ε : Type}

theorem bind_eq_ok_iff {x : Except ε α} {f : α → Except ε β} {b : β} :
    x >>= f = .ok b ↔ ∃ a, x = .ok a ∧ f a = .ok b := by
  cases x with
  | error e => simp [bind, Except.bind]
  | ok a => simp [bind, Except.bind]

theorem bind_eq_error_iff {x : Except ε α} {f : α → Except ε β} {e : ε} :
    x >>= f = .error e ↔ x = .error e ∨ ∃ a, x = .ok a ∧ f a = .error e := by
  cases x with
  | error e => simp [bind, Except.bind]
  | ok a => simp [bind, Except.bind]

theorem map_eq_ok_iff {f : α → β} {x : Except ε α} {b : β} :
    x.map f = .ok b ↔ ∃ a, x = .ok a ∧ f a = b := by
  cases x with
  | error e => simp [Except.map]
  | ok a => simp [Except.map]

theorem map_eq_error_iff {f : α → β} {x : Except ε α} {e : ε} :
    x.map f = .error e ↔ x = .error e := by
  cases x with
  | error e => simp [Except.map]
  | ok a => simp [Except.map]

theorem toOption_eq_some_iff {x : Except ε α} {a : α} : x.toOption = some a ↔ x = .ok a := by
  cases x with
  | error e => simp [Except.toOption]
  | ok b => simp [Except.toOption]

/-- What stands on the right of two related lists has something on the left to which it is
related. -/
theorem exists_mem_left_of_forall₂ {R : α → β → Prop} {as : List α} {bs : List β}
    (related : List.Forall₂ R as bs) {b : β} (mem : b ∈ bs) : ∃ a ∈ as, R a b := by
  induction related with
  | nil => cases mem
  | cons here _ ih =>
    rcases List.mem_cons.1 mem with rfl | mem
    · exact ⟨_, List.mem_cons_self, here⟩
    · obtain ⟨a, a_mem, rel⟩ := ih mem
      exact ⟨a, List.mem_cons_of_mem _ a_mem, rel⟩

/-- Related lists of which the same is said, element by element. -/
theorem map_eq_map_of_forall₂ {γ : Type} {R : α → β → Prop} {f : α → γ} {g : β → γ} {as : List α}
    {bs : List β} (related : List.Forall₂ R as bs) (same : ∀ a b, R a b → g b = f a) :
    bs.map g = as.map f := by
  induction related with
  | nil => rfl
  | cons here _ ih => rw [List.map_cons, List.map_cons, same _ _ here, ih]

/-- What is picked from a list stands, element by element, for the elements of which something is
picked. -/
theorem forall₂_filter_filterMap {pick : α → Option β} {keep : α → Bool}
    (picks : ∀ a, keep a = true ↔ ∃ b, pick a = some b) (as : List α) :
    List.Forall₂ (fun a b => pick a = some b) (as.filter keep) (as.filterMap pick) := by
  induction as with
  | nil => exact .nil
  | cons a as ih =>
    cases picked : pick a with
    | none =>
      have dropped : ¬keep a = true := by simp [picks, picked]
      rwa [List.filter_cons_of_neg dropped, List.filterMap_cons_none picked]
    | some b =>
      have kept : keep a = true := (picks a).2 ⟨b, picked⟩
      rw [List.filter_cons_of_pos kept, List.filterMap_cons_some picked]
      exact .cons picked ih

/-- A traversal succeeds with the results of its steps. -/
theorem mapM_eq_ok_iff {f : α → Except ε β} {as : List α} {bs : List β} :
    as.mapM f = .ok bs ↔ List.Forall₂ (fun a b => f a = .ok b) as bs := by
  induction as generalizing bs with
  | nil => simp [pure, Except.pure, eq_comm]
  | cons a as ih =>
    rw [List.mapM_cons, List.forall₂_cons_left_iff, bind_eq_ok_iff]
    constructor
    · intro steps
      rcases steps with ⟨b, here, rest⟩
      obtain ⟨bs', there, done⟩ := bind_eq_ok_iff.1 rest
      cases done
      exact ⟨b, bs', here, ih.1 there, rfl⟩
    · intro steps
      rcases steps with ⟨b, bs', here, there, rfl⟩
      exact ⟨b, here, bind_eq_ok_iff.2 ⟨bs', ih.2 there, rfl⟩⟩

theorem exists_mapM_eq_ok_iff {f : α → Except ε β} {as : List α} :
    (∃ bs, as.mapM f = .ok bs) ↔ ∀ a ∈ as, ∃ b, f a = .ok b := by
  simp only [mapM_eq_ok_iff]
  constructor
  · intro found a mem
    obtain ⟨bs, steps⟩ := found
    obtain ⟨b, _, done⟩ := exists_mem_left_of_forall₂ steps.flip mem
    exact ⟨b, done⟩
  · intro steps
    induction as with
    | nil => exact ⟨[], .nil⟩
    | cons a as ih =>
      obtain ⟨here, there⟩ := List.forall_mem_cons.1 steps
      obtain ⟨b, done⟩ := here
      obtain ⟨bs, rest⟩ := ih there
      exact ⟨b :: bs, .cons done rest⟩

/-- Whether an element is the first in a list of which something holds. -/
def IsFirstWith (holds : α → Prop) (list : List α) (a : α) : Prop :=
  holds a ∧ ∃ front back, list = front ++ a :: back ∧ ∀ b ∈ front, ¬holds b

namespace IsFirstWith

variable {holds : α → Prop} {list : List α} {a : α}

theorem mem (first : IsFirstWith holds list a) : a ∈ list := by
  obtain ⟨_, front, back, rfl, _⟩ := first
  exact List.mem_append_right front List.mem_cons_self

theorem eq_head {head : α} (first : IsFirstWith holds (head :: list) a) (here : holds head) :
    a = head := by
  obtain ⟨_, front, back, eq, before⟩ := first
  cases front with
  | nil => exact (List.cons.inj eq).1.symm
  | cons other front =>
    obtain ⟨rfl, _⟩ := List.cons.inj eq
    exact (before head List.mem_cons_self here).elim

theorem cons_iff_of_holds {head : α} (here : holds head) :
    IsFirstWith holds (head :: list) a ↔ a = head := by
  refine ⟨fun first => first.eq_head here, ?_⟩
  rintro rfl
  exact ⟨here, [], list, rfl, fun b mem => nomatch mem⟩

theorem cons_iff_of_not {head : α} (not_here : ¬holds head) :
    IsFirstWith holds (head :: list) a ↔ IsFirstWith holds list a := by
  refine and_congr_right fun there => ?_
  constructor
  · intro split
    obtain ⟨front, back, eq, before⟩ := split
    cases front with
    | nil =>
      cases eq
      contradiction
    | cons other front =>
      exact ⟨front, back, (List.cons.inj eq).2, fun b mem => before b (List.mem_cons_of_mem _ mem)⟩
  · intro split
    obtain ⟨front, back, rfl, before⟩ := split
    exact ⟨head :: front, back, rfl, List.forall_mem_cons.2 ⟨not_here, before⟩⟩

/-- Elements of which it does not hold may be left out. -/
theorem filter_iff {keep : α → Bool} (kept : ∀ a, holds a → keep a = true) :
    IsFirstWith holds (list.filter keep) a ↔ IsFirstWith holds list a := by
  induction list with
  | nil => rfl
  | cons head list ih =>
    by_cases here : holds head
    · rw [List.filter_cons_of_pos (kept head here), cons_iff_of_holds here, cons_iff_of_holds here]
    · rw [cons_iff_of_not here, List.filter_cons]
      split
      · rw [cons_iff_of_not here, ih]
      · exact ih

theorem exists_of_mem (mem : a ∈ list) (there : holds a) :
    ∃ first, IsFirstWith holds list first := by
  induction list with
  | nil => cases mem
  | cons head list ih =>
    by_cases here : holds head
    · exact ⟨head, (cons_iff_of_holds here).2 rfl⟩
    · rcases List.mem_cons.1 mem with rfl | mem
      · contradiction
      · obtain ⟨first, is_first⟩ := ih mem
        exact ⟨first, (cons_iff_of_not here).2 is_first⟩

end IsFirstWith

/-- What is found in a list is the first element that is sought. -/
theorem find?_eq_some_iff_isFirstWith {sought : α → Bool} {list : List α} {a : α} :
    list.find? sought = some a ↔ IsFirstWith (sought · = true) list a := by
  rw [List.find?_eq_some_iff_append]
  simp only [IsFirstWith, Bool.not_eq_true', Bool.not_eq_true]

/-- A traversal fails as the first of its steps does that fails. -/
theorem mapM_eq_error_iff {f : α → Except ε β} {as : List α} {e : ε} :
    as.mapM f = .error e ↔ ∃ a, IsFirstWith (fun a => ¬∃ b, f a = .ok b) as a ∧ f a = .error e := by
  induction as with
  | nil =>
    refine iff_of_false (fun failed => nomatch failed) fun found => ?_
    obtain ⟨a, first, _⟩ := found
    cases first.mem
  | cons head as ih =>
    rw [List.mapM_cons, bind_eq_error_iff]
    cases outcome : f head with
    | error e' =>
      have first (a : α) :
          IsFirstWith (fun a => ¬∃ b, f a = .ok b) (head :: as) a ↔ a = head :=
        IsFirstWith.cons_iff_of_holds (by simp [outcome])
      simp only [first, exists_eq_left, outcome, reduceCtorEq, false_and, exists_false, or_false]
    | ok b =>
      have first (a : α) : IsFirstWith (fun a => ¬∃ b, f a = .ok b) (head :: as) a ↔
          IsFirstWith (fun a => ¬∃ b, f a = .ok b) as a :=
        IsFirstWith.cons_iff_of_not (by simp [outcome])
      simp only [first, ← ih, reduceCtorEq, false_or, Except.ok.injEq, exists_eq_left',
        bind_eq_error_iff]
      simp [pure, Except.pure]

/-- A traversal finds something for each element. -/
theorem mapM_eq_some_iff {f : α → Option β} {as : List α} {bs : List β} :
    as.mapM f = some bs ↔ List.Forall₂ (fun a b => f a = some b) as bs := by
  induction as generalizing bs with
  | nil => simp [eq_comm]
  | cons a as ih =>
    rw [List.mapM_cons, List.forall₂_cons_left_iff]
    simp only [Option.bind_eq_bind, Option.bind_eq_some_iff, Option.pure_def, Option.some.injEq, ih]
    constructor
    · intro steps
      rcases steps with ⟨b, here, bs', there, rfl⟩
      exact ⟨b, bs', here, there, rfl⟩
    · intro steps
      rcases steps with ⟨b, bs', here, there, rfl⟩
      exact ⟨b, here, bs', there, rfl⟩

/-- What was written of the elements of a list is read, element by element. -/
theorem mapM_map_eq_some {γ : Type} {write : γ → α} {f : α → Option β} {g : γ → β} {cs : List γ}
    (reads : ∀ c ∈ cs, f (write c) = some (g c)) : (cs.map write).mapM f = some (cs.map g) := by
  rw [mapM_eq_some_iff, List.forall₂_map_left_iff, List.forall₂_map_right_iff, List.forall₂_same]
  exact reads

/-- What was written of the elements of a list reads back. -/
theorem mapM_write_eq_some {γ : Type} {write : γ → α} {read : α → Option γ}
    (reads : ∀ c, read (write c) = some c) (cs : List γ) : (cs.map write).mapM read = some cs := by
  have each := mapM_map_eq_some (g := id) fun c (_ : c ∈ cs) => reads c
  rwa [List.map_id] at each

/-- A traversal that finds something for each element picks what it finds. -/
theorem filterMap_eq_of_mapM_eq_some {f : α → Option β} {as : List α} {bs : List β}
    (found : as.mapM f = some bs) : as.filterMap f = bs := by
  induction mapM_eq_some_iff.1 found with
  | nil => rfl
  | cons here behind ih => rw [List.filterMap_cons_some here, ih (mapM_eq_some_iff.2 behind)]

/-- A traversal finds something when each of its steps does. -/
theorem exists_mapM_eq_some_iff {f : α → Option β} {as : List α} :
    (∃ bs, as.mapM f = some bs) ↔ ∀ a ∈ as, ∃ b, f a = some b := by
  simp only [mapM_eq_some_iff]
  constructor
  · intro found a mem
    obtain ⟨bs, steps⟩ := found
    obtain ⟨b, _, done⟩ := exists_mem_left_of_forall₂ steps.flip mem
    exact ⟨b, done⟩
  · intro steps
    induction as with
    | nil => exact ⟨[], .nil⟩
    | cons a as ih =>
      obtain ⟨here, there⟩ := List.forall_mem_cons.1 steps
      obtain ⟨b, done⟩ := here
      obtain ⟨bs, rest⟩ := ih there
      exact ⟨b :: bs, .cons done rest⟩

end MeshRoutes
