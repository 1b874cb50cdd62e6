import Mathlib.Data.List.Nodup
import Mathlib.Data.List.Sort

/-!
# Sorting parts of a list

Merge sort is stable, so elements that stand at or before each other keep the order in which they
are listed. Sorting a list and keeping some of its elements is therefore the same as sorting those
that are kept. A list that ascends strictly is the merge of any two parts of it.

* `filter_mergeSort`: a part of a sorted list is the sorted part.
* `eq_of_filter_eq`: a sorted list is known by its classes of elements that are not told apart.
* `mergeSort_mergeSort`: sorting a list that was sorted by a finer order.
* `eq_merge_of_mem_iff`: a strictly ascending list is the merge of its parts.
-/

namespace MeshRoutes

variable {α : Type} {le : α → α → Bool}

/-- Where a list changes from elements that satisfy something to those that do not is determined. -/
theorem append_inj_of_forall {holds : α → Bool} {front back front' back' : List α}
    (same : front ++ back = front' ++ back') (fronts : ∀ a ∈ front, holds a = true)
    (backs : ∀ a ∈ back, holds a = false) (fronts' : ∀ a ∈ front', holds a = true)
    (backs' : ∀ a ∈ back', holds a = false) : front = front' ∧ back = back' := by
  have kept {front back : List α} (fronts : ∀ a ∈ front, holds a = true)
      (backs : ∀ a ∈ back, holds a = false) : (front ++ back).filter holds = front := by
    have none : back.filter holds = [] :=
      List.filter_eq_nil_iff.2 fun a mem => by simp [backs a mem]
    rw [List.filter_append, List.filter_eq_self.2 fronts, none, List.append_nil]
  have front_eq : front = front' := by
    rw [← kept fronts backs, same, kept fronts' backs']
  refine ⟨front_eq, ?_⟩
  rw [front_eq] at same
  exact List.append_cancel_left same

/-- A part of a sorted list is the sorted part, even where the order does not tell elements
apart. -/
theorem filter_mergeSort (trans : ∀ a b c, le a b = true → le b c = true → le a c = true)
    (total : ∀ a b, (le a b || le b a) = true) (keep : α → Bool) (list : List α) :
    (list.mergeSort le).filter keep = (list.filter keep).mergeSort le := by
  induction list with
  | nil => simp
  | cons a list ih =>
    obtain ⟨before, after, sorted, rest, later⟩ := List.mergeSort_cons trans total a list
    have split : before.filter keep ++ after.filter keep = (list.filter keep).mergeSort le := by
      rw [← ih, rest, List.filter_append]
    rw [sorted, List.filter_append]
    cases kept : keep a with
    | false =>
      rw [List.filter_cons_of_neg (by simp [kept]), List.filter_cons_of_neg (by simp [kept]), split]
    | true =>
      rw [List.filter_cons_of_pos kept, List.filter_cons_of_pos kept]
      -- among the elements that are kept, `a` is put in front of the same ones
      obtain ⟨before', after', sorted', rest', later'⟩ :=
        List.mergeSort_cons trans total a (list.filter keep)
      have above {front back whole : List α} (eq : whole.mergeSort le = front ++ a :: back) :
          ∀ b ∈ back, (!le a b) = false := by
        intro b mem
        have ascending := List.pairwise_mergeSort trans total whole
        rw [eq, List.pairwise_append, List.pairwise_cons] at ascending
        rw [ascending.2.1.1 b mem]
        rfl
      have parts := append_inj_of_forall (split.trans rest')
        (fun b mem => later b (List.mem_of_mem_filter mem))
        (fun b mem => above sorted b (List.mem_of_mem_filter mem)) later' (above sorted')
      rw [sorted', parts.1, parts.2]

/-- Sorted lists are equal if they agree on the elements that stand at or before a given one and
also at or after it. -/
theorem eq_of_filter_eq (total : ∀ a b, (le a b || le b a) = true) {left right : List α}
    (left_sorted : left.Pairwise fun a b => le a b = true)
    (right_sorted : right.Pairwise fun a b => le a b = true)
    (classes : ∀ a, (left.filter fun b => le a b && le b a) =
      right.filter fun b => le a b && le b a) : left = right := by
  have refl (a : α) : le a a = true := by simpa using total a a
  induction left generalizing right with
  | nil =>
    cases right with
    | nil => rfl
    | cons b right => simpa [refl b] using classes b
  | cons a left ih =>
    cases right with
    | nil => simpa [refl a] using classes a
    | cons b right =>
      have first_le {c d : α} {list : List α}
          (sorted : (c :: list).Pairwise fun a b => le a b = true) (mem : d ∈ c :: list) :
          le c d = true := by
        rcases List.mem_cons.1 mem with rfl | mem
        · exact refl d
        · exact (List.pairwise_cons.1 sorted).1 d mem
      have mem_of_class {c : α} {list list' : List α} (mem : c ∈ list)
          (same : (list.filter fun b => le c b && le b c) =
            list'.filter fun b => le c b && le b c) : c ∈ list' := by
        have kept : c ∈ list.filter fun b => le c b && le b c :=
          List.mem_filter.2 ⟨mem, by simp [refl c]⟩
        rw [same] at kept
        exact List.mem_of_mem_filter kept
      -- the first elements stand at or before each other, so they are the first of one class
      have ab : le a b = true :=
        first_le left_sorted (mem_of_class List.mem_cons_self (classes b).symm)
      have ba : le b a = true := first_le right_sorted (mem_of_class List.mem_cons_self (classes a))
      have firsts := classes a
      rw [List.filter_cons_of_pos (by simp [refl a]), List.filter_cons_of_pos (by simp [ab, ba])]
        at firsts
      obtain rfl : a = b := (List.cons.inj firsts).1
      rw [ih (List.pairwise_cons.1 left_sorted).2 (List.pairwise_cons.1 right_sorted).2 fun c => ?_]
      have rest := classes c
      rw [List.filter_cons, List.filter_cons] at rest
      split at rest
      · exact (List.cons.inj rest).2
      · exact rest

/-- Sorting undoes an earlier sorting by an order that has those elements in the order of the list
which the later one does not tell apart. -/
theorem mergeSort_mergeSort {finer : α → α → Bool}
    (trans : ∀ a b c, le a b = true → le b c = true → le a c = true)
    (total : ∀ a b, (le a b || le b a) = true)
    (finer_trans : ∀ a b c, finer a b = true → finer b c = true → finer a c = true)
    (finer_total : ∀ a b, (finer a b || finer b a) = true) {list : List α}
    (untold : ∀ a ∈ list, ∀ b ∈ list, le a b = true → le b a = true → finer a b = true) :
    (list.mergeSort finer).mergeSort le = list.mergeSort le := by
  refine eq_of_filter_eq total (List.pairwise_mergeSort trans total _)
    (List.pairwise_mergeSort trans total _) fun a => ?_
  let kept := list.filter fun b => le a b && le b a
  have in_order : kept.Pairwise fun b c => finer b c = true := by
    refine List.pairwise_of_forall_mem_list fun b b_mem c c_mem => ?_
    obtain ⟨b_mem, b_class⟩ := List.mem_filter.1 b_mem
    obtain ⟨c_mem, c_class⟩ := List.mem_filter.1 c_mem
    rw [Bool.and_eq_true] at b_class c_class
    exact untold b b_mem c c_mem (trans _ _ _ b_class.2 c_class.1) (trans _ _ _ c_class.2 b_class.1)
  rw [filter_mergeSort trans total, filter_mergeSort finer_trans finer_total,
    filter_mergeSort trans total, List.mergeSort_of_pairwise in_order]

/-- A strictly ascending list is the merge of two strictly ascending ones without common elements
that together have its elements. -/
theorem eq_merge_of_mem_iff (trans : ∀ a b c, le a b = true → le b c = true → le a c = true)
    (total : ∀ a b, (le a b || le b a) = true) {left right whole : List α}
    (left_ascends : left.Pairwise fun a b => le b a = false)
    (right_ascends : right.Pairwise fun a b => le b a = false)
    (whole_ascends : whole.Pairwise fun a b => le b a = false)
    (apart : ∀ a ∈ left, a ∉ right) (mem : ∀ a, a ∈ whole ↔ a ∈ left ∨ a ∈ right) :
    whole = left.merge right le := by
  have refl (a : α) : le a a = true := by simpa using total a a
  have sorted {list : List α} (ascends : list.Pairwise fun a b => le b a = false) :
      list.Pairwise fun a b => le a b = true := by
    refine ascends.imp fun {a b} above => ?_
    simpa [above] using total a b
  have nodup {list : List α} (ascends : list.Pairwise fun a b => le b a = false) : list.Nodup := by
    refine ascends.imp fun {a b} above => ?_
    rintro rfl
    cases above.symm.trans (refl a)
  have perm : whole.Perm (left.merge right le) := by
    refine List.Perm.trans ?_ (List.merge_perm_append le).symm
    have parts : (left ++ right).Nodup :=
      List.nodup_append'.2 ⟨nodup left_ascends, nodup right_ascends, apart⟩
    refine (List.perm_ext_iff_of_nodup (nodup whole_ascends) parts).2 fun a => ?_
    rw [mem, List.mem_append]
  have merged := List.pairwise_merge trans total left right (sorted left_ascends)
    (sorted right_ascends)
  refine List.Perm.eq_of_pairwise (fun a b a_mem b_mem ab ba => ?_) (sorted whole_ascends) merged
    perm
  -- two elements that stand at or before each other are the same one
  by_contra different
  have b_mem := perm.mem_iff.2 b_mem
  obtain ⟨i, i_lt, rfl⟩ := List.getElem_of_mem a_mem
  obtain ⟨j, j_lt, rfl⟩ := List.getElem_of_mem b_mem
  have ascends := List.pairwise_iff_getElem.1 whole_ascends
  rcases Nat.lt_trichotomy i j with before | rfl | after
  · cases (ascends i j i_lt j_lt before).symm.trans ba
  · exact different rfl
  · cases (ascends j i j_lt i_lt after).symm.trans ab

end MeshRoutes
