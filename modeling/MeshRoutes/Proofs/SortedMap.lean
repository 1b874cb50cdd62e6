import Mathlib.Data.List.Sort
import MeshRoutes.SortedMap

/-!
# Lookups in sorted maps

A sorted map is known by what `get?` finds in it: `ext_get?` makes two maps with the same lookups
equal, and each operation has one equation that says what is looked up afterwards. Besides this, it
is known of a map that is made of ascending entries that these are its own.
-/

namespace MeshRoutes.SortedMap

variable {κ α : Type} [LT κ] [DecidableEq κ]

/-! ## Entries -/

omit [LT κ] in
theorem lookup_cons (entry : κ × α) (entries : List (κ × α)) (key : κ) :
    (entry :: entries).lookup key = if key = entry.1 then some entry.2 else entries.lookup key := by
  rw [List.lookup_cons]
  by_cases same : key = entry.1
  · simp [same]
  · simp [same, beq_false_of_ne same]

omit [LT κ] in
/-- What is not under a removed key is found as before. -/
theorem lookup_filter_ne {key removed : κ} (other : key ≠ removed) (entries : List (κ × α)) :
    (entries.filter (·.1 != removed)).lookup key = entries.lookup key := by
  induction entries with
  | nil => rfl
  | cons entry entries ih =>
    by_cases gone : entry.1 = removed
    · have skipped : key ≠ entry.1 := by rwa [gone]
      rw [List.filter_cons_of_neg (by simp [gone]), ih, lookup_cons, if_neg skipped]
    · rw [List.filter_cons_of_pos (by simp [gone]), lookup_cons, lookup_cons, ih]

section Irreflexive

variable [@Std.Irrefl κ (· < ·)]

/-- Keys ascend strictly, so the first entry of a key is its only one. -/
theorem mem_iff_lookup_eq_some {entries : List (κ × α)} {key : κ} {a : α}
    (ascending : entries.Pairwise fun a b => a.1 < b.1) :
    (key, a) ∈ entries ↔ entries.lookup key = some a := by
  induction entries with
  | nil => simp
  | cons entry entries ih =>
    obtain ⟨head, tail⟩ := List.pairwise_cons.1 ascending
    rw [List.mem_cons, ih tail, lookup_cons]
    by_cases same : key = entry.1
    · subst same
      have absent : entries.lookup entry.1 ≠ some a := fun found =>
        Std.Irrefl.irrefl entry.1 (head (entry.1, a) ((ih tail).2 found))
      simp [absent, Prod.ext_iff, eq_comm]
    · simp [same, Prod.ext_iff]

theorem mem_entries_iff {map : SortedMap κ α} {key : κ} {a : α} :
    (key, a) ∈ map.entries ↔ map.get? key = some a :=
  mem_iff_lookup_eq_some map.ascending

theorem mem_values_iff {map : SortedMap κ α} {a : α} :
    a ∈ map.values ↔ ∃ key, map.get? key = some a := by
  simp only [values, List.mem_map, Prod.exists, exists_eq_right, mem_entries_iff]

theorem mem_keys_iff {map : SortedMap κ α} {key : κ} :
    key ∈ map.keys ↔ ∃ a, map.get? key = some a := by
  simp only [keys, List.mem_map, Prod.exists, exists_and_right, exists_eq_right, mem_entries_iff]

/-- Two maps in which the same is looked up are the same map. -/
theorem ext_get? [Trans (· < · : κ → κ → Prop) (· < · : κ → κ → Prop) (· < · : κ → κ → Prop)]
    {a b : SortedMap κ α} (same : ∀ key, a.get? key = b.get? key) : a = b := by
  have asymm : @Std.Asymm (κ × α) fun a b => a.1 < b.1 :=
    ⟨fun x y below above => Std.Irrefl.irrefl x.1 (Std.lt_trans below above)⟩
  refine SortedMap.ext (List.Pairwise.eq_of_mem_iff a.ascending b.ascending fun entry => ?_)
  obtain ⟨key, value⟩ := entry
  rw [mem_entries_iff, mem_entries_iff, same]

end Irreflexive

theorem get?_erase (map : SortedMap κ α) (erased key : κ) :
    (map.erase erased).get? key = if key = erased then none else map.get? key := by
  obtain ⟨entries, ascending⟩ := map
  simp only [erase, get?]
  clear ascending
  induction entries with
  | nil => simp
  | cons entry entries ih =>
    by_cases gone : entry.1 = erased
    · rw [List.filter_cons_of_neg (by simp [gone]), ih, lookup_cons, gone]
      split <;> rfl
    · rw [List.filter_cons_of_pos (by simp [gone]), lookup_cons, lookup_cons, ih]
      by_cases same : key = entry.1
      · simp [same, gone]
      · simp [same]

@[simp] theorem contains_iff {map : SortedMap κ α} {key : κ} :
    map.contains key = true ↔ ∃ a, map.get? key = some a := by
  rw [contains, Option.isSome_iff_exists]

/-! ## Updates -/

section Updates

variable [DecidableLT κ] [Trans (· < · : κ → κ → Prop) (· < · : κ → κ → Prop) (· < · : κ → κ → Prop)]
  [@Std.Trichotomous κ (· < ·)] [@Std.Irrefl κ (· < ·)]

omit [@Std.Trichotomous κ (· < ·)] in
theorem lookup_upsertEntry {entries : List (κ × α)} (key : κ) (update : Option α → α) (sought : κ)
    (ascending : entries.Pairwise fun a b => a.1 < b.1) :
    (upsertEntry key update entries).lookup sought =
      if sought = key then some (update (entries.lookup key)) else entries.lookup sought := by
  induction entries with
  | nil => rw [upsertEntry, lookup_cons]; rfl
  | cons entry entries ih =>
    obtain ⟨head, tail⟩ := List.pairwise_cons.1 ascending
    unfold upsertEntry
    split
    · next before =>
      -- the new entry stands in front of all others, none of which has its key
      have absent : (entry :: entries).lookup key = none := by
        rw [List.lookup_eq_none_iff]
        intro other mem
        rw [bne_iff_ne]
        rintro rfl
        rcases List.mem_cons.1 mem with rfl | mem
        · exact Std.Irrefl.irrefl _ before
        · exact Std.Irrefl.irrefl _ (Std.lt_trans before (head _ mem))
      rw [lookup_cons, absent]
    · split
      · next same =>
        subst same
        rw [lookup_cons, lookup_cons, lookup_cons, if_pos rfl]
        split <;> rfl
      · next different =>
        rw [lookup_cons, lookup_cons, lookup_cons, ih tail, if_neg different]
        by_cases same : sought = entry.1
        · simp [same, Ne.symm different]
        · simp [same]

theorem get?_upsert (map : SortedMap κ α) (key : κ) (update : Option α → α) (sought : κ) :
    (map.upsert key update).get? sought =
      if sought = key then some (update (map.get? key)) else map.get? sought :=
  lookup_upsertEntry key update sought map.ascending

theorem get?_insert (map : SortedMap κ α) (key : κ) (value : α) (sought : κ) :
    (map.insert key value).get? sought = if sought = key then some value else map.get? sought :=
  get?_upsert map key _ sought

/-- Two values are stored in either order. -/
theorem insert_comm (map : SortedMap κ α) {a b : κ} (x y : α) (ne : a ≠ b) :
    (map.insert a x).insert b y = (map.insert b y).insert a x := by
  refine ext_get? fun sought => ?_
  simp only [get?_insert]
  by_cases here : sought = a
  · rw [if_pos here, if_pos here, if_neg fun there => ne (here.symm.trans there)]
  · rw [if_neg here, if_neg here]

/-! ## Maps of entries -/

omit [@Std.Trichotomous κ (· < ·)] in
/-- An entry whose key is above all others goes to the end. -/
theorem upsertEntry_of_above {key : κ} {update : Option α → α} {entries : List (κ × α)}
    (above : ∀ entry ∈ entries, entry.1 < key) :
    upsertEntry key update entries = entries ++ [(key, update none)] := by
  induction entries with
  | nil => rfl
  | cons entry entries ih =>
    have below := above entry List.mem_cons_self
    have not_lt : ¬key < entry.1 := fun lt => Std.Irrefl.irrefl _ (Std.lt_trans below lt)
    have ne : key ≠ entry.1 := by
      rintro rfl
      exact Std.Irrefl.irrefl _ below
    rw [upsertEntry, if_neg not_lt, if_neg ne, List.cons_append,
      ih fun entry mem => above entry (List.mem_cons_of_mem _ mem)]

theorem entries_foldl_insert {entries : List (κ × α)} {map : SortedMap κ α}
    (ascending : (map.entries ++ entries).Pairwise fun a b => a.1 < b.1) :
    (entries.foldl (fun map entry => map.insert entry.1 entry.2) map).entries =
      map.entries ++ entries := by
  induction entries generalizing map with
  | nil => simp
  | cons entry entries ih =>
    have above : ∀ earlier ∈ map.entries, earlier.1 < entry.1 := fun earlier mem =>
      (List.pairwise_append.1 ascending).2.2 earlier mem entry List.mem_cons_self
    have inserted : (map.insert entry.1 entry.2).entries = map.entries ++ [entry] :=
      upsertEntry_of_above above
    rw [List.foldl_cons, ih, inserted, List.append_assoc, List.singleton_append]
    rwa [inserted, List.append_assoc, List.singleton_append]

/-- Entries that ascend are those of the map that is made of them. -/
theorem entries_ofList {entries : List (κ × α)}
    (ascending : entries.Pairwise fun a b => a.1 < b.1) : (ofList entries).entries = entries :=
  entries_foldl_insert ascending

theorem ofList_entries (map : SortedMap κ α) : ofList map.entries = map :=
  SortedMap.ext (entries_ofList map.ascending)

/-! ## Maps of lists -/

/-- A list that is grouped on top of a map adds to each group the elements of its key. -/
theorem get?_foldl_upsert (key : α → κ) (elements : List α) (map : SortedMap κ (List α))
    (sought : κ) :
    (elements.foldl (fun map a => map.upsert (key a) fun group => group.getD [] ++ [a]) map).get?
        sought =
      if elements.filter (key · = sought) = [] then map.get? sought
      else some ((map.get? sought).getD [] ++ elements.filter (key · = sought)) := by
  induction elements generalizing map with
  | nil => simp
  | cons a elements ih =>
    rw [List.foldl_cons, ih, get?_upsert]
    by_cases same : key a = sought
    · subst same
      rw [List.filter_cons_of_pos (by simp)]
      by_cases rest : elements.filter (key · = key a) = [] <;> simp [rest]
    · rw [List.filter_cons_of_neg (by simp [same]), if_neg (Ne.symm same)]

/-- A group holds the elements of its key in the order of the list, and no group is empty. -/
theorem get?_groupBy (key : α → κ) (elements : List α) (sought : κ) :
    (groupBy key elements).get? sought =
      if elements.filter (key · = sought) = [] then none
      else some (elements.filter (key · = sought)) :=
  (get?_foldl_upsert key elements empty sought).trans (by simp [get?, empty])

theorem mem_entries_groupBy {key : α → κ} {elements : List α} {sought : κ} {group : List α} :
    (sought, group) ∈ (groupBy key elements).entries ↔
      group ≠ [] ∧ group = elements.filter (key · = sought) := by
  rw [mem_entries_iff, get?_groupBy]
  split
  · next none => simp [none]
  · next some => grind

end Updates

end MeshRoutes.SortedMap
