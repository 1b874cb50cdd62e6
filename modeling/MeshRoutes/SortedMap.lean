/-!
# Sorted maps

Finite maps whose entries ascend by key. Two maps with the same entries are equal, and everything
that lists a map agrees on the order.

## Main definitions

* `SortedMap`: the type, with `empty`, `insert`, `upsert`, `erase`, `get?`, `keys`, `values`.
* `SortedMap.ofList`, `SortedMap.groupBy`: maps of lists.
* `TextMap`: maps from texts to texts, for labels, annotations and selectors.
-/

namespace MeshRoutes

/-- A finite map. Its keys ascend, so none occurs twice. -/
@[ext] structure SortedMap (κ α : Type) [LT κ] where
  entries : List (κ × α)
  ascending : entries.Pairwise fun a b => a.1 < b.1
deriving DecidableEq, Repr

/-- A finite map from texts to texts. -/
abbrev TextMap := SortedMap String String

namespace SortedMap

variable {κ α : Type} [LT κ]

/-- The map without entries. -/
def empty : SortedMap κ α := ⟨[], .nil⟩

instance : EmptyCollection (SortedMap κ α) := ⟨empty⟩

instance : Inhabited (SortedMap κ α) := ⟨empty⟩

/-- The keys, ascending. -/
def keys (map : SortedMap κ α) : List κ := map.entries.map (·.1)

/-- The values, ascending by key. -/
def values (map : SortedMap κ α) : List α := map.entries.map (·.2)

/-- The number of entries. -/
def size (map : SortedMap κ α) : Nat := map.entries.length

/-- Whether there are no entries. -/
def isEmpty (map : SortedMap κ α) : Bool := map.entries.isEmpty

variable [DecidableEq κ]

/-- The value stored under a key. -/
def get? (map : SortedMap κ α) (key : κ) : Option α := map.entries.lookup key

/-- The value stored under a key, or a default. -/
def getD (map : SortedMap κ α) (key : κ) (default : α) : α := (map.get? key).getD default

/-- Whether a key has a value. -/
def contains (map : SortedMap κ α) (key : κ) : Bool := (map.get? key).isSome

/-- The map without the entry of a key. -/
def erase (map : SortedMap κ α) (key : κ) : SortedMap κ α :=
  ⟨map.entries.filter (·.1 ≠ key), map.ascending.filter _⟩

variable [DecidableLT κ]

/-- The ascending entries with the value under the key replaced by what `update` makes of it. -/
def upsertEntry (key : κ) (update : Option α → α) : List (κ × α) → List (κ × α)
  | [] => [(key, update none)]
  | entry :: entries =>
    if key < entry.1 then (key, update none) :: entry :: entries
    else if key = entry.1 then (key, update (some entry.2)) :: entries
    else entry :: upsertEntry key update entries

theorem eq_or_mem_of_mem_upsertEntry {key : κ} {update : Option α → α} {entries : List (κ × α)}
    {x : κ × α} (h : x ∈ upsertEntry key update entries) : x.1 = key ∨ x ∈ entries := by
  induction entries with
  | nil => exact .inl (congrArg Prod.fst (List.mem_singleton.1 h))
  | cons entry entries ih =>
    unfold upsertEntry at h
    split at h
    · rcases List.mem_cons.1 h with rfl | h
      · exact .inl rfl
      · exact .inr h
    · split at h
      · rcases List.mem_cons.1 h with rfl | h
        · exact .inl rfl
        · exact .inr (List.mem_cons_of_mem _ h)
      · rcases List.mem_cons.1 h with rfl | h
        · exact .inr List.mem_cons_self
        · exact (ih h).imp id (List.mem_cons_of_mem _)

variable [Trans (· < · : κ → κ → Prop) (· < · : κ → κ → Prop) (· < · : κ → κ → Prop)]
variable [@Std.Trichotomous κ (· < ·)]

theorem pairwise_upsertEntry {key : κ} {update : Option α → α} {entries : List (κ × α)}
    (h : entries.Pairwise fun a b => a.1 < b.1) :
    (upsertEntry key update entries).Pairwise fun a b => a.1 < b.1 := by
  induction entries with
  | nil => exact List.pairwise_singleton _ _
  | cons entry entries ih =>
    obtain ⟨head, tail⟩ := List.pairwise_cons.1 h
    unfold upsertEntry
    split
    · next lt =>
      refine List.pairwise_cons.2 ⟨fun x hx => ?_, h⟩
      rcases List.mem_cons.1 hx with rfl | hx
      · exact lt
      · exact Std.lt_trans lt (head x hx)
    · next not_lt =>
      split
      · next eq => exact List.pairwise_cons.2 ⟨fun x hx => eq ▸ head x hx, tail⟩
      · next ne =>
        refine List.pairwise_cons.2 ⟨fun x hx => ?_, ih tail⟩
        rcases eq_or_mem_of_mem_upsertEntry hx with eq | hx
        · rw [eq]
          exact Classical.byContradiction fun not_gt =>
            ne (Std.Trichotomous.trichotomous key entry.1 not_lt not_gt)
        · exact head x hx

/-- The map with the value under the key replaced by what `update` makes of it. -/
def upsert (map : SortedMap κ α) (key : κ) (update : Option α → α) : SortedMap κ α :=
  ⟨upsertEntry key update map.entries, pairwise_upsertEntry map.ascending⟩

/-- The map with the value stored under the key, in place of an earlier one. -/
def insert (map : SortedMap κ α) (key : κ) (value : α) : SortedMap κ α :=
  map.upsert key fun _ => value

/-- The map of a list of entries, in which a later value of a key replaces an earlier one. -/
def ofList (entries : List (κ × α)) : SortedMap κ α :=
  entries.foldl (fun map entry => map.insert entry.1 entry.2) empty

/-- The elements of a list under their keys, those of one key in the order of the list. -/
def groupBy (key : α → κ) (elements : List α) : SortedMap κ (List α) :=
  elements.foldl (fun map a => map.upsert (key a) fun group => group.getD [] ++ [a]) empty

end SortedMap

/-! ## Texts as keys -/

instance transTextLt : Trans (· < · : String → String → Prop) (· < · : String → String → Prop)
    (· < · : String → String → Prop) := ⟨String.lt_trans⟩

instance trichotomousTextLt : @Std.Trichotomous String (· < ·) :=
  ⟨fun _ _ not_lt not_gt => String.le_antisymm (String.not_lt.1 not_gt) (String.not_lt.1 not_lt)⟩

end MeshRoutes
