import Mathlib.Data.List.Basic
import MeshRoutes.Manifest.Load

/-!
# The objects of documents and their places

An object stands in a document at a place: the numbers of the elements through which lists lead to
it, from the outside in. The objects of documents are taken in the order of their places, the
earlier element first and all that is in it before the next one.

* `Yaml.Value.Reaches`: the values to which lists lead.
* `Yaml.Value.IsLeafOf`: the objects of documents with their places.
* `Yaml.Value.placesIn`: all of them, in the order of the places.
-/

namespace MeshRoutes.Yaml.Value

/-- Whether the elements with the given numbers, each of them in the one before, lead from a value
to another. -/
inductive Reaches : Value → List Nat → Value → Prop
  | here (value : Value) : Reaches value [] value
  | inside {value item node : Value} {items : List Value} {place : Nat} {path : List Nat}
      (list : value.items? = some items) (stands : items[place]? = some item)
      (below : Reaches item path node) : Reaches value (place :: path) node

/-- Whether an object that is no list stands at a place in documents. The place begins with the
number of the document. -/
def IsLeafOf (documents : List Value) (path : List Nat) (leaf : Value) : Prop :=
  leaf.items? = none ∧ ∃ place rest document, path = place :: rest ∧
    documents[place]? = some document ∧ document.Reaches rest leaf

/-- The objects of a value with their places. -/
def leafPlaces (value : Value) : List (List Nat × Value) :=
  match _eq : value.items? with
  | some items => items.attach.zipIdx.flatMap fun item =>
    (leafPlaces item.1.1).map fun (path, leaf) => (item.2 :: path, leaf)
  | none => [([], value)]
termination_by sizeOf value
decreasing_by exact sizeOf_lt_of_mem_items? _eq item.1.2

/-- The objects of documents with their places. -/
def placesIn (documents : List Value) : List (List Nat × Value) :=
  documents.zipIdx.flatMap fun (document, place) =>
    document.leafPlaces.map fun (path, leaf) => (place :: path, leaf)

/-- A list that says nothing else. -/
def listOf (items : List Value) : Value := .mapping [(.text "items", .sequence items)]

/-- What holds of a value if it holds of its elements holds of every value. -/
theorem items_induction {motive : Value → Prop}
    (step : ∀ value : Value, (∀ items, value.items? = some items → ∀ item ∈ items, motive item) →
      motive value) (value : Value) : motive value :=
  step value fun _ list item mem =>
    have : sizeOf item < sizeOf value := sizeOf_lt_of_mem_items? list mem
    items_induction step item
termination_by sizeOf value

variable {value : Value} {items documents : List Value}

/-! ## Lists -/

theorem get?_mapping_cons (name key : String) (value : Value) (pairs : List (Value × Value)) :
    (mapping ((.text name, value) :: pairs)).get? key =
      if name = key then some value else (mapping pairs).get? key := by
  by_cases same : name = key <;> simp [get?, untagged, Value.same, same]

theorem items?_listOf (items : List Value) : (listOf items).items? = some items := by
  rw [listOf, items?, get?_mapping_cons, if_pos rfl]
  rfl

theorem leaves_of_items (list : value.items? = some items) :
    value.leaves = items.flatMap leaves := by
  rw [leaves]
  split
  · next items' list' =>
    cases list'.symm.trans list
    have values : items.attach.map Subtype.val = items := List.attach_map_subtype_val items
    conv_rhs => rw [← values, List.flatMap_map]
  · next none => rw [none] at list; cases list

theorem leaves_of_no_items (no_list : value.items? = none) : value.leaves = [value] := by
  rw [leaves]
  split
  · next items list => rw [no_list] at list; cases list
  · rfl

theorem leafPlaces_of_items (list : value.items? = some items) :
    value.leafPlaces = placesIn items := by
  rw [leafPlaces]
  split
  · next items' list' =>
    cases list'.symm.trans list
    have values : items.attach.map Subtype.val = items := List.attach_map_subtype_val items
    rw [placesIn]
    conv_rhs => rw [← values, List.zipIdx_map, List.flatMap_map]
    rfl
  · next none => rw [none] at list; cases list

theorem leafPlaces_of_no_items (no_list : value.items? = none) :
    value.leafPlaces = [([], value)] := by
  rw [leafPlaces]
  split
  · next items list => rw [no_list] at list; cases list
  · rfl

theorem reaches_of_items_iff (list : value.items? = some items) {path : List Nat} {leaf : Value}
    (no_list : leaf.items? = none) : value.Reaches path leaf ↔
      ∃ place rest item, path = place :: rest ∧ items[place]? = some item ∧
        item.Reaches rest leaf := by
  constructor
  · intro reaches
    cases reaches with
    | here => rw [no_list] at list; cases list
    | inside list' stands below =>
      cases list'.symm.trans list
      exact ⟨_, _, _, rfl, stands, below⟩
  · intro found
    obtain ⟨place, rest, item, rfl, stands, below⟩ := found
    exact .inside list stands below

theorem reaches_of_no_items_iff (no_list : value.items? = none) {path : List Nat} {leaf : Value} :
    value.Reaches path leaf ↔ path = [] ∧ leaf = value := by
  constructor
  · intro reaches
    cases reaches with
    | here => exact ⟨rfl, rfl⟩
    | inside list => rw [no_list] at list; cases list
  · rintro ⟨rfl, rfl⟩
    exact .here _

/-! ## The objects of documents -/

theorem mem_of_mem_zipIdx {pair : Value × Nat} (mem : pair ∈ documents.zipIdx) :
    pair.1 ∈ documents :=
  List.mem_of_getElem? (List.mem_zipIdx_iff_getElem?.1 mem)

theorem map_snd_placesIn_of (each : ∀ document ∈ documents,
      document.leafPlaces.map Prod.snd = document.leaves) :
    (placesIn documents).map Prod.snd = documents.flatMap leaves := by
  rw [placesIn, List.map_flatMap]
  conv_rhs => rw [← List.zipIdx_map_fst 0 documents, List.flatMap_map]
  refine List.flatMap_congr fun pair mem => ?_
  rw [List.map_map, ← each pair.1 (mem_of_mem_zipIdx mem)]
  rfl

theorem mem_placesIn_of (each : ∀ document ∈ documents, ∀ path leaf,
      (path, leaf) ∈ document.leafPlaces ↔ leaf.items? = none ∧ document.Reaches path leaf)
    {path : List Nat} {leaf : Value} :
    (path, leaf) ∈ placesIn documents ↔ IsLeafOf documents path leaf := by
  simp only [placesIn, List.mem_flatMap, List.mem_map, Prod.exists, Prod.mk.injEq,
    List.mem_zipIdx_iff_getElem?, IsLeafOf]
  constructor
  · intro found
    obtain ⟨document, place, stands, rest, _, mem, rfl, rfl⟩ := found
    obtain ⟨no_list, reaches⟩ := (each document (List.mem_of_getElem? stands) rest _).1 mem
    exact ⟨no_list, place, rest, document, rfl, stands, reaches⟩
  · intro leaf_of
    obtain ⟨no_list, place, rest, document, rfl, stands, reaches⟩ := leaf_of
    exact ⟨document, place, stands, rest, leaf,
      (each document (List.mem_of_getElem? stands) rest leaf).2 ⟨no_list, reaches⟩, rfl, rfl⟩

theorem pairwise_snd_zipIdx (documents : List Value) (start : Nat) :
    (documents.zipIdx start).Pairwise fun a b => a.2 < b.2 := by
  have numbers : ((documents.zipIdx start).map Prod.snd).Pairwise (· < ·) := by
    rw [List.zipIdx_map_snd]
    exact List.pairwise_lt_range'
  exact List.pairwise_map.1 numbers

theorem pairwise_placesIn_of (each : ∀ document ∈ documents,
      document.leafPlaces.Pairwise fun a b => a.1 < b.1) :
    (placesIn documents).Pairwise fun a b => a.1 < b.1 := by
  rw [placesIn, List.pairwise_flatMap]
  constructor
  · intro pair mem
    rw [List.pairwise_map]
    refine (each pair.1 (mem_of_mem_zipIdx mem)).imp fun below => ?_
    exact List.cons_lt_cons_iff.2 (.inr ⟨rfl, below⟩)
  · refine (pairwise_snd_zipIdx documents 0).imp fun before a a_mem b b_mem => ?_
    obtain ⟨_, _, rfl⟩ := List.mem_map.1 a_mem
    obtain ⟨_, _, rfl⟩ := List.mem_map.1 b_mem
    exact List.cons_lt_cons_iff.2 (.inl before)

theorem map_snd_leafPlaces (value : Value) : value.leafPlaces.map Prod.snd = value.leaves := by
  induction value using items_induction with
  | step value ih =>
    cases list : value.items? with
    | none => rw [leafPlaces_of_no_items list, leaves_of_no_items list]; rfl
    | some items =>
      rw [leafPlaces_of_items list, leaves_of_items list]
      exact map_snd_placesIn_of (ih items list)

theorem mem_leafPlaces_iff (value : Value) (path : List Nat) (leaf : Value) :
    (path, leaf) ∈ value.leafPlaces ↔ leaf.items? = none ∧ value.Reaches path leaf := by
  induction value using items_induction generalizing path leaf with
  | step value ih =>
    cases list : value.items? with
    | none =>
      rw [leafPlaces_of_no_items list, List.mem_singleton, Prod.mk.injEq,
        reaches_of_no_items_iff list]
      refine ⟨fun same => ⟨?_, same⟩, And.right⟩
      rw [same.2, list]
    | some items =>
      rw [leafPlaces_of_items list, mem_placesIn_of (ih items list), IsLeafOf]
      exact and_congr_right fun no_list => (reaches_of_items_iff list no_list).symm

theorem pairwise_leafPlaces (value : Value) :
    value.leafPlaces.Pairwise fun a b => a.1 < b.1 := by
  induction value using items_induction with
  | step value ih =>
    cases list : value.items? with
    | none =>
      rw [leafPlaces_of_no_items list]
      exact List.pairwise_singleton _ _
    | some items =>
      rw [leafPlaces_of_items list]
      exact pairwise_placesIn_of (ih items list)

/-- The objects of documents are those at the places. -/
theorem map_snd_placesIn (documents : List Value) :
    (placesIn documents).map Prod.snd = documents.flatMap leaves :=
  map_snd_placesIn_of fun document _ => map_snd_leafPlaces document

theorem mem_placesIn_iff {path : List Nat} {leaf : Value} :
    (path, leaf) ∈ placesIn documents ↔ IsLeafOf documents path leaf :=
  mem_placesIn_of fun document _ => mem_leafPlaces_iff document

theorem pairwise_placesIn (documents : List Value) :
    (placesIn documents).Pairwise fun a b => a.1 < b.1 :=
  pairwise_placesIn_of fun document _ => pairwise_leafPlaces document

end MeshRoutes.Yaml.Value
