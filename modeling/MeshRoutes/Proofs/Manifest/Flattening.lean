import Mathlib.Logic.Relation
import MeshRoutes.Proofs.Manifest.Leaves
import MeshRoutes.Proofs.Traversal

/-!
# Streams without their lists

Lists do not matter to what is loaded. The routes of a stream are the objects in it that say they
are routes, at whatever depth they stand, in the order of their places. If one of them is no route,
nothing is loaded, and neither is anything of a stream with a document that is not understood. So
documents may be put into a list, or taken out of one, at any depth.

* `Manifest.ListsRoutes`: the objects of documents that say they are routes, with their places.
* `Manifest.LoadsAll`: what is loaded of a stream, all or nothing.
* `Manifest.Regroups`: whether documents next to each other are put into a list.
-/

namespace MeshRoutes.Manifest

open Yaml (Value)

/-- What is loaded of a stream with the given documents, if they are understood. -/
def loadParsed (parsed : Option (List Value)) : Except Failure (List Route) :=
  match parsed.bind routesOf? with
  | some routes => .ok routes
  | none => .error (.serialization routeKind none)

/-- Whether an object says that it is a route. -/
def SaysRoute (leaf : Value) : Prop :=
  ∃ kind, leaf.get? "kind" = some kind ∧ kind.text? = some "Route"

/-- Whether a list has the objects of documents that say they are routes, each once, with its place
and in the order of the places. -/
structure ListsRoutes (documents : List Value) (places : List (List Nat × Value)) : Prop where
  mem_iff : ∀ path leaf, (path, leaf) ∈ places ↔
    Value.IsLeafOf documents path leaf ∧ SaysRoute leaf
  ascending : places.Pairwise fun a b => a.1 < b.1

/-- Whether a result is what is loaded of a stream with the given documents: all or nothing.
Something is loaded if the documents are understood and each object that says it is a route is one.
These objects are loaded then, in order, and otherwise it is said that a route cannot be read. -/
structure LoadsAll (parsed : Option (List Value)) (result : Except Failure (List Route)) :
    Prop where
  loads_iff : (∃ routes, result = .ok routes) ↔ ∃ documents, parsed = some documents ∧
    ∀ path leaf, Value.IsLeafOf documents path leaf → SaysRoute leaf →
      ∃ route, Route.ofDocument? leaf = some route
  loaded : ∀ documents routes, parsed = some documents → result = .ok routes →
    ∃ places, ListsRoutes documents places ∧
      List.Forall₂ (fun (_, leaf) route => Route.ofDocument? leaf = some route) places routes
  fails : (¬∃ routes, result = .ok routes) → result = .error (.serialization "Route" none)

/-- Whether documents become others when some that stand next to each other are put into a list, or
the elements of a list become others in this way. -/
inductive Regroups : List Value → List Value → Prop
  | wrap {before middle after : List Value} {list : Value} (items : list.items? = some middle) :
      Regroups (before ++ middle ++ after) (before ++ list :: after)
  | inside {before after items items' : List Value} {list list' : Value}
      (here : list.items? = some items) (there : list'.items? = some items')
      (regroups : Regroups items items') :
      Regroups (before ++ list :: after) (before ++ list' :: after)

variable {documents documents' : List Value} {routes : List Route}

/-! ## All or nothing -/

theorem isRoute_iff {leaf : Value} : leaf.isRoute = true ↔ SaysRoute leaf := by
  rw [Value.isRoute, beq_iff_eq, Option.bind_eq_some_iff]
  rfl

/-- The objects of documents that say they are routes. -/
def routePlaces (documents : List Value) : List (List Nat × Value) :=
  (Value.placesIn documents).filter (·.2.isRoute)

theorem routePlaces_listsRoutes (documents : List Value) :
    ListsRoutes documents (routePlaces documents) := by
  refine ⟨fun path leaf => ?_, (Value.pairwise_placesIn documents).filter _⟩
  rw [routePlaces, List.mem_filter, Value.mem_placesIn_iff, isRoute_iff]

theorem routesOf?_eq_mapM (documents : List Value) :
    routesOf? documents = ((routePlaces documents).map Prod.snd).mapM Route.ofDocument? := by
  rw [routesOf?, ← Value.map_snd_placesIn, List.filter_map]
  rfl

theorem routesOf?_eq_some_iff : routesOf? documents = some routes ↔
    List.Forall₂ (fun (_, leaf) route => Route.ofDocument? leaf = some route)
      (routePlaces documents) routes := by
  rw [routesOf?_eq_mapM, mapM_eq_some_iff, List.forall₂_map_left_iff]

theorem exists_routesOf?_iff : (∃ routes, routesOf? documents = some routes) ↔
    ∀ path leaf, Value.IsLeafOf documents path leaf → SaysRoute leaf →
      ∃ route, Route.ofDocument? leaf = some route := by
  simp only [routesOf?_eq_mapM, exists_mapM_eq_some_iff, List.forall_mem_map, Prod.forall,
    (routePlaces_listsRoutes documents).mem_iff, and_imp]

theorem loadParsed_eq_ok_iff {parsed : Option (List Value)} :
    loadParsed parsed = .ok routes ↔
      ∃ documents, parsed = some documents ∧ routesOf? documents = some routes := by
  rw [← Option.bind_eq_some_iff, loadParsed]
  cases parsed.bind routesOf? <;> simp

theorem loadParsed_loadsAll (parsed : Option (List Value)) :
    LoadsAll parsed (loadParsed parsed) := by
  refine ⟨?_, fun documents routes understood loaded => ?_, fun not_loaded => ?_⟩
  · simp only [loadParsed_eq_ok_iff, ← exists_routesOf?_iff]
    exact ⟨fun ⟨routes, documents, understood, found⟩ => ⟨documents, understood, routes, found⟩,
      fun ⟨documents, understood, routes, found⟩ => ⟨routes, documents, understood, found⟩⟩
  · obtain ⟨documents', understood', found⟩ := loadParsed_eq_ok_iff.1 loaded
    cases understood.symm.trans understood'
    exact ⟨_, routePlaces_listsRoutes documents, routesOf?_eq_some_iff.1 found⟩
  · unfold loadParsed at not_loaded ⊢
    split
    · next routes found =>
      rw [found] at not_loaded
      exact (not_loaded ⟨routes, rfl⟩).elim
    · rfl

/-! ## Lists -/

/-- Any documents that stand next to each other can be put into a list. -/
theorem Regroups.wrap_listOf (before middle after : List Value) :
    Regroups (before ++ middle ++ after) (before ++ Value.listOf middle :: after) :=
  .wrap (Value.items?_listOf middle)

theorem Regroups.leaves_eq (regroups : Regroups documents documents') :
    documents.flatMap Value.leaves = documents'.flatMap Value.leaves := by
  induction regroups with
  | wrap items =>
    simp only [List.flatMap_append, List.flatMap_cons, Value.leaves_of_items items,
      List.append_assoc]
  | inside here there _ ih =>
    simp only [List.flatMap_append, List.flatMap_cons, Value.leaves_of_items here,
      Value.leaves_of_items there, ih]

/-- Putting documents into lists and taking them out of lists, any number of times, changes no
object and not their order. -/
theorem leaves_eq_of_eqvGen (regrouped : Relation.EqvGen Regroups documents documents') :
    documents.flatMap Value.leaves = documents'.flatMap Value.leaves := by
  induction regrouped with
  | rel _ _ regroups => exact regroups.leaves_eq
  | refl _ => rfl
  | symm _ _ _ ih => exact ih.symm
  | trans _ _ _ _ _ here there => exact here.trans there

theorem routesOf?_eq_of_eqvGen (regrouped : Relation.EqvGen Regroups documents documents') :
    routesOf? documents = routesOf? documents' := by
  rw [routesOf?, routesOf?, leaves_eq_of_eqvGen regrouped]

/-- The routes of a stream are loaded in the order of their places, all or none, whatever its
documents are; and the lists in which they stand may be others. -/
theorem load_flattens_lists :
    (∀ stream, load stream = loadParsed (Yaml.parse? stream)) ∧
      (∀ parsed, LoadsAll parsed (loadParsed parsed)) ∧
      ∀ documents documents', Relation.EqvGen Regroups documents documents' →
        loadParsed (some documents) = loadParsed (some documents') := by
  refine ⟨fun _ => rfl, loadParsed_loadsAll, fun documents documents' regrouped => ?_⟩
  unfold loadParsed
  rw [Option.bind_some, Option.bind_some, routesOf?_eq_of_eqvGen regrouped]

/-- A route without destinations. -/
def routeValue : Value :=
  .mapping [(.text "kind", .text "Route"),
    (.text "metadata", .mapping [(.text "name", .text "r"), (.text "namespace", .text "ns")]),
    (.text "spec", .mapping [(.text "domain", .mapping [(.text "name", .text "example.com")])])]

/-- An empty document and a route, and the same in a list. The route is loaded. -/
theorem load_flattens_lists_in_list :
    Relation.EqvGen Regroups [.null, routeValue] [Value.listOf [.null, routeValue]] ∧
      loadParsed (some [.null, routeValue]) = loadParsed (some [Value.listOf [.null, routeValue]]) ∧
      ∃ route, loadParsed (some [Value.listOf [.null, routeValue]]) = .ok [route] := by
  have regrouped : Relation.EqvGen Regroups [.null, routeValue]
      [Value.listOf [.null, routeValue]] := .rel _ _ (Regroups.wrap_listOf [] [.null, routeValue] [])
  have same := load_flattens_lists.2.2 _ _ regrouped
  obtain ⟨route, read⟩ : ∃ route, Route.ofDocument? routeValue = some route :=
    Option.isSome_iff_exists.1 (by decide)
  have no_list : routeValue.items? = none := by
    simp only [routeValue, Value.items?, Value.get?_mapping_cons, String.reduceEq, if_false]
    rfl
  have is_route : routeValue.isRoute = true := by
    rw [isRoute_iff, routeValue, SaysRoute, Value.get?_mapping_cons]
    exact ⟨_, rfl, rfl⟩
  have leaves : [.null, routeValue].flatMap Value.leaves = [.null, routeValue] := by
    rw [List.flatMap_cons, List.flatMap_singleton, Value.leaves_of_no_items rfl,
      Value.leaves_of_no_items no_list]
    rfl
  have routes : [.null, routeValue].filter Value.isRoute = [routeValue] := by
    rw [List.filter_cons_of_neg (by decide), List.filter_cons_of_pos is_route, List.filter_nil]
  have loaded : routesOf? [.null, routeValue] = some [route] := by
    rw [routesOf?, leaves, routes, mapM_eq_some_iff]
    exact .cons read .nil
  refine ⟨regrouped, same, route, ?_⟩
  rw [← same]
  exact loadParsed_eq_ok_iff.2 ⟨_, rfl, loaded⟩

end MeshRoutes.Manifest
