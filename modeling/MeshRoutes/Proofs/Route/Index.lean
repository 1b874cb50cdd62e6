import Mathlib.Data.Finset.Card
import MeshRoutes.Proofs.SortedMap
import MeshRoutes.Proofs.Text.Bytes
import MeshRoutes.Route.Index

/-!
# Domain names in the index

The index has an entry for each domain name that some route serves, ascending, and the entry holds
the routes of the name in the order of the list.

* `pairwise_fqdns_ofRoutes`, `mem_fqdns_ofRoutes`: its domain names.
* `entries_ofRoutes`: its entries, one for each of them.
* `index_partitions_routes`: the index loses no route, invents none and keeps their order.
-/

namespace MeshRoutes.RouteIndex

variable {routes others : List Route} {fqdn : String}

theorem pairwise_fqdns_ofRoutes (routes : List Route) :
    (ofRoutes routes).fqdns.Pairwise (· < ·) :=
  List.pairwise_map.2 (ofRoutes routes).ascending

theorem mem_fqdns_ofRoutes :
    fqdn ∈ (ofRoutes routes).fqdns ↔ ∃ route ∈ routes, route.fqdn = fqdn := by
  unfold fqdns ofRoutes
  simp only [SortedMap.mem_keys_iff, SortedMap.get?_groupBy, Option.ite_none_left_eq_some,
    Option.some.injEq, exists_and_left, exists_eq', and_true, List.filter_eq_nil_iff,
    decide_eq_true_eq]
  push Not
  rfl

theorem entries_ofRoutes (routes : List Route) :
    (ofRoutes routes).entries =
      (ofRoutes routes).fqdns.map fun fqdn => (fqdn, routes.filter (·.fqdn = fqdn)) := by
  have each : ∀ entry ∈ (ofRoutes routes).entries,
      (entry.1, routes.filter (·.fqdn = entry.1)) = entry := by
    intro entry mem
    exact Prod.ext rfl (SortedMap.mem_entries_groupBy.1 mem).2.symm
  rw [fqdns, SortedMap.keys, List.map_map]
  exact (List.map_id _).symm.trans (List.map_congr_left fun entry mem => (each entry mem).symm)

/-- The domain names are determined by which of them are served. -/
theorem fqdns_eq_of_mem_iff
    (same : ∀ fqdn, (∃ route ∈ routes, route.fqdn = fqdn) ↔ ∃ route ∈ others, route.fqdn = fqdn) :
    (ofRoutes routes).fqdns = (ofRoutes others).fqdns := by
  have asymm : @Std.Asymm String (· < ·) :=
    ⟨fun a b below above => String.lt_irrefl a (String.lt_trans below above)⟩
  refine List.Pairwise.eq_of_mem_iff (pairwise_fqdns_ofRoutes routes)
    (pairwise_fqdns_ofRoutes others) fun fqdn => ?_
  rw [mem_fqdns_ofRoutes, mem_fqdns_ofRoutes, same]

/-- The domain names do not depend on the order of the routes. -/
theorem fqdns_eq_of_perm (same : routes.Perm others) :
    (ofRoutes routes).fqdns = (ofRoutes others).fqdns :=
  fqdns_eq_of_mem_iff fun fqdn => by simp only [same.mem_iff]

/-! ## Groups -/

/-- A domain name has the routes that serve it, in the order of the list; a text that no route
serves has none. -/
theorem routesFor_ofRoutes (routes : List Route) (fqdn : String) :
    (ofRoutes routes).routesFor fqdn = routes.filter (·.fqdn = fqdn) := by
  unfold routesFor ofRoutes
  rw [SortedMap.get?_groupBy]
  split
  · next none => rw [none, Option.getD_none]
  · rw [Option.getD_some]

theorem nodup_fqdns_ofRoutes (routes : List Route) : (ofRoutes routes).fqdns.Nodup := by
  refine (pairwise_fqdns_ofRoutes routes).imp fun {a b} below => ?_
  rintro rfl
  exact String.lt_irrefl a below

/-- The elements of a list class by class, where the classes are those of distinct keys that cover
the list. -/
theorem flatMap_filter_perm {α κ : Type} [DecidableEq κ] (key : α → κ) {keys : List κ}
    (distinct : keys.Nodup) {list : List α} (covered : ∀ a ∈ list, key a ∈ keys) :
    (keys.flatMap fun k => list.filter (key · = k)).Perm list := by
  induction keys generalizing list with
  | nil =>
    cases list with
    | nil => exact .nil
    | cons a list => cases covered a List.mem_cons_self
  | cons k keys ih =>
    obtain ⟨absent, distinct⟩ := List.nodup_cons.1 distinct
    -- the other classes are the same without the elements of this one
    let others := list.filter fun a => !decide (key a = k)
    have same (k' : κ) (mem : k' ∈ keys) :
        list.filter (key · = k') = others.filter (key · = k') := by
      rw [List.filter_filter]
      refine List.filter_congr fun a _ => ?_
      by_cases this : key a = k'
      · have other : key a ≠ k := fun eq => absent (eq ▸ this ▸ mem)
        simp [this, this ▸ other]
      · simp [this]
    have others_covered : ∀ a ∈ others, key a ∈ keys := by
      intro a mem
      obtain ⟨mem, other⟩ := List.mem_filter.1 mem
      have other : key a ≠ k := by simpa using other
      exact (List.mem_cons.1 (covered a mem)).resolve_left other
    rw [List.flatMap_cons, List.flatMap_congr same]
    exact ((ih distinct others_covered).append_left _).trans (List.filter_append_perm _ list)

/-- An index takes a list of routes apart by domain names, and nothing is lost, added or moved. The
domain names ascend strictly by their bytes and are those that some route serves. Under every text
stand the routes that serve it, in the order of the list, with their destinations, one route after
the other. There are as many entries as different domain names, none for no route, and the groups
together are the routes. -/
structure Partitions (index : RouteIndex) (routes : List Route) : Prop where
  ascending : index.fqdns.Pairwise fun a b => textBytes a < textBytes b
  names : ∀ fqdn, fqdn ∈ index.fqdns ↔ ∃ route ∈ routes, route.fqdn = fqdn
  groups : ∀ fqdn, index.routesFor fqdn = routes.filter (·.fqdn = fqdn)
  destinations : ∀ fqdn, index.destinationsFor fqdn =
    (routes.filter (·.fqdn = fqdn)).flatMap (·.destinations)
  size : index.size = (routes.map Route.fqdn).toFinset.card
  isEmpty : index.isEmpty = true ↔ routes = []
  whole : (index.fqdns.flatMap index.routesFor).Perm routes

/-- The index of any routes takes them apart by domain names. -/
theorem index_partitions_routes (routes : List Route) : Partitions (ofRoutes routes) routes where
  ascending := (pairwise_fqdns_ofRoutes routes).imp text_lt_iff_bytes_lt.1
  names fqdn := mem_fqdns_ofRoutes
  groups := routesFor_ofRoutes routes
  destinations fqdn := by rw [destinationsFor, routesFor_ofRoutes]
  size := by
    have same : (ofRoutes routes).fqdns.toFinset = (routes.map Route.fqdn).toFinset := by
      ext fqdn
      rw [List.mem_toFinset, List.mem_toFinset, mem_fqdns_ofRoutes, List.mem_map]
    rw [← same, List.toFinset_card_of_nodup (nodup_fqdns_ofRoutes routes), fqdns, SortedMap.keys,
      List.length_map, SortedMap.size]
  isEmpty := by
    have no_entry : (ofRoutes routes).isEmpty = true ↔ (ofRoutes routes).fqdns = [] := by
      rw [SortedMap.isEmpty, List.isEmpty_iff, fqdns, SortedMap.keys, List.map_eq_nil_iff]
    rw [no_entry, List.eq_nil_iff_forall_not_mem, List.eq_nil_iff_forall_not_mem]
    simp only [mem_fqdns_ofRoutes]
    constructor
    · intro none route mem
      exact none route.fqdn ⟨route, mem, rfl⟩
    · rintro none fqdn ⟨route, mem, -⟩
      exact none route mem
  whole := by
    have groups : (ofRoutes routes).fqdns.flatMap (ofRoutes routes).routesFor =
        (ofRoutes routes).fqdns.flatMap fun fqdn => routes.filter (·.fqdn = fqdn) :=
      List.flatMap_congr fun fqdn _ => routesFor_ofRoutes routes fqdn
    rw [groups]
    exact flatMap_filter_perm Route.fqdn (nodup_fqdns_ofRoutes routes) fun route mem =>
      mem_fqdns_ofRoutes.2 ⟨route, mem, rfl⟩

/-- Routes meet under a domain name however they split it. -/
example :
    let whole : Route := { host := "", domain := { name := "a.b.c" } }
    let left : Route := { host := "a", domain := { name := "b.c" } }
    let right : Route := { host := "a.b", domain := { name := "c" } }
    (ofRoutes [right, left, whole]).entries = [("a.b.c", [right, left, whole])] := by
  decide

end MeshRoutes.RouteIndex
