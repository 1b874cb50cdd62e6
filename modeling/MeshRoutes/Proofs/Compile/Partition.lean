import MeshRoutes.Proofs.Compile.TrafficRules
import MeshRoutes.Proofs.Route.Weights
import MeshRoutes.Proofs.Text.Bytes

/-!
# Each domain name is served or skipped

A domain name that has a destination is served by one virtual service or is skipped once, and which
of the two depends on all its routes alone, also on those without destinations. It is served when
they can be served together: they agree on the visibility of the domain and on the namespace, and
the weights of each make up the whole.

* `Servable`: whether routes can be served together.
* `FqdnGroup.exists_compile_eq_ok_iff`: a group is compiled when its routes are servable.
* `pairwise_virtualServices_compile`, `pairwise_skippedFqdns_compile`: what is compiled ascends.
* `PartitionsFqdns`: how the domain names of some routes are divided.
-/

namespace MeshRoutes

/-- Whether routes can be served together: they agree on whether the domain is internal, share a
namespace, and the weights of each make up the whole. -/
structure Servable (routes : List Route) : Prop where
  internal_eq : ∀ a ∈ routes, ∀ b ∈ routes, a.domain.internal = b.domain.internal
  namespace_eq : ∀ a ∈ routes, ∀ b ∈ routes, a.metadata.ns.getD "" = b.metadata.ns.getD ""
  weights : ∀ route ∈ routes, WeightsAddUp route.destinations

/-- Whether one of some routes has a destination. -/
def HaveDestination (routes : List Route) : Prop := ∃ route ∈ routes, route.destinations ≠ []

/-- The domain names that virtual services say they serve. -/
def Compiled.servedFqdns (compiled : Compiled) : List String :=
  compiled.virtualServices.filterMap (·.fqdn?)

variable {gateways : List String} {routes : List Route}

/-! ## One domain name -/

/-- Fewer routes can be served together as well. -/
theorem Servable.of_subset {others : List Route} (servable : Servable routes)
    (subset : ∀ route ∈ others, route ∈ routes) : Servable others where
  internal_eq a a_mem b b_mem := servable.internal_eq a (subset a a_mem) b (subset b b_mem)
  namespace_eq a a_mem b b_mem := servable.namespace_eq a (subset a a_mem) b (subset b b_mem)
  weights route mem := servable.weights route (subset route mem)

theorem Servable.namespaceName_eq (servable : Servable routes) {a b : Route} (a_mem : a ∈ routes)
    (b_mem : b ∈ routes) : a.namespaceName = b.namespaceName := by
  rw [a.namespaceName_eq, b.namespaceName_eq]
  exact servable.namespace_eq a a_mem b b_mem

@[simp] theorem Route.hasDestinations_iff {route : Route} :
    route.hasDestinations = true ↔ route.destinations ≠ [] := by
  simp [hasDestinations]

theorem exists_httpRule_eq_ok_iff {route : Route} :
    (∃ rule, httpRule route = .ok rule) ↔ WeightsAddUp route.destinations := by
  rw [← @exists_resolveWeights_eq_ok_iff route.guid]
  constructor
  · intro ruled
    obtain ⟨rule, ruled⟩ := ruled
    obtain ⟨weights, resolved, _⟩ := bind_eq_ok_iff.1 ruled
    exact ⟨weights, resolved⟩
  · intro resolves
    obtain ⟨weights, resolved⟩ := resolves
    exact ⟨_, bind_eq_ok_iff.2 ⟨weights, resolved, rfl⟩⟩

namespace FqdnGroup

variable {group : FqdnGroup routes}

theorem mem_all_iff_mem_routesServing {route : Route} :
    route ∈ group.all ↔ route ∈ routesServing group.fqdn routes := by
  rw [mem_all, mem_routesServing]

theorem hasDestinations_iff :
    group.HasDestinations ↔ HaveDestination (routesServing group.fqdn routes) := by
  simp only [HasDestinations, HaveDestination, mem_all_iff_mem_routesServing,
    Route.hasDestinations_iff]

theorem exists_of_haveDestination {fqdn : String}
    (some_destination : HaveDestination (routesServing fqdn routes)) :
    ∃ group : FqdnGroup routes, group.fqdn = fqdn ∧ group.HasDestinations := by
  have serving : routesServing fqdn (routes.mergeSort Route.canonicalLe) ≠ [] := by
    obtain ⟨route, route_mem, _⟩ := some_destination
    obtain ⟨mem, serves⟩ := mem_routesServing.1 route_mem
    have sorted_mem : route ∈ routes.mergeSort Route.canonicalLe := List.mem_mergeSort.2 mem
    exact List.ne_nil_of_mem (mem_routesServing.2 ⟨sorted_mem, serves⟩)
  obtain ⟨first, others, all_eq⟩ := List.exists_cons_of_ne_nil serving
  exact ⟨⟨fqdn, first, others, all_eq⟩, rfl, hasDestinations_iff.2 some_destination⟩

/-- A route of the group has a rule, or it has nothing of which weights could be wrong. -/
theorem exists_rules_eq_ok_iff :
    (∃ http, group.rulesOf.mapM httpRule = .ok http) ↔
      ∀ route ∈ group.all, WeightsAddUp route.destinations := by
  rw [exists_mapM_eq_ok_iff]
  simp only [exists_httpRule_eq_ok_iff, rulesOf, List.mem_filter, List.mem_mergeSort]
  constructor
  · intro ruled route mem
    by_cases none : route.destinations = []
    · exact .inl fun destination destination_mem => by simp [none] at destination_mem
    · exact ruled route ⟨mem, Route.hasDestinations_iff.2 none⟩
  · intro addUp route mem
    exact addUp route mem.1

/-- A group is compiled exactly when its routes can be served together. -/
theorem exists_compile_eq_ok_iff (gateways : List String) (group : FqdnGroup routes) :
    (∃ resource, group.compile gateways = .ok resource) ↔
      Servable (routesServing group.fqdn routes) := by
  have all_servable : Servable group.all ↔ Servable (routesServing group.fqdn routes) :=
    ⟨fun servable => servable.of_subset fun _ => mem_all_iff_mem_routesServing.2,
      fun servable => servable.of_subset fun _ => mem_all_iff_mem_routesServing.1⟩
  rw [← all_servable]
  constructor
  · intro compiles
    obtain ⟨resource, compiled⟩ := compiles
    obtain ⟨_, agree, compiled⟩ := bind_eq_ok_iff.1 compiled
    obtain ⟨http, rules, _⟩ := bind_eq_ok_iff.1 compiled
    obtain ⟨internal_eq, namespace_eq⟩ := agreement_eq_ok_iff.1 agree
    have internal_eq : ∀ route ∈ group.all, route.domain.internal = group.first.domain.internal :=
      List.forall_mem_cons.2 ⟨rfl, internal_eq⟩
    have namespace_eq : ∀ route ∈ group.all, route.namespaceName = group.first.namespaceName :=
      List.forall_mem_cons.2 ⟨rfl, namespace_eq⟩
    refine ⟨fun a a_mem b b_mem => ?_, fun a a_mem b b_mem => ?_,
      exists_rules_eq_ok_iff.1 ⟨http, rules⟩⟩
    · exact (internal_eq a a_mem).trans (internal_eq b b_mem).symm
    · rw [← a.namespaceName_eq, ← b.namespaceName_eq]
      exact (namespace_eq a a_mem).trans (namespace_eq b b_mem).symm
  · intro servable
    have others_mem {route : Route} (mem : route ∈ group.others) : route ∈ group.all :=
      List.mem_cons_of_mem _ mem
    have agree : agreement group.fqdn group.first group.others = .ok () :=
      agreement_eq_ok_iff.2
        ⟨fun route mem => servable.internal_eq route (others_mem mem) _ group.first_mem,
          fun route mem => servable.namespaceName_eq (others_mem mem) group.first_mem⟩
    obtain ⟨http, rules⟩ := exists_rules_eq_ok_iff.2 servable.weights
    exact ⟨_, bind_eq_ok_iff.2 ⟨(), agree, bind_eq_ok_iff.2 ⟨http, rules, rfl⟩⟩⟩

end FqdnGroup

/-! ## The order of the domain names -/

theorem pairwise_outcomes_trafficRules (gateways : List String) (routes : List Route) :
    (TrafficRules.outcomes gateways routes).Pairwise fun a b => a.1 < b.1 := by
  unfold TrafficRules.outcomes
  refine List.pairwise_filterMap.2 ((RouteIndex.ofRoutes routes).ascending.imp ?_)
  intro a b below outcome a_outcome outcome' b_outcome
  obtain ⟨_, _, rfl⟩ := Option.map_eq_some_iff.1 a_outcome
  obtain ⟨_, _, rfl⟩ := Option.map_eq_some_iff.1 b_outcome
  exact below

theorem fqdn?_of_mem_outcomes {fqdn : String} {resource : VirtualService}
    (mem : (fqdn, .ok resource) ∈
      TrafficRules.outcomes gateways (routes.mergeSort Route.canonicalLe)) :
    resource.fqdn? = some fqdn := by
  obtain ⟨group, _, rfl, compiled⟩ := mem_outcomes_mergeSort.1 mem
  exact (group.compiles compiled).fqdn?_eq

/-- Virtual services ascend by the domain names that they say they serve. -/
theorem pairwise_virtualServices_compile (gateways : List String) (routes : List Route) :
    (compile gateways routes).virtualServices.Pairwise fun a b =>
      ∀ fqdn, a.fqdn? = some fqdn → ∀ fqdn', b.fqdn? = some fqdn' → fqdn < fqdn' := by
  have ascends := pairwise_outcomes_trafficRules gateways (routes.mergeSort Route.canonicalLe)
  refine List.pairwise_filterMap.2 (ascends.imp_of_mem ?_)
  intro a b a_mem b_mem below resource a_ok resource' b_ok fqdn serves fqdn' serves'
  obtain ⟨name, outcome⟩ := a
  obtain ⟨name', outcome'⟩ := b
  obtain rfl := toOption_eq_some_iff.1 a_ok
  obtain rfl := toOption_eq_some_iff.1 b_ok
  cases serves.symm.trans (fqdn?_of_mem_outcomes a_mem)
  cases serves'.symm.trans (fqdn?_of_mem_outcomes b_mem)
  exact below

/-- Skipped domain names ascend. -/
theorem pairwise_skippedFqdns_compile (gateways : List String) (routes : List Route) :
    (compile gateways routes).skippedFqdns.Pairwise fun a b => a.fqdn < b.fqdn := by
  have ascends := pairwise_outcomes_trafficRules gateways (routes.mergeSort Route.canonicalLe)
  refine List.pairwise_filterMap.2 (ascends.imp ?_)
  intro a b below skipped a_error skipped' b_error
  obtain ⟨name, outcome⟩ := a
  obtain ⟨name', outcome'⟩ := b
  cases outcome with
  | ok resource => cases a_error
  | error reason =>
    cases outcome' with
    | ok resource => cases b_error
    | error reason' =>
      cases a_error
      cases b_error
      exact below

theorem map_fqdn?_virtualServices (gateways : List String) (routes : List Route) :
    (compile gateways routes).virtualServices.map (·.fqdn?) =
      (compile gateways routes).servedFqdns.map some := by
  have served : ∀ resource ∈ (compile gateways routes).virtualServices,
      ∃ fqdn, resource.fqdn? = some fqdn := by
    intro resource mem
    obtain ⟨group, _, compiled⟩ := mem_virtualServices_compile.1 mem
    exact ⟨group.fqdn, (group.compiles compiled).fqdn?_eq⟩
  unfold Compiled.servedFqdns
  generalize (compile gateways routes).virtualServices = resources at served
  induction resources with
  | nil => rfl
  | cons resource resources ih =>
    obtain ⟨⟨fqdn, serves⟩, rest⟩ := List.forall_mem_cons.1 served
    rw [List.map_cons, List.filterMap_cons_some serves, List.map_cons, serves, ih rest]

/-! ## All domain names -/

theorem mem_servedFqdns_compile {fqdn : String} :
    fqdn ∈ (compile gateways routes).servedFqdns ↔
      HaveDestination (routesServing fqdn routes) ∧ Servable (routesServing fqdn routes) := by
  simp only [Compiled.servedFqdns, List.mem_filterMap, mem_virtualServices_compile]
  constructor
  · intro served
    rcases served with ⟨resource, ⟨group, some_destination, compiled⟩, serves⟩
    cases (group.compiles compiled).fqdn?_eq.symm.trans serves
    exact ⟨FqdnGroup.hasDestinations_iff.1 some_destination,
      (group.exists_compile_eq_ok_iff gateways).1 ⟨resource, compiled⟩⟩
  · intro valid
    obtain ⟨some_destination, servable⟩ := valid
    obtain ⟨group, rfl, has_destinations⟩ :=
      FqdnGroup.exists_of_haveDestination some_destination
    obtain ⟨resource, compiled⟩ := (group.exists_compile_eq_ok_iff gateways).2 servable
    exact ⟨resource, ⟨group, has_destinations, compiled⟩, (group.compiles compiled).fqdn?_eq⟩

/-- The virtual service of a domain name is in the namespace of each of its routes. -/
theorem key_eq_of_serves {fqdn : String} {route : Route} {resource : VirtualService}
    (mem : resource ∈ (compile gateways routes).virtualServices)
    (serves : resource.fqdn? = some fqdn) (route_mem : route ∈ routesServing fqdn routes) :
    resource.metadata.key = ⟨route.namespaceName, virtualServiceName fqdn⟩ := by
  obtain ⟨group, _, compiled⟩ := mem_virtualServices_compile.1 mem
  have compiles := group.compiles compiled
  cases compiles.fqdn?_eq.symm.trans serves
  have all_mem : route ∈ group.all := FqdnGroup.mem_all_iff_mem_routesServing.2 route_mem
  rw [compiles.key_eq, compiles.namespace_eq route all_mem]

/-- A domain name whose routes can be served together has a virtual service in their namespace. -/
theorem exists_virtualService_of_servable (gateways : List String) {fqdn : String} {route : Route}
    (route_mem : route ∈ routesServing fqdn routes)
    (some_destination : HaveDestination (routesServing fqdn routes))
    (servable : Servable (routesServing fqdn routes)) :
    ∃ resource ∈ (compile gateways routes).virtualServices,
      resource.metadata.key = ⟨route.namespaceName, virtualServiceName fqdn⟩ ∧
        resource.fqdn? = some fqdn := by
  have served : fqdn ∈ (compile gateways routes).servedFqdns :=
    mem_servedFqdns_compile.2 ⟨some_destination, servable⟩
  obtain ⟨resource, mem, serves⟩ := List.mem_filterMap.1 served
  exact ⟨resource, mem, key_eq_of_serves mem serves route_mem, serves⟩

theorem mem_map_skippedFqdns_compile {fqdn : String} :
    fqdn ∈ (compile gateways routes).skippedFqdns.map (·.fqdn) ↔
      HaveDestination (routesServing fqdn routes) ∧ ¬Servable (routesServing fqdn routes) := by
  simp only [List.mem_map, mem_skippedFqdns_compile]
  constructor
  · intro found
    rcases found with ⟨skipped, ⟨group, some_destination, same, failed⟩, rfl⟩
    rw [← same]
    refine ⟨FqdnGroup.hasDestinations_iff.1 some_destination, fun servable => ?_⟩
    obtain ⟨resource, compiled⟩ := (group.exists_compile_eq_ok_iff gateways).2 servable
    cases failed.symm.trans compiled
  · intro invalid
    obtain ⟨some_destination, not_servable⟩ := invalid
    obtain ⟨group, rfl, has_destinations⟩ :=
      FqdnGroup.exists_of_haveDestination some_destination
    cases outcome : group.compile gateways with
    | ok resource =>
      exact (not_servable ((group.exists_compile_eq_ok_iff gateways).1 ⟨resource, outcome⟩)).elim
    | error reason =>
      exact ⟨⟨group.fqdn, reason⟩, ⟨group, has_destinations, rfl, outcome⟩, rfl⟩

/-- How the domain names of some routes are divided into those that are served and those that are
skipped, which both ascend by bytes. Each virtual service says which one it serves. A domain name
with a destination is served or skipped, and only once: served if its routes can be served together,
and otherwise skipped. -/
structure PartitionsFqdns (routes : List Route) (compiled : Compiled) : Prop where
  annotated : compiled.virtualServices.map (·.fqdn?) = compiled.servedFqdns.map some
  served_ascend : compiled.servedFqdns.Pairwise fun a b => textBytes a < textBytes b
  skipped_ascend :
    (compiled.skippedFqdns.map (·.fqdn)).Pairwise fun a b => textBytes a < textBytes b
  once : ∀ fqdn, HaveDestination (routesServing fqdn routes) →
    compiled.servedFqdns.count fqdn + (compiled.skippedFqdns.map (·.fqdn)).count fqdn = 1
  served_iff : ∀ fqdn, fqdn ∈ compiled.servedFqdns ↔
    HaveDestination (routesServing fqdn routes) ∧ Servable (routesServing fqdn routes)
  skipped_iff : ∀ fqdn, fqdn ∈ compiled.skippedFqdns.map (·.fqdn) ↔
    HaveDestination (routesServing fqdn routes) ∧ ¬Servable (routesServing fqdn routes)

/-- Compilation divides the domain names that have a destination into those that are served and
those that are skipped. -/
theorem compile_partitions_fqdns (gateways : List String) (routes : List Route) :
    PartitionsFqdns routes (compile gateways routes) := by
  let compiled := compile gateways routes
  have served_ascend : compiled.servedFqdns.Pairwise (· < ·) :=
    List.pairwise_filterMap.2 (pairwise_virtualServices_compile gateways routes)
  have skipped_ascend : (compiled.skippedFqdns.map (·.fqdn)).Pairwise (· < ·) :=
    List.pairwise_map.2 (pairwise_skippedFqdns_compile gateways routes)
  have nodup {fqdns : List String} (ascend : fqdns.Pairwise (· < ·)) : fqdns.Nodup := by
    refine ascend.imp fun below => ?_
    rintro rfl
    exact String.lt_irrefl _ below
  refine ⟨map_fqdn?_virtualServices gateways routes,
    served_ascend.imp fun below => text_lt_iff_bytes_lt.1 below,
    skipped_ascend.imp fun below => text_lt_iff_bytes_lt.1 below, fun fqdn some_destination => ?_,
    fun fqdn => mem_servedFqdns_compile, fun fqdn => mem_map_skippedFqdns_compile⟩
  by_cases servable : Servable (routesServing fqdn routes)
  · have served : fqdn ∈ compiled.servedFqdns :=
      mem_servedFqdns_compile.2 ⟨some_destination, servable⟩
    have not_skipped : fqdn ∉ compiled.skippedFqdns.map (·.fqdn) := fun skipped =>
      (mem_map_skippedFqdns_compile.1 skipped).2 servable
    rw [List.count_eq_one_of_mem (nodup served_ascend) served, List.count_eq_zero.2 not_skipped]
  · have skipped : fqdn ∈ compiled.skippedFqdns.map (·.fqdn) :=
      mem_map_skippedFqdns_compile.2 ⟨some_destination, servable⟩
    have not_served : fqdn ∉ compiled.servedFqdns := fun served =>
      servable (mem_servedFqdns_compile.1 served).2
    rw [List.count_eq_zero.2 not_served, List.count_eq_one_of_mem (nodup skipped_ascend) skipped]

end MeshRoutes
