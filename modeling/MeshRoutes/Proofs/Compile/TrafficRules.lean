import MeshRoutes.Proofs.Compile.Endpoints

/-!
# What virtual services are compiled

A virtual service stands for one domain name. It is made from all routes of the name, which share a
namespace then, and its rules are those of the routes that have a destination.

* `FqdnGroup`: the routes of a domain name in compilation order.
* `mem_virtualServices_compile`, `mem_skippedFqdns_compile`: the virtual services and the skipped
  domain names of a list of routes.
* `FqdnGroup.Compiles`: what is known of the virtual service of a group.
* `FqdnGroup.Compiles.exists_endpoint`: each backend stands for a destination of the group.
-/

namespace MeshRoutes

/-- The names of the services to which a virtual service routes. -/
def VirtualService.backendHosts (resource : VirtualService) : List String :=
  resource.http.flatMap fun rule => rule.backends.map (·.host)

/-- The routes of a domain name. -/
def routesServing (fqdn : String) (routes : List Route) : List Route :=
  routes.filter (·.fqdn = fqdn)

theorem mem_routesServing {fqdn : String} {routes : List Route} {route : Route} :
    route ∈ routesServing fqdn routes ↔ route ∈ routes ∧ route.fqdn = fqdn := by
  simp [routesServing]

/-- The routes of a domain name that has some, in the order in which they are compiled. -/
structure FqdnGroup (routes : List Route) where
  fqdn : String
  first : Route
  others : List Route
  all_eq : routesServing fqdn (routes.mergeSort Route.canonicalLe) = first :: others

variable {gateways : List String} {routes : List Route}

namespace FqdnGroup

/-- All routes of the group. -/
def all (group : FqdnGroup routes) : List Route := group.first :: group.others

/-- Whether a route of the group has a destination. -/
def HasDestinations (group : FqdnGroup routes) : Prop := ∃ route ∈ group.all, route.hasDestinations

/-- What the group is compiled to. -/
def compile (gateways : List String) (group : FqdnGroup routes) : Except Reason VirtualService :=
  virtualServiceFor gateways group.fqdn group.first group.others

theorem mem_all {group : FqdnGroup routes} {route : Route} :
    route ∈ group.all ↔ route ∈ routes ∧ route.fqdn = group.fqdn := by
  rw [all, ← group.all_eq, mem_routesServing, List.mem_mergeSort]

theorem first_mem (group : FqdnGroup routes) : group.first ∈ group.all := List.mem_cons_self

/-- A domain name has one group. -/
theorem eq_of_fqdn_eq {a b : FqdnGroup routes} (same : a.fqdn = b.fqdn) : a = b := by
  obtain ⟨fqdn, first, others, all_eq⟩ := a
  obtain ⟨fqdn', first', others', all_eq'⟩ := b
  cases same
  cases all_eq.symm.trans all_eq'
  rfl

end FqdnGroup

/-! ## All domain names -/

theorem outcome?_eq_some_iff {fqdn : String} {group : List Route}
    {outcome : Except Reason VirtualService} :
    TrafficRules.outcome? gateways fqdn group = some outcome ↔
      ∃ first others, group = first :: others ∧ (∃ route ∈ group, route.hasDestinations) ∧
        outcome = virtualServiceFor gateways fqdn first others := by
  cases group with
  | nil => simp [TrafficRules.outcome?]
  | cons first others =>
    simp only [TrafficRules.outcome?, List.any_eq_true, Option.ite_none_right_eq_some,
      Option.some.injEq, List.cons.injEq]
    constructor
    · intro found
      rcases found with ⟨some, rfl⟩
      exact ⟨first, others, ⟨rfl, rfl⟩, some, rfl⟩
    · intro found
      rcases found with ⟨_, _, ⟨rfl, rfl⟩, some, rfl⟩
      exact ⟨some, rfl⟩

theorem mem_outcomes_trafficRules {fqdn : String} {outcome : Except Reason VirtualService} :
    (fqdn, outcome) ∈ TrafficRules.outcomes gateways routes ↔
      TrafficRules.outcome? gateways fqdn (routesServing fqdn routes) = some outcome := by
  simp only [TrafficRules.outcomes, List.mem_filterMap, Prod.exists, Option.map_eq_some_iff,
    Prod.mk.injEq, RouteIndex.ofRoutes, SortedMap.mem_entries_groupBy]
  constructor
  · intro found
    rcases found with ⟨_, _, ⟨_, rfl⟩, _, done, rfl, rfl⟩
    exact done
  · intro done
    refine ⟨fqdn, _, ⟨?_, rfl⟩, outcome, done, rfl, rfl⟩
    obtain ⟨first, others, eq, _⟩ := outcome?_eq_some_iff.1 done
    exact fun nil => List.cons_ne_nil first others (eq.symm.trans nil)

/-- What becomes of the domain names is what becomes of their groups. -/
theorem mem_outcomes_mergeSort {fqdn : String} {outcome : Except Reason VirtualService} :
    (fqdn, outcome) ∈ TrafficRules.outcomes gateways (routes.mergeSort Route.canonicalLe) ↔
      ∃ group : FqdnGroup routes, group.HasDestinations ∧ group.fqdn = fqdn ∧
        group.compile gateways = outcome := by
  rw [mem_outcomes_trafficRules, outcome?_eq_some_iff]
  constructor
  · intro found
    rcases found with ⟨first, others, all_eq, some, rfl⟩
    rw [all_eq] at some
    exact ⟨⟨fqdn, first, others, all_eq⟩, some, rfl, rfl⟩
  · intro found
    rcases found with ⟨group, some, rfl, rfl⟩
    refine ⟨group.first, group.others, group.all_eq, ?_, rfl⟩
    rwa [group.all_eq]

theorem mem_virtualServices_compile {resource : VirtualService} :
    resource ∈ (compile gateways routes).virtualServices ↔
      ∃ group : FqdnGroup routes, group.HasDestinations ∧ group.compile gateways = .ok resource := by
  simp only [compile, TrafficRules.build, List.mem_filterMap, Prod.exists, mem_outcomes_mergeSort,
    toOption_eq_some_iff]
  constructor
  · intro found
    rcases found with ⟨_, _, ⟨group, some, _, rfl⟩, compiled⟩
    exact ⟨group, some, compiled⟩
  · intro found
    rcases found with ⟨group, some, compiled⟩
    exact ⟨_, _, ⟨group, some, rfl, rfl⟩, compiled⟩

theorem mem_skippedFqdns_compile {skipped : SkippedFqdn} :
    skipped ∈ (compile gateways routes).skippedFqdns ↔
      ∃ group : FqdnGroup routes, group.HasDestinations ∧ group.fqdn = skipped.fqdn ∧
        group.compile gateways = .error skipped.reason := by
  simp only [compile, TrafficRules.build, List.mem_filterMap, Prod.exists, mem_outcomes_mergeSort]
  constructor
  · intro found
    rcases found with ⟨fqdn, outcome, ⟨group, some, rfl, eq⟩, done⟩
    cases outcome with
    | ok resource => simp at done
    | error reason =>
      cases done
      exact ⟨group, some, rfl, eq⟩
  · intro found
    rcases found with ⟨group, some, fqdn, failed⟩
    refine ⟨_, _, ⟨group, some, fqdn, failed⟩, rfl⟩

/-! ## One domain name -/

theorem agreement_eq_ok_iff {fqdn : String} {first : Route} {others : List Route} :
    agreement fqdn first others = .ok () ↔
      (∀ route ∈ others, route.domain.internal = first.domain.internal) ∧
        ∀ route ∈ others, route.namespaceName = first.namespaceName := by
  unfold agreement
  split
  · next other found =>
    have mismatch := List.find?_some found
    have mem := List.mem_of_find?_eq_some found
    simp only [reduceCtorEq, false_iff, not_and]
    intro agree
    simp [agree other mem] at mismatch
  · next none =>
    split
    · next other found =>
      have mismatch := List.find?_some found
      have mem := List.mem_of_find?_eq_some found
      simp only [reduceCtorEq, false_iff, not_and]
      intro _ agree
      simp [agree other mem] at mismatch
    · next none' => simp_all

/-- The rules of a group: one for each route with a destination, in the order of the URLs. -/
def FqdnGroup.rulesOf (group : FqdnGroup routes) : List Route :=
  (group.all.mergeSort Route.urlLe).filter Route.hasDestinations

/-- What is known of the virtual service of a group. It is in the namespace that the routes share,
is named after the domain name, which it says it serves, and has a rule for each route with a
destination. -/
structure FqdnGroup.Compiles (group : FqdnGroup routes) (resource : VirtualService) : Prop where
  key_eq : resource.metadata.key = ⟨group.first.namespaceName, virtualServiceName group.fqdn⟩
  fqdn?_eq : resource.fqdn? = some group.fqdn
  namespace_eq : ∀ route ∈ group.all, route.namespaceName = group.first.namespaceName
  rules : List.Forall₂ (fun route rule => httpRule route = .ok rule) group.rulesOf resource.http

/-- All but the rules of the virtual service of a group. -/
theorem FqdnGroup.eq_of_compile {group : FqdnGroup routes} {resource : VirtualService}
    (compiled : group.compile gateways = .ok resource) :
    resource = {
      metadata := ResourceMetadata.annotate
        { name := virtualServiceName group.fqdn, ns := group.first.namespaceName }
        fqdnAnnotationKey group.fqdn
      hosts := [group.fqdn]
      gateways := gatewaysFor gateways group.first
      http := resource.http } := by
  obtain ⟨_, _, compiled⟩ := bind_eq_ok_iff.1 compiled
  obtain ⟨http, _, done⟩ := bind_eq_ok_iff.1 compiled
  cases done
  rfl

theorem FqdnGroup.compiles {group : FqdnGroup routes} {resource : VirtualService}
    (compiled : group.compile gateways = .ok resource) : group.Compiles resource := by
  obtain ⟨_, agree, compiled⟩ := bind_eq_ok_iff.1 compiled
  obtain ⟨http, rules, done⟩ := bind_eq_ok_iff.1 compiled
  cases done
  have namespace_eq := (agreement_eq_ok_iff.1 agree).2
  refine ⟨rfl, (SortedMap.get?_insert _ _ _ _).trans (if_pos rfl), ?_, mapM_eq_ok_iff.1 rules⟩
  intro route mem
  rcases List.mem_cons.1 mem with rfl | mem
  · rfl
  · exact namespace_eq route mem

/-- The backends of a rule stand for destinations of its route. -/
theorem host_of_httpRule_eq_ok {route : Route} {rule : HttpRule} (ruled : httpRule route = .ok rule)
    {served : Backend} (mem : served ∈ rule.backends) :
    ∃ destination ∈ route.destinations, served.host = serviceName destination.guid := by
  obtain ⟨weights, _, done⟩ := bind_eq_ok_iff.1 ruled
  cases done
  simp only [← List.map_uncurry_zip_eq_zipWith] at mem
  obtain ⟨⟨destination, weight⟩, pair_mem, rfl⟩ := List.mem_map.1 mem
  exact ⟨destination, (List.of_mem_zip pair_mem).1, rfl⟩

/-- Each backend of a virtual service stands for a destination of its domain name, in its
namespace. -/
theorem FqdnGroup.Compiles.exists_endpoint {group : FqdnGroup routes} {resource : VirtualService}
    (compiles : group.Compiles resource) {host : String} (mem : host ∈ resource.backendHosts) :
    ∃ endpoint : Endpoint routes, endpoint.route.fqdn = group.fqdn ∧
      endpoint.route.namespaceName = resource.metadata.ns ∧
      host = serviceName endpoint.destination.guid := by
  obtain ⟨rule, rule_mem, host_mem⟩ := List.mem_flatMap.1 mem
  obtain ⟨served, served_mem, rfl⟩ := List.mem_map.1 host_mem
  obtain ⟨route, rules_mem, ruled⟩ := exists_mem_left_of_forall₂ compiles.rules rule_mem
  have route_mem : route ∈ group.all := List.mem_mergeSort.1 (List.mem_of_mem_filter rules_mem)
  obtain ⟨destination, destination_mem, host⟩ := host_of_httpRule_eq_ok ruled served_mem
  obtain ⟨mem, fqdn⟩ := FqdnGroup.mem_all.1 route_mem
  refine ⟨⟨_, destination, mem, destination_mem⟩, fqdn, ?_, host⟩
  exact (compiles.namespace_eq _ route_mem).trans (congrArg ObjectKey.ns compiles.key_eq).symm

/-! ## Keys and domain names -/

/-- Where no two domain names share a digest, no two virtual services share a key. -/
theorem virtualService_eq_of_key_eq
    (digests : ∀ a ∈ routes, ∀ b ∈ routes, Sha256.hex a.fqdn = Sha256.hex b.fqdn → a.fqdn = b.fqdn)
    {a b : VirtualService} (a_mem : a ∈ (compile gateways routes).virtualServices)
    (b_mem : b ∈ (compile gateways routes).virtualServices)
    (same : a.metadata.key = b.metadata.key) : a = b := by
  obtain ⟨left, _, a_eq⟩ := mem_virtualServices_compile.1 a_mem
  obtain ⟨right, _, b_eq⟩ := mem_virtualServices_compile.1 b_mem
  rw [(left.compiles a_eq).key_eq, (right.compiles b_eq).key_eq] at same
  have hex := (String.append_right_inj _).1 (congrArg ObjectKey.name same)
  obtain ⟨left_mem, left_fqdn⟩ := FqdnGroup.mem_all.1 left.first_mem
  obtain ⟨right_mem, right_fqdn⟩ := FqdnGroup.mem_all.1 right.first_mem
  rw [← left_fqdn, ← right_fqdn] at hex
  have fqdn := digests _ left_mem _ right_mem hex
  rw [FqdnGroup.eq_of_fqdn_eq (left_fqdn.symm.trans (fqdn.trans right_fqdn)), b_eq] at a_eq
  exact (Except.ok.inj a_eq).symm

/-! ## A single route -/

section Single

variable {route : Route}

/-- The group of a route that is alone. -/
def FqdnGroup.single (route : Route) : FqdnGroup [route] where
  fqdn := route.fqdn
  first := route
  others := []
  all_eq := by simp [routesServing]

theorem FqdnGroup.eq_single (group : FqdnGroup [route]) : group = .single route := by
  obtain ⟨mem, fqdn⟩ := FqdnGroup.mem_all.1 group.first_mem
  rw [List.mem_singleton.1 mem] at fqdn
  exact FqdnGroup.eq_of_fqdn_eq fqdn.symm

/-- The virtual service of a route that is alone has its rule only. -/
theorem FqdnGroup.compile_single (some : route.hasDestinations) :
    (FqdnGroup.single route).compile gateways = (httpRule route).map fun rule =>
      { metadata := ResourceMetadata.annotate
          { name := virtualServiceName route.fqdn, ns := route.namespaceName }
          fqdnAnnotationKey route.fqdn
        hosts := [route.fqdn]
        gateways := gatewaysFor gateways route
        http := [rule] } := by
  have agree : agreement route.fqdn route [] = .ok () := rfl
  simp only [FqdnGroup.compile, single, virtualServiceFor, agree, List.mergeSort_singleton,
    List.filter_cons_of_pos some, List.filter_nil, List.mapM_cons, List.mapM_nil]
  cases httpRule route <;> rfl

theorem mem_virtualServices_compile_single (some : route.hasDestinations)
    {resource : VirtualService} :
    resource ∈ (MeshRoutes.compile gateways [route]).virtualServices ↔
      (FqdnGroup.single route).compile gateways = .ok resource := by
  rw [mem_virtualServices_compile]
  constructor
  · intro found
    rcases found with ⟨group, _, compiled⟩
    rw [← group.eq_single]
    exact compiled
  · exact fun compiled => ⟨.single route, ⟨route, List.mem_cons_self, some⟩, compiled⟩

theorem mem_skippedFqdns_compile_single (some : route.hasDestinations) {skipped : SkippedFqdn} :
    skipped ∈ (MeshRoutes.compile gateways [route]).skippedFqdns ↔
      route.fqdn = skipped.fqdn ∧
        (FqdnGroup.single route).compile gateways = .error skipped.reason := by
  rw [mem_skippedFqdns_compile]
  constructor
  · intro found
    rcases found with ⟨group, _, fqdn, failed⟩
    rw [group.eq_single] at fqdn failed
    exact ⟨fqdn, failed⟩
  · exact fun failed => ⟨.single route, ⟨route, List.mem_cons_self, some⟩, failed⟩

/-- A route of a host under one domain, with one destination that may have a share. -/
def plainRoute (host guid : String) (weight : Option UInt32) : Route where
  metadata := { name := some ("r-" ++ host), ns := some "ns" }
  host := host
  url := host ++ ".example.com"
  domain := { name := "example.com" }
  destinations := [{ guid, weight, port := some 8080, app := { guid := "app", processType := "web" } }]

theorem exists_compile_single_plainRoute (gateways : List String) (host guid : String) :
    ∃ resource, (FqdnGroup.single (plainRoute host guid none)).compile gateways = .ok resource := by
  rw [FqdnGroup.compile_single rfl]
  exact ⟨_, rfl⟩

end Single

end MeshRoutes
