import MeshRoutes.Proofs.Compile.Partition
import MeshRoutes.Proofs.Route.Order
import MeshRoutes.Proofs.Sorting

/-!
# Domain names do not affect each other

Routes are listed together, are put in order together and are compiled in one go. A route of one
domain name nevertheless has no effect on what becomes of another name, whether or not it can be
served: from routes that stand between those of other domain names the same is compiled as from
these routes alone.

* `Interleaves`: whether a list has the elements of two others, each in their order.
* `mem_outcomes_of_interleaves`: what becomes of the domain names of both is what becomes of those
  of each.
* `endpointsByRoute`: what becomes of the destinations, route by route.
* `CompilesApart`: what two groups of routes are compiled to when they are listed together.
-/

namespace MeshRoutes

/-- Whether a list has the elements of two others and those of each in their order. -/
inductive Interleaves {α : Type} : List α → List α → List α → Prop
  | nil : Interleaves [] [] []
  | left {a : α} {left right both : List α} (rest : Interleaves left right both) :
      Interleaves (a :: left) right (a :: both)
  | right {a : α} {left right both : List α} (rest : Interleaves left right both) :
      Interleaves left (a :: right) (a :: both)

namespace Interleaves

variable {α : Type} {left right both : List α}

theorem swap (interleaves : Interleaves left right both) : Interleaves right left both := by
  induction interleaves with
  | nil => exact .nil
  | left _ ih => exact .right ih
  | right _ ih => exact .left ih

/-- Where an element of the second list is not kept, the elements of the first are what is kept. -/
theorem filter_eq (interleaves : Interleaves left right both) {keep : α → Bool}
    (dropped : ∀ a ∈ right, keep a = false) : both.filter keep = left.filter keep := by
  induction interleaves with
  | nil => rfl
  | left _ ih => rw [List.filter_cons, List.filter_cons, ih dropped]
  | right _ ih =>
    obtain ⟨head, tail⟩ := List.forall_mem_cons.1 dropped
    rw [List.filter_cons_of_neg (Bool.eq_false_iff.1 head), ih tail]

end Interleaves

/-- Whether a virtual service stands at or before another by domain name. -/
def VirtualService.fqdnLe (a b : VirtualService) : Bool := optionalNameLe a.fqdn? b.fqdn?

/-- Whether a skipped domain name stands at or before another. -/
def SkippedFqdn.fqdnLe (a b : SkippedFqdn) : Bool := decide (a.fqdn ≤ b.fqdn)

/-- What becomes of the destinations of each route, in the order in which routes are compiled. -/
def endpointsByRoute (routes : List Route) : List (Route × Endpoints) :=
  (routes.mergeSort Route.canonicalLe).map fun route => (route, Endpoints.build [route])

variable {gateways : List String} {left right both : List Route}

/-! ## Domain names -/

theorem filter_mergeSort_canonicalLe (keep : Route → Bool) (routes : List Route) :
    (routes.mergeSort Route.canonicalLe).filter keep =
      (routes.filter keep).mergeSort Route.canonicalLe :=
  @filter_mergeSort _ Route.canonicalLe (fun _ _ _ => Route.canonicalLe_trans)
    Route.canonicalLe_total keep routes

/-- The routes of a domain name are put in order as if they were listed alone. -/
theorem routesServing_mergeSort (fqdn : String) (routes : List Route) :
    routesServing fqdn (routes.mergeSort Route.canonicalLe) =
      (routesServing fqdn routes).mergeSort Route.canonicalLe :=
  filter_mergeSort_canonicalLe _ routes

/-- Routes of other domain names do not come between those of one. -/
theorem routesServing_mergeSort_of_interleaves (interleaves : Interleaves left right both)
    {fqdn : String} (others : ∀ route ∈ right, route.fqdn ≠ fqdn) :
    routesServing fqdn (both.mergeSort Route.canonicalLe) =
      routesServing fqdn (left.mergeSort Route.canonicalLe) := by
  have same : routesServing fqdn both = routesServing fqdn left :=
    interleaves.filter_eq fun route mem => decide_eq_false (others route mem)
  rw [routesServing_mergeSort, routesServing_mergeSort, same]

theorem exists_route_of_mem_outcomes {routes : List Route} {fqdn : String}
    {outcome : Except Reason VirtualService}
    (mem : (fqdn, outcome) ∈
      TrafficRules.outcomes gateways (routes.mergeSort Route.canonicalLe)) :
    ∃ route ∈ routes, route.fqdn = fqdn := by
  obtain ⟨group, _, rfl, _⟩ := mem_outcomes_mergeSort.1 mem
  exact ⟨group.first, FqdnGroup.mem_all.1 group.first_mem⟩

/-- What becomes of the domain names of one group does not depend on the other group. -/
theorem mem_outcomes_iff_of_others (interleaves : Interleaves left right both) {fqdn : String}
    (others : ∀ route ∈ right, route.fqdn ≠ fqdn) {outcome : Except Reason VirtualService} :
    (fqdn, outcome) ∈ TrafficRules.outcomes gateways (both.mergeSort Route.canonicalLe) ↔
      (fqdn, outcome) ∈ TrafficRules.outcomes gateways (left.mergeSort Route.canonicalLe) := by
  rw [mem_outcomes_trafficRules, mem_outcomes_trafficRules,
    routesServing_mergeSort_of_interleaves interleaves others]

theorem mem_outcomes_of_interleaves (interleaves : Interleaves left right both)
    (apart : ∀ a ∈ left, ∀ b ∈ right, a.fqdn ≠ b.fqdn)
    (outcome : String × Except Reason VirtualService) :
    outcome ∈ TrafficRules.outcomes gateways (both.mergeSort Route.canonicalLe) ↔
      outcome ∈ TrafficRules.outcomes gateways (left.mergeSort Route.canonicalLe) ∨
        outcome ∈ TrafficRules.outcomes gateways (right.mergeSort Route.canonicalLe) := by
  obtain ⟨fqdn, result⟩ := outcome
  by_cases served : ∃ route ∈ left, route.fqdn = fqdn
  · obtain ⟨route, mem, rfl⟩ := served
    have others : ∀ other ∈ right, other.fqdn ≠ route.fqdn := fun other other_mem =>
      (apart route mem other other_mem).symm
    rw [mem_outcomes_iff_of_others interleaves others]
    refine ⟨.inl, fun found => found.resolve_right fun found => ?_⟩
    obtain ⟨other, other_mem, same⟩ := exists_route_of_mem_outcomes found
    exact others other other_mem same
  · have others : ∀ route ∈ left, route.fqdn ≠ fqdn := fun route mem same =>
      served ⟨route, mem, same⟩
    rw [mem_outcomes_iff_of_others interleaves.swap others]
    exact ⟨.inr, fun found => found.resolve_left fun found =>
      served (exists_route_of_mem_outcomes found)⟩

section Picked

/-! ### What is picked from it -/

variable {β : Type} {pick : String × Except Reason VirtualService → Option β}
  {name : β → Option String}
  (named : ∀ routes : List Route, ∀ outcome ∈
    TrafficRules.outcomes gateways (routes.mergeSort Route.canonicalLe),
    ∀ picked, pick outcome = some picked → name picked = some outcome.1)

include named

/-- Whatever is picked by domain names ascends by them. -/
theorem pairwise_filterMap_outcomes (routes : List Route) :
    ((TrafficRules.outcomes gateways (routes.mergeSort Route.canonicalLe)).filterMap pick).Pairwise
      fun a b => optionalNameLe (name b) (name a) = false := by
  have ascending := pairwise_outcomes_trafficRules gateways (routes.mergeSort Route.canonicalLe)
  refine List.pairwise_filterMap.2 (ascending.imp_of_mem ?_)
  intro outcome outcome' mem mem' below a a_picked b b_picked
  rw [named routes _ mem a a_picked, named routes _ mem' b b_picked]
  exact decide_eq_false (String.not_le.2 below)

/-- Nothing is picked from two groups of routes without a common domain name. -/
theorem not_mem_filterMap_outcomes (apart : ∀ a ∈ left, ∀ b ∈ right, a.fqdn ≠ b.fqdn) {a : β}
    (a_left :
      a ∈ (TrafficRules.outcomes gateways (left.mergeSort Route.canonicalLe)).filterMap pick) :
    a ∉ (TrafficRules.outcomes gateways (right.mergeSort Route.canonicalLe)).filterMap pick := by
  intro a_right
  obtain ⟨outcome, outcome_mem, a_picked⟩ := List.mem_filterMap.1 a_left
  obtain ⟨outcome', outcome_mem', a_picked'⟩ := List.mem_filterMap.1 a_right
  have same : outcome.1 = outcome'.1 := Option.some.inj
    ((named left _ outcome_mem a a_picked).symm.trans (named right _ outcome_mem' a a_picked'))
  obtain ⟨route, route_mem, serves⟩ := exists_route_of_mem_outcomes outcome_mem
  obtain ⟨route', route_mem', serves'⟩ := exists_route_of_mem_outcomes outcome_mem'
  exact apart route route_mem route' route_mem' (serves.trans (same.trans serves'.symm))

/-- What is picked from both groups is what is picked from each, merged by domain names. -/
theorem filterMap_outcomes_eq_merge (interleaves : Interleaves left right both)
    (apart : ∀ a ∈ left, ∀ b ∈ right, a.fqdn ≠ b.fqdn) :
    let picked (routes : List Route) :=
      (TrafficRules.outcomes gateways (routes.mergeSort Route.canonicalLe)).filterMap pick
    picked both =
      (picked left).merge (picked right) fun a b => optionalNameLe (name a) (name b) := by
  intro picked
  have ascends := pairwise_filterMap_outcomes named
  have mem (a : β) : a ∈ picked both ↔ a ∈ picked left ∨ a ∈ picked right := by
    simp only [picked, List.mem_filterMap, mem_outcomes_of_interleaves interleaves apart,
      or_and_right, exists_or]
  exact @eq_merge_of_mem_iff _ (fun a b => optionalNameLe (name a) (name b))
    (fun _ _ _ => optionalNameLe_trans) (fun _ _ => optionalNameLe_total _ _) _ _ _ (ascends left)
    (ascends right) (ascends both) (fun _ => not_mem_filterMap_outcomes named apart) mem

end Picked

theorem fqdn?_of_toOption (routes : List Route) (outcome : String × Except Reason VirtualService)
    (mem : outcome ∈ TrafficRules.outcomes gateways (routes.mergeSort Route.canonicalLe))
    (resource : VirtualService) (picked : outcome.2.toOption = some resource) :
    resource.fqdn? = some outcome.1 := by
  obtain ⟨fqdn, result⟩ := outcome
  obtain rfl := toOption_eq_some_iff.1 picked
  exact fqdn?_of_mem_outcomes mem

/-! ## Destinations -/

theorem services_build_eq_flatMap (routes : List Route) :
    (Endpoints.build routes).services = routes.flatMap fun route =>
      (Endpoints.build [route]).services := by
  simp only [Endpoints.build, Endpoints.outcomes, List.filterMap_flatMap, List.flatMap_cons,
    List.flatMap_nil, List.append_nil]

theorem skipped_build_eq_flatMap (routes : List Route) :
    (Endpoints.build routes).skipped = routes.flatMap fun route =>
      (Endpoints.build [route]).skipped := by
  simp only [Endpoints.build, Endpoints.outcomes, List.filterMap_flatMap, List.flatMap_cons,
    List.flatMap_nil, List.append_nil]

theorem services_compile_eq_flatMap (gateways : List String) (routes : List Route) :
    (compile gateways routes).services = (endpointsByRoute routes).flatMap (·.2.services) := by
  rw [endpointsByRoute, List.flatMap_map]
  exact services_build_eq_flatMap _

theorem skippedDestinations_compile_eq_flatMap (gateways : List String) (routes : List Route) :
    (compile gateways routes).skippedDestinations =
      (endpointsByRoute routes).flatMap (·.2.skipped) := by
  rw [endpointsByRoute, List.flatMap_map]
  exact skipped_build_eq_flatMap _

/-- What becomes of the destinations of some routes does not depend on other routes. -/
theorem filter_endpointsByRoute (interleaves : Interleaves left right both)
    (apart : ∀ a ∈ left, ∀ b ∈ right, a.fqdn ≠ b.fqdn) :
    (endpointsByRoute both).filter (fun (route, _) => route ∈ left) = endpointsByRoute left := by
  have dropped : ∀ route ∈ right, decide (route ∈ left) = false := fun route mem =>
    decide_eq_false fun left_mem => apart route left_mem route mem rfl
  have kept : both.filter (· ∈ left) = left := by
    rw [interleaves.filter_eq dropped]
    exact List.filter_eq_self.2 fun route mem => decide_eq_true mem
  have sorted : (both.mergeSort Route.canonicalLe).filter (· ∈ left) =
      left.mergeSort Route.canonicalLe := by
    rw [filter_mergeSort_canonicalLe, kept]
  unfold endpointsByRoute
  rw [List.filter_map, ← sorted]
  rfl

/-! ## All routes -/

/-- What two groups of routes are compiled to when they are listed together: what each is compiled
to alone. The virtual services and the skipped domain names are those of each, merged by domain
name, and ascend strictly. The services and the skipped destinations are those of each route, and
those of the routes of the first group are what these alone are compiled to. -/
structure CompilesApart (gateways : List String) (left right both : List Route) : Prop where
  virtualServices_eq : (compile gateways both).virtualServices =
    (compile gateways left).virtualServices.merge (compile gateways right).virtualServices
      VirtualService.fqdnLe
  virtualServices_ascend :
    (compile gateways both).virtualServices.Pairwise fun a b => b.fqdnLe a = false
  skippedFqdns_eq : (compile gateways both).skippedFqdns =
    (compile gateways left).skippedFqdns.merge (compile gateways right).skippedFqdns
      SkippedFqdn.fqdnLe
  skippedFqdns_ascend : (compile gateways both).skippedFqdns.Pairwise fun a b => b.fqdnLe a = false
  services_eq : (compile gateways both).services =
    (endpointsByRoute both).flatMap (·.2.services)
  services_left : ((endpointsByRoute both).filter fun (route, _) => route ∈ left).flatMap
    (·.2.services) = (compile gateways left).services
  skippedDestinations_eq : (compile gateways both).skippedDestinations =
    (endpointsByRoute both).flatMap (·.2.skipped)
  skippedDestinations_left : ((endpointsByRoute both).filter fun (route, _) => route ∈ left).flatMap
    (·.2.skipped) = (compile gateways left).skippedDestinations

/-- Routes without a common domain name are compiled to the same together as alone. -/
theorem compile_of_interleaves (gateways : List String) (interleaves : Interleaves left right both)
    (apart : ∀ a ∈ left, ∀ b ∈ right, a.fqdn ≠ b.fqdn) :
    CompilesApart gateways left right both := by
  have restricted := filter_endpointsByRoute interleaves apart
  refine ⟨filterMap_outcomes_eq_merge fqdn?_of_toOption interleaves apart,
    pairwise_filterMap_outcomes fqdn?_of_toOption both, ?_,
    (pairwise_skippedFqdns_compile gateways both).imp fun below => ?_,
    services_compile_eq_flatMap gateways both, ?_,
    skippedDestinations_compile_eq_flatMap gateways both, ?_⟩
  · refine @filterMap_outcomes_eq_merge gateways left right both _ _
      (fun skipped => some skipped.fqdn)
      (fun routes outcome mem (skipped : SkippedFqdn) picked => ?_) interleaves apart
    obtain ⟨fqdn, result⟩ := outcome
    cases result with
    | ok resource => cases picked
    | error reason => cases picked; rfl
  · exact decide_eq_false (String.not_le.2 below)
  · rw [restricted, services_compile_eq_flatMap]
  · rw [restricted, skippedDestinations_compile_eq_flatMap]

/-- A route whose weights do not add up stands between two routes of other domain names. -/
theorem compile_around_invalid_route :
    let left := [plainRoute "a" "d-0" none, plainRoute "c" "d-2" none]
    let right := [plainRoute "b" "d-1" (some 80)]
    let both :=
      [plainRoute "a" "d-0" none, plainRoute "b" "d-1" (some 80), plainRoute "c" "d-2" none]
    Interleaves left right both ∧ (∀ a ∈ left, ∀ b ∈ right, a.fqdn ≠ b.fqdn) ∧
      CompilesApart ["gateway"] left right both := by
  intro left right both
  have interleaves : Interleaves left right both := .left (.right (.left .nil))
  have apart : ∀ a ∈ left, ∀ b ∈ right, a.fqdn ≠ b.fqdn := by decide
  exact ⟨interleaves, apart, compile_of_interleaves ["gateway"] interleaves apart⟩

end MeshRoutes
