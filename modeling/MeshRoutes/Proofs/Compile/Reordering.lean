import MeshRoutes.Proofs.Compile.OrderIndependence
import MeshRoutes.Proofs.Compile.Reasons
import MeshRoutes.Proofs.Route.Index

/-!
# Traffic rules of reordered routes

The rules of a domain name do not depend on the order of its routes, also where they are not put in
order by namespace and name before. All of them are in one namespace then, where names tell them
apart, so that there is one order by URL. Where they disagree, the order decides only which of them
the reason names.

* `Reason.IsAlike`, `TrafficRules.IsAlike`: whether reasons and rules differ at most in that.
* `outcomes_alike`: what becomes of the domain names of reordered routes.
* `virtualServices_compile_eq_build`: the virtual services are those of the routes as listed.
-/

namespace MeshRoutes

/-- Whether two of some routes differ in something. -/
structure DifferIn {β : Type} (aspect : Route → β) (routes : List Route) (a b : Route) : Prop where
  left_mem : a ∈ routes
  right_mem : b ∈ routes
  ne : aspect a ≠ aspect b

/-- Whether two reasons why a domain name with some routes is skipped are alike: they are of one
kind, and differ at most in which routes that disagree they name. -/
inductive Reason.IsAlike (fqdn : String) (routes : List Route) : Reason → Reason → Prop
  | visibility {a b c d : Route} (left : DifferIn (·.domain.internal) routes a b)
      (right : DifferIn (·.domain.internal) routes c d) :
      IsAlike fqdn routes (.domainMismatch fqdn a.guid b.guid) (.domainMismatch fqdn c.guid d.guid)
  | namespaces {a b c d : Route} (left : DifferIn (·.metadata.ns.getD "") routes a b)
      (right : DifferIn (·.metadata.ns.getD "") routes c d) :
      IsAlike fqdn routes
        (.namespaceMismatch fqdn a.guid (a.metadata.ns.getD "") b.guid (b.metadata.ns.getD ""))
        (.namespaceMismatch fqdn c.guid (c.metadata.ns.getD "") d.guid (d.metadata.ns.getD ""))
  | presence (route : String) :
      IsAlike fqdn routes (.weightPresenceMismatch route) (.weightPresenceMismatch route)
  | sum (route : String) (sum : UInt32) :
      IsAlike fqdn routes (.weightSumInvalid route sum) (.weightSumInvalid route sum)

/-- Whether two lists of rules that some routes are given are alike: they have the same virtual
services, and skip the same domain names in the same order, for reasons that are alike. -/
structure TrafficRules.IsAlike (routes : List Route) (left right : TrafficRules) : Prop where
  virtualServices_eq : left.virtualServices = right.virtualServices
  skipped : List.Forall₂ (fun a b => a.fqdn = b.fqdn ∧
    a.reason.IsAlike a.fqdn (routesServing a.fqdn routes) b.reason) left.skipped right.skipped

/-- Whether what becomes of a domain name with some routes is alike in two cases: it is served by the
same virtual service, or skipped for reasons that are alike. -/
inductive OutcomesAlike (fqdn : String) (routes : List Route) :
    Except Reason VirtualService → Except Reason VirtualService → Prop
  | served (resource : VirtualService) : OutcomesAlike fqdn routes (.ok resource) (.ok resource)
  | skipped {a b : Reason} (alike : a.IsAlike fqdn routes b) :
      OutcomesAlike fqdn routes (.error a) (.error b)

variable {gateways : List String} {routes listed : List Route} {fqdn : String}

/-! ## One domain name -/

theorem Reason.BlamesWeights.isAlike {route : String} {destinations : List Destination}
    {reason : Reason} (blames : reason.BlamesWeights route destinations) :
    reason.IsAlike fqdn routes reason := by
  by_cases mixed : HaveMixedWeights destinations
  · rw [blames.presence_iff.2 mixed]
    exact .presence route
  · obtain ⟨_, sum, _, rfl, _⟩ := blames.sum mixed
    exact .sum route sum

section Group

variable {first first' : Route} {others others' : List Route}

theorem differIn_of_first_to_differ {β : Type} {aspect : Route → β} {other : Route}
    (differs : IsFirstWith (fun route => aspect route ≠ aspect first) (first :: others) other) :
    DifferIn aspect (first :: others) first other :=
  ⟨List.mem_cons_self, differs.mem, Ne.symm differs.1⟩

theorem DifferIn.of_perm {β : Type} {aspect : Route → β} {a b : Route}
    (same : routes.Perm listed) (differ : DifferIn aspect listed a b) :
    DifferIn aspect routes a b :=
  ⟨same.mem_iff.2 differ.left_mem, same.mem_iff.2 differ.right_mem, differ.ne⟩

/-- Routes that agree give the same virtual service, or the same reason, as long as they come in one
order by URL. -/
theorem virtualServiceFor_eq_of_perm (gateways : List String) (fqdn : String)
    (same : (first :: others).Perm (first' :: others'))
    (sorts : (first :: others).mergeSort Route.urlLe = (first' :: others').mergeSort Route.urlLe)
    (visibility : Agree (·.domain.internal) (first :: others))
    (namespaces : Agree Route.namespaceName (first :: others)) :
    virtualServiceFor gateways fqdn first others =
      virtualServiceFor gateways fqdn first' others' := by
  have mem : first ∈ first :: others := List.mem_cons_self
  have mem' : first' ∈ first :: others := same.mem_iff.2 List.mem_cons_self
  have internal_eq : first.domain.internal = first'.domain.internal :=
    visibility first mem first' mem'
  have gateways_eq : gatewaysFor gateways first = gatewaysFor gateways first' := by
    rw [gatewaysFor, internal_eq, ← gatewaysFor]
  have agree' : agreement fqdn first' others' = .ok () :=
    agreement_of_agree (visibility.of_subset fun _ => same.mem_iff.2)
      (namespaces.of_subset fun _ => same.mem_iff.2)
  unfold virtualServiceFor
  rw [agreement_of_agree visibility namespaces, agree', sorts, gateways_eq,
    namespaces first mem first' mem']

theorem virtualServiceFor_alike (gateways : List String) (fqdn : String)
    (same : (first :: others).Perm (first' :: others'))
    (sorts : Agree Route.namespaceName (first :: others) →
      (first :: others).mergeSort Route.urlLe = (first' :: others').mergeSort Route.urlLe) :
    OutcomesAlike fqdn (first :: others) (virtualServiceFor gateways fqdn first others)
      (virtualServiceFor gateways fqdn first' others') := by
  have agree_iff {β : Type} (aspect : Route → β) :
      Agree aspect (first :: others) ↔ Agree aspect (first' :: others') :=
    ⟨fun agree => agree.of_subset fun _ => same.mem_iff.2,
      fun agree => agree.of_subset fun _ => same.mem_iff.1⟩
  by_cases visibility : Agree (·.domain.internal) (first :: others)
  · have visibility' := (agree_iff _).1 visibility
    by_cases namespaces : Agree Route.namespaceName (first :: others)
    · rw [virtualServiceFor_eq_of_perm gateways fqdn same (sorts namespaces) visibility namespaces]
      cases outcome : virtualServiceFor gateways fqdn first' others' with
      | ok resource => exact .served resource
      | error reason =>
        have pinned := isPinnedDown_of_virtualServiceFor_eq_error outcome
        obtain ⟨_, _, blames⟩ := pinned.weights visibility' ((agree_iff _).1 namespaces)
        exact .skipped blames.isAlike
    · obtain ⟨other, differs⟩ := exists_first_to_differ namespaces
      obtain ⟨other', differs'⟩ := exists_first_to_differ (mt (agree_iff _).2 namespaces)
      rw [virtualServiceFor_of_agreement_eq_error (agreement_of_namespace visibility differs),
        virtualServiceFor_of_agreement_eq_error (agreement_of_namespace visibility' differs')]
      exact .skipped (.namespaces (differIn_of_first_to_differ differs)
        ((differIn_of_first_to_differ differs').of_perm same))
  · obtain ⟨other, differs⟩ := exists_first_to_differ visibility
    obtain ⟨other', differs'⟩ := exists_first_to_differ (mt (agree_iff _).2 visibility)
    rw [virtualServiceFor_of_agreement_eq_error (agreement_of_visibility differs),
      virtualServiceFor_of_agreement_eq_error (agreement_of_visibility differs')]
    exact .skipped (.visibility (differIn_of_first_to_differ differs)
      ((differIn_of_first_to_differ differs').of_perm same))

end Group

theorem perm_routesServing (same : routes.Perm listed) (fqdn : String) :
    (routesServing fqdn routes).Perm (routesServing fqdn listed) :=
  same.filter _

theorem outcome?_alike (gateways : List String) (fqdn : String) (same : routes.Perm listed)
    (sorts : Agree Route.namespaceName routes →
      routes.mergeSort Route.urlLe = listed.mergeSort Route.urlLe) :
    Option.Rel (OutcomesAlike fqdn routes) (TrafficRules.outcome? gateways fqdn routes)
      (TrafficRules.outcome? gateways fqdn listed) := by
  cases routes with
  | nil =>
    rw [List.nil_perm.1 same]
    exact .none
  | cons first others =>
    cases listed with
    | nil => exact (List.cons_ne_nil _ _ (List.perm_nil.1 same)).elim
    | cons first' others' =>
      simp only [TrafficRules.outcome?, ← same.any_eq]
      split
      · exact .some (virtualServiceFor_alike gateways fqdn same sorts)
      · exact .none

/-! ## All domain names -/

theorem outcomes_eq_filterMap_fqdns (gateways : List String) (routes : List Route) :
    TrafficRules.outcomes gateways routes =
      (RouteIndex.ofRoutes routes).fqdns.filterMap fun fqdn =>
        (TrafficRules.outcome? gateways fqdn (routesServing fqdn routes)).map (fqdn, ·) := by
  unfold TrafficRules.outcomes
  rw [RouteIndex.entries_ofRoutes, List.filterMap_map]
  rfl

section Reordered

variable (same : routes.Perm listed) (sorts : ∀ fqdn,
  Agree Route.namespaceName (routesServing fqdn routes) →
    (routesServing fqdn routes).mergeSort Route.urlLe =
      (routesServing fqdn listed).mergeSort Route.urlLe)

include same sorts

theorem outcomes_alike (gateways : List String) :
    List.Forall₂ (fun a b => a.1 = b.1 ∧ OutcomesAlike a.1 (routesServing a.1 routes) a.2 b.2)
      (TrafficRules.outcomes gateways routes) (TrafficRules.outcomes gateways listed) := by
  rw [outcomes_eq_filterMap_fqdns, outcomes_eq_filterMap_fqdns, ← RouteIndex.fqdns_eq_of_perm same]
  refine List.rel_filterMap (R := Eq) (fun fqdn fqdn' eq => ?_) (List.forall₂_same.2 fun _ _ => rfl)
  subst eq
  have alike := outcome?_alike gateways fqdn (perm_routesServing same fqdn) (sorts fqdn)
  generalize TrafficRules.outcome? gateways fqdn (routesServing fqdn routes) = outcome at alike
  generalize TrafficRules.outcome? gateways fqdn (routesServing fqdn listed) = outcome' at alike
  cases alike with
  | none => exact .none
  | some alike => exact .some ⟨rfl, alike⟩

theorem build_alike (gateways : List String) :
    (TrafficRules.build gateways routes).IsAlike routes (TrafficRules.build gateways listed) := by
  have outcomes := outcomes_alike same sorts gateways
  refine ⟨?_, ?_⟩
  · rw [← List.forall₂_eq_eq_eq]
    refine List.rel_filterMap ?_ outcomes
    rintro ⟨fqdn, outcome⟩ ⟨fqdn', outcome'⟩ ⟨rfl, alike⟩
    cases alike with
    | served resource => exact .some rfl
    | skipped alike => exact .none
  · refine List.rel_filterMap ?_ outcomes
    rintro ⟨fqdn, outcome⟩ ⟨fqdn', outcome'⟩ ⟨rfl, alike⟩
    cases alike with
    | served resource => exact .none
    | skipped alike => exact .some ⟨rfl, alike⟩

end Reordered

/-- The virtual services are those of the routes as they are listed, whatever their keys. -/
theorem virtualServices_compile_eq_build (gateways : List String) (routes : List Route) :
    (compile gateways routes).virtualServices =
      (TrafficRules.build gateways routes).virtualServices := by
  have same : routes.Perm (routes.mergeSort Route.canonicalLe) :=
    (List.mergeSort_perm routes Route.canonicalLe).symm
  refine (build_alike same (fun fqdn namespaces => ?_) gateways).virtualServices_eq.symm
  rw [routesServing_mergeSort, mergeSort_urlLe_of_canonicalLe namespaces]

/-! ## Distinct keys -/

theorem HaveDistinctKeys.routesServing (distinct : HaveDistinctKeys routes) (fqdn : String) :
    HaveDistinctKeys (routesServing fqdn routes) := fun a a_mem b b_mem =>
  distinct a (mem_routesServing.1 a_mem).1 b (mem_routesServing.1 b_mem).1

/-- In one namespace, routes with distinct keys come in one order by URL. -/
theorem mergeSort_urlLe_eq_of_perm (distinct : HaveDistinctKeys routes)
    (namespaces : Agree Route.namespaceName routes) (same : routes.Perm listed) :
    routes.mergeSort Route.urlLe = listed.mergeSort Route.urlLe := by
  have sorted_perm : (routes.mergeSort Route.urlLe).Perm (listed.mergeSort Route.urlLe) :=
    (List.mergeSort_perm _ _).trans (same.trans (List.mergeSort_perm _ _).symm)
  refine List.Perm.eq_of_pairwise (fun a b a_mem b_mem ab ba => ?_)
    (Route.pairwise_mergeSort_urlLe routes) (Route.pairwise_mergeSort_urlLe listed) sorted_perm
  have a_mem : a ∈ routes := List.mem_mergeSort.1 a_mem
  have b_mem : b ∈ routes := same.mem_iff.2 (List.mem_mergeSort.1 b_mem)
  exact distinct a a_mem b b_mem (namespaces a a_mem b b_mem) (Route.urlLe_antisymm ab ba).2

/-- Routes with distinct keys give rules that are alike in whatever order they are listed, without
being put in order before. -/
theorem build_alike_of_perm (gateways : List String) (distinct : HaveDistinctKeys routes)
    (same : routes.Perm listed) :
    (TrafficRules.build gateways routes).IsAlike routes (TrafficRules.build gateways listed) ∧
      (compile gateways routes).virtualServices =
        (TrafficRules.build gateways routes).virtualServices := by
  refine ⟨build_alike same (fun fqdn namespaces => ?_) gateways,
    virtualServices_compile_eq_build gateways routes⟩
  exact mergeSort_urlLe_eq_of_perm (distinct.routesServing fqdn) namespaces
    (perm_routesServing same fqdn)

/-- Three routes of one domain name, the second of which is internal. -/
def disagreeingRoutes : List Route :=
  [splitRoute "r-1" "a" "b.c" "/x",
    { splitRoute "r-2" "" "a.b.c" "" with domain := { name := "a.b.c", internal := true } },
    splitRoute "r-3" "a.b" "c" "/x/y"]

/-- Listed backwards, they give a reason of the same kind that names another pair of them. -/
theorem disagreeingRoutes_alike :
    HaveDistinctKeys disagreeingRoutes ∧ disagreeingRoutes.Perm disagreeingRoutes.reverse ∧
      (TrafficRules.build [] disagreeingRoutes).skipped =
        [⟨"a.b.c", .domainMismatch "a.b.c" "r-1" "r-2"⟩] ∧
      (TrafficRules.build [] disagreeingRoutes.reverse).skipped =
        [⟨"a.b.c", .domainMismatch "a.b.c" "r-3" "r-2"⟩] ∧
      (TrafficRules.build [] disagreeingRoutes).IsAlike disagreeingRoutes
        (TrafficRules.build [] disagreeingRoutes.reverse) ∧
      (compile [] disagreeingRoutes).virtualServices =
        (TrafficRules.build [] disagreeingRoutes).virtualServices := by
  have distinct : HaveDistinctKeys disagreeingRoutes := by
    unfold HaveDistinctKeys
    decide
  have same : disagreeingRoutes.Perm disagreeingRoutes.reverse :=
    (List.reverse_perm disagreeingRoutes).symm
  exact ⟨distinct, same, by decide, by decide, build_alike_of_perm [] distinct same⟩

end MeshRoutes
