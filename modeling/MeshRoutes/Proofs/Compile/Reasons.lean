import MeshRoutes.Proofs.Compile.Isolation
import MeshRoutes.Proofs.Compile.LongestPrefix

/-!
# Why a domain name is skipped

A reason names the routes that show what is wrong. Routes that disagree are named by namespace and
name, the first one and the first that differs from it, on the visibility of the domain before the
namespace. Where they agree, the reason is about the weights of one route, the first by URL whose
weights do not make up the whole. Both orders put routes that they do not tell apart in the order in
which the routes are listed.

* `Agree`: whether routes agree on something.
* `agreement_of_visibility`, `agreement_of_namespace`, `agreement_of_agree`: what the check finds.
* `mergeSort_urlLe_of_canonicalLe`: the order by URL does not depend on the one before it.
* `Reason.IsPinnedDown`: whether a reason is the one that the routes of a domain name give.
-/

namespace MeshRoutes

/-- Whether routes agree on something. -/
def Agree {β : Type} (aspect : Route → β) (routes : List Route) : Prop :=
  ∀ a ∈ routes, ∀ b ∈ routes, aspect a = aspect b

variable {gateways : List String} {routes : List Route} {fqdn : String} {first other : Route}
  {others : List Route} {reason : Reason}

section Aspect

variable {β : Type} {aspect : Route → β}

theorem agree_cons_iff :
    Agree aspect (first :: others) ↔ ∀ route ∈ others, aspect route = aspect first := by
  constructor
  · intro agree route mem
    exact agree route (List.mem_cons_of_mem _ mem) first List.mem_cons_self
  · intro agree
    have all_agree : ∀ route ∈ first :: others, aspect route = aspect first :=
      List.forall_mem_cons.2 ⟨rfl, agree⟩
    exact fun a a_mem b b_mem => (all_agree a a_mem).trans (all_agree b b_mem).symm

theorem Agree.of_subset (agree : Agree aspect routes) (subset : ∀ route ∈ others, route ∈ routes) :
    Agree aspect others :=
  fun a a_mem b b_mem => agree a (subset a a_mem) b (subset b b_mem)

/-- Of routes that disagree, one is the first to differ from the first. -/
theorem exists_first_to_differ (disagree : ¬Agree aspect (first :: others)) :
    ∃ other, IsFirstWith (fun route => aspect route ≠ aspect first) (first :: others) other := by
  rw [agree_cons_iff] at disagree
  push Not at disagree
  obtain ⟨route, mem, differs⟩ := disagree
  exact IsFirstWith.exists_of_mem (List.mem_cons_of_mem _ mem) differs

variable [BEq β] [LawfulBEq β]

theorem find?_of_first_to_differ
    (differs : IsFirstWith (fun route => aspect route ≠ aspect first) (first :: others) other) :
    (others.find? fun route => aspect route != aspect first) = some other := by
  rw [find?_eq_some_iff_isFirstWith]
  simp only [bne_iff_ne]
  exact (IsFirstWith.cons_iff_of_not fun ne => ne rfl).1 differs

theorem find?_of_agree (agree : Agree aspect (first :: others)) :
    (others.find? fun route => aspect route != aspect first) = none := by
  rw [List.find?_eq_none]
  intro route mem
  simpa using agree_cons_iff.1 agree route mem

end Aspect

/-! ## Routes that disagree -/

theorem agreement_of_visibility (differs : IsFirstWith
      (fun route => route.domain.internal ≠ first.domain.internal) (first :: others) other) :
    agreement fqdn first others = .error (.domainMismatch fqdn first.guid other.guid) := by
  have found := find?_of_first_to_differ differs
  unfold agreement
  rw [found]

theorem agreement_of_namespace (visibility : Agree (·.domain.internal) (first :: others))
    (differs : IsFirstWith (fun route => route.namespaceName ≠ first.namespaceName)
      (first :: others) other) :
    agreement fqdn first others = .error
      (.namespaceMismatch fqdn first.guid first.namespaceName other.guid other.namespaceName) := by
  have none_found := find?_of_agree visibility
  have found := find?_of_first_to_differ differs
  unfold agreement
  rw [none_found]
  simp only [found]

theorem agreement_of_agree (visibility : Agree (·.domain.internal) (first :: others))
    (namespaces : Agree Route.namespaceName (first :: others)) :
    agreement fqdn first others = .ok () :=
  agreement_eq_ok_iff.2 ⟨agree_cons_iff.1 visibility, agree_cons_iff.1 namespaces⟩

theorem virtualServiceFor_of_agreement_eq_error
    (disagree : agreement fqdn first others = .error reason) :
    virtualServiceFor gateways fqdn first others = .error reason :=
  bind_eq_error_iff.2 (.inl disagree)

theorem eq_of_agreement_eq_error {named : Reason}
    (failed : virtualServiceFor gateways fqdn first others = .error reason)
    (disagree : agreement fqdn first others = .error named) : reason = named :=
  Except.error.inj (failed.symm.trans (virtualServiceFor_of_agreement_eq_error disagree))

/-! ## Weights -/

theorem httpRule_eq_error_iff {route : Route} :
    httpRule route = .error reason ↔
      resolveWeights route.guid route.destinations = .error reason := by
  unfold httpRule
  rw [bind_eq_error_iff]
  exact or_iff_left fun done => by obtain ⟨_, _, failed⟩ := done; cases failed

/-- Rules fail to be made as the first route does whose weights do not make up the whole. A route
without destinations is left out, but it has no weights that could be wrong. -/
theorem exists_first_of_rules_eq_error {ordered : List Route}
    (failed : (ordered.filter Route.hasDestinations).mapM httpRule = .error reason) :
    ∃ route, IsFirstWith (fun route => ¬WeightsAddUp route.destinations) ordered route ∧
      reason.BlamesWeights route.guid route.destinations := by
  obtain ⟨route, is_first, route_failed⟩ := mapM_eq_error_iff.1 failed
  simp only [exists_httpRule_eq_ok_iff] at is_first
  have kept (route : Route) (wrong : ¬WeightsAddUp route.destinations) :
      route.hasDestinations = true := by
    rw [Route.hasDestinations_iff]
    intro no_destination
    refine wrong (.inl fun destination mem => ?_)
    rw [no_destination] at mem
    cases mem
  exact ⟨route, (IsFirstWith.filter_iff kept).1 is_first,
    blamesWeights_of_resolveWeights_eq_error (httpRule_eq_error_iff.1 route_failed)⟩

/-- In one namespace, routes that are not told apart by URL and name are not told apart by namespace
and name either, so that sorting them by the latter first makes no difference. -/
theorem mergeSort_urlLe_of_canonicalLe (namespaces : Agree Route.namespaceName routes) :
    (routes.mergeSort Route.canonicalLe).mergeSort Route.urlLe = routes.mergeSort Route.urlLe := by
  refine @mergeSort_mergeSort _ Route.urlLe Route.canonicalLe (fun _ _ _ => Route.urlLe_trans)
    Route.urlLe_total (fun _ _ _ => Route.canonicalLe_trans) Route.canonicalLe_total _
    fun a a_mem b b_mem ab ba => ?_
  obtain ⟨_, name_eq⟩ := Route.urlLe_antisymm ab ba
  unfold Route.canonicalLe
  rw [if_pos (namespaces a a_mem b b_mem), name_eq]
  simpa using optionalNameLe_total b.metadata.name b.metadata.name

/-! ## The reason -/

/-- Whether a reason is the one that the routes of a domain name give, which are listed by namespace
and name, and by URL. If they disagree on whether the domain is internal, it names the first route
and the first that differs from it; else, if they do not share a namespace, the first route and the
first in another namespace; else the first route by URL whose weights do not make up the whole. -/
structure Reason.IsPinnedDown (fqdn : String) (byName byUrl : List Route) (reason : Reason) :
    Prop where
  visibility : ¬Agree (·.domain.internal) byName → ∃ first other, byName.head? = some first ∧
    IsFirstWith (fun route => route.domain.internal ≠ first.domain.internal) byName other ∧
    reason = .domainMismatch fqdn first.guid other.guid
  namespaces : Agree (·.domain.internal) byName → ¬Agree (·.metadata.ns.getD "") byName →
    ∃ first other, byName.head? = some first ∧
      IsFirstWith (fun route => route.metadata.ns.getD "" ≠ first.metadata.ns.getD "") byName
        other ∧
      reason = .namespaceMismatch fqdn first.guid (first.metadata.ns.getD "") other.guid
        (other.metadata.ns.getD "")
  weights : Agree (·.domain.internal) byName → Agree (·.metadata.ns.getD "") byName →
    ∃ route, IsFirstWith (fun route => ¬WeightsAddUp route.destinations) byUrl route ∧
      reason.BlamesWeights route.guid route.destinations

theorem isPinnedDown_of_virtualServiceFor_eq_error
    (failed : virtualServiceFor gateways fqdn first others = .error reason) :
    reason.IsPinnedDown fqdn (first :: others) ((first :: others).mergeSort Route.urlLe) where
  visibility disagree := by
    obtain ⟨other, differs⟩ := exists_first_to_differ disagree
    exact ⟨first, other, rfl, differs,
      eq_of_agreement_eq_error failed (agreement_of_visibility differs)⟩
  namespaces agree disagree := by
    obtain ⟨other, differs⟩ := exists_first_to_differ disagree
    exact ⟨first, other, rfl, differs,
      eq_of_agreement_eq_error failed (agreement_of_namespace agree differs)⟩
  weights agree agree' := by
    rcases bind_eq_error_iff.1 failed with disagree | ⟨_, _, failed⟩
    · cases (agreement_of_agree agree agree').symm.trans disagree
    · rcases bind_eq_error_iff.1 failed with wrong | ⟨_, _, done⟩
      · exact exists_first_of_rules_eq_error wrong
      · cases done

/-- The reason why a domain name is skipped is the one that its routes give. -/
theorem skip_reason_is_pinned_down {skipped : SkippedFqdn}
    (mem : skipped ∈ (compile gateways routes).skippedFqdns) :
    skipped.reason.IsPinnedDown skipped.fqdn
      ((routesServing skipped.fqdn routes).mergeSort Route.canonicalLe)
      ((routesServing skipped.fqdn routes).mergeSort Route.urlLe) := by
  obtain ⟨group, _, fqdn, failed⟩ := mem_skippedFqdns_compile.1 mem
  have byName_eq : (routesServing skipped.fqdn routes).mergeSort Route.canonicalLe =
      group.first :: group.others := by
    rw [← fqdn, ← routesServing_mergeSort, group.all_eq]
  have pinned := isPinnedDown_of_virtualServiceFor_eq_error failed
  rw [← byName_eq, fqdn] at pinned
  refine ⟨pinned.visibility, pinned.namespaces, fun agree agree' => ?_⟩
  have namespaces : Agree Route.namespaceName (routesServing skipped.fqdn routes) :=
    agree'.of_subset fun _ => List.mem_mergeSort.2
  rw [← mergeSort_urlLe_of_canonicalLe namespaces]
  exact pinned.weights agree agree'

/-! ## Two routes with wrong weights -/

/-- A route of a domain name, with a destination for each of the weights. -/
def weightedRoute (name path : String) (weights : List (Option UInt32)) : Route :=
  { splitRoute name "a" "b.c" path with
    destinations := weights.map fun weight =>
      { guid := name, weight, app := { guid := "app", processType := "web" } } }

/-- Two routes with wrong weights. The first has the higher URL, and the second the smaller name. -/
def wronglyWeightedRoutes : List Route :=
  [weightedRoute "r-2" "/x/y" [some 100, none], weightedRoute "r-1" "/x" [some 80]]

/-- The reason names the route with the higher URL. -/
theorem wronglyWeightedRoutes_pinned_down :
    ∃ skipped ∈ (compile ["gateway"] wronglyWeightedRoutes).skippedFqdns,
      skipped.reason = .weightPresenceMismatch "r-2" ∧
        skipped.reason.IsPinnedDown skipped.fqdn
          ((routesServing skipped.fqdn wronglyWeightedRoutes).mergeSort Route.canonicalLe)
          ((routesServing skipped.fqdn wronglyWeightedRoutes).mergeSort Route.urlLe) := by
  have all : routesServing "a.b.c" wronglyWeightedRoutes = wronglyWeightedRoutes := by decide
  have sorted : wronglyWeightedRoutes.mergeSort Route.urlLe = wronglyWeightedRoutes :=
    List.mergeSort_of_pairwise (by decide)
  have mixed : HaveMixedWeights (weightedRoute "r-2" "/x/y" [some 100, none]).destinations := by
    unfold HaveMixedWeights
    decide
  have wrong := not_weightsAddUp_of_mixed mixed.1 mixed.2
  have skips : HaveDestination (routesServing "a.b.c" wronglyWeightedRoutes) ∧
      ¬Servable (routesServing "a.b.c" wronglyWeightedRoutes) := by
    rw [all]
    exact ⟨⟨_, List.mem_cons_self, List.cons_ne_nil _ _⟩,
      fun servable => wrong (servable.weights _ List.mem_cons_self)⟩
  obtain ⟨skipped, mem, fqdn⟩ := List.mem_map.1 (mem_map_skippedFqdns_compile.2 skips)
  have pinned := skip_reason_is_pinned_down mem
  refine ⟨skipped, mem, ?_, pinned⟩
  rw [fqdn, all, sorted] at pinned
  have visibility : Agree (·.domain.internal) wronglyWeightedRoutes := by
    unfold Agree
    decide
  have namespaces : Agree Route.namespaceName wronglyWeightedRoutes := by
    unfold Agree
    decide
  obtain ⟨route, is_first, blames⟩ := pinned.weights
    (visibility.of_subset fun _ => List.mem_mergeSort.1)
    (namespaces.of_subset fun _ => List.mem_mergeSort.1)
  obtain rfl := is_first.eq_head wrong
  exact blames.presence_iff.2 mixed

end MeshRoutes
