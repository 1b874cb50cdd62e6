import Mathlib.Data.String.Basic
import MeshRoutes.Proofs.Compile.TrafficRules
import MeshRoutes.Proofs.Route.Order

/-!
# The longest path wins

The mesh tries the rules of a virtual service in order and takes the first that matches. The rules
are ordered by whole URLs, from high to low, and not by the lengths of paths. Where every URL is the
domain name with the path behind it, this comes to the same for all paths that match one request:
of two such paths one is at the front of the other, so the longer has the higher URL.

* `HttpRule.accepts`: whether a rule matches a request.
* `Route.IsLongestMatch`: the route that is to serve a request.
* `VirtualService.ServesLongestMatch`: whether its rule is the one that is taken.
-/

namespace MeshRoutes

/-- Whether a rule matches requests for a path: it has no prefix, or the path starts with one. -/
def HttpRule.accepts (path : String) (rule : HttpRule) : Bool :=
  rule.prefixes.isEmpty || rule.prefixes.any fun start => start.toList.isPrefixOf path.toList

namespace Route

/-- Whether the path of a route is at the front of a path. -/
def Matches (path : String) (route : Route) : Prop := route.path.toList <+: path.toList

/-- The URL is the domain name with the path behind it. -/
def IsComposed (route : Route) : Prop := route.url = route.fqdn ++ route.path

/-- The route that is to serve a request for a path: of the routes that match, none has a longer
path, and none with the same path a smaller name. -/
structure IsLongestMatch (candidates : List Route) (path : String) (route : Route) : Prop where
  mem : route ∈ candidates
  isMatch : route.Matches path
  longest : ∀ other ∈ candidates, other.Matches path → other.path.length ≤ route.path.length
  smallest : ∀ other ∈ candidates, other.path = route.path →
    optionalNameLe route.metadata.name other.metadata.name

end Route

variable {path : String}

/-- The rule of a route takes what the route matches. -/
theorem accepts_of_httpRule_eq_ok {route : Route} {rule : HttpRule}
    (ruled : httpRule route = .ok rule) : rule.accepts path = true ↔ route.Matches path := by
  obtain ⟨weights, _, done⟩ := bind_eq_ok_iff.1 ruled
  cases done
  unfold HttpRule.accepts Route.Matches
  by_cases everything : route.path = ""
  · simp [everything]
  · simp [everything, List.isPrefixOf_iff_prefix]

/-! ## URLs and lengths -/

namespace Route

variable {a b : Route}

/-- Of two routes of a domain name that match a request, the one that stands at or before the other
has no shorter path. -/
theorem length_le_of_urlLe (a_composed : a.IsComposed) (b_composed : b.IsComposed)
    (fqdn : a.fqdn = b.fqdn) (a_matches : a.Matches path) (b_matches : b.Matches path)
    (before : urlLe a b = true) : b.path.length ≤ a.path.length := by
  by_contra longer
  have shorter : a.path.length < b.path.length := Nat.lt_of_not_le longer
  simp only [← String.length_toList] at shorter
  -- the shorter path is at the front of the longer one, and so are the URLs
  have front : a.path.toList <+: b.path.toList :=
    (List.prefix_or_prefix_of_prefix a_matches b_matches).resolve_right fun front =>
      Nat.not_lt.2 front.length_le shorter
  have urls : a.url.toList <+: b.url.toList := by
    rw [a_composed, b_composed, fqdn, String.toList_append, String.toList_append]
    exact (List.prefix_append_right_inj _).2 front
  have different : a.url ≠ b.url := by
    rw [a_composed, b_composed, fqdn]
    intro same
    rw [(String.append_right_inj _).1 same] at shorter
    exact Nat.lt_irrefl _ shorter
  have above : b.url < a.url := by simpa [urlLe, different] using before
  exact List.not_lt.2 urls.le (String.lt_iff_toList_lt.1 above)

/-- Of two routes of a domain name with one path, the one that stands at or before the other has no
larger name. -/
theorem name_le_of_urlLe (a_composed : a.IsComposed) (b_composed : b.IsComposed)
    (fqdn : a.fqdn = b.fqdn) (same : a.path = b.path) (before : urlLe a b = true) :
    optionalNameLe a.metadata.name b.metadata.name := by
  have urls : a.url = b.url := by rw [a_composed, b_composed, fqdn, same]
  simpa [urlLe, urls] using before

theorem urlLe_refl (route : Route) : urlLe route route = true := by
  simpa using urlLe_total route route

/-- In an order by URL the first route that matches is the longest match. -/
theorem isLongestMatch_of_first {served : List Route} {fqdn : String}
    (sorted : served.Pairwise fun a b => urlLe a b = true)
    (fqdns : ∀ route ∈ served, route.fqdn = fqdn) (composed : ∀ route ∈ served, route.IsComposed)
    {i : Nat} (bound : i < served.length) (isMatch : served[i].Matches path)
    (first : ∀ j (before : j < i), ¬served[j].Matches path) :
    served[i].IsLongestMatch served path := by
  have mem : served[i] ∈ served := List.getElem_mem bound
  have before (other : Route) (other_mem : other ∈ served) (other_matches : other.Matches path) :
      urlLe served[i] other = true := by
    obtain ⟨j, other_bound, rfl⟩ := List.getElem_of_mem other_mem
    rcases Nat.lt_trichotomy i j with later | rfl | earlier
    · exact List.pairwise_iff_getElem.1 sorted i j bound other_bound later
    · exact urlLe_refl _
    · exact (first j earlier other_matches).elim
  refine ⟨mem, isMatch, fun other other_mem other_matches => ?_, fun other other_mem same => ?_⟩
  · exact length_le_of_urlLe (composed _ mem) (composed _ other_mem)
      ((fqdns _ mem).trans (fqdns _ other_mem).symm) isMatch other_matches
      (before other other_mem other_matches)
  · have other_matches : other.Matches path := by
      unfold Matches
      rw [same]
      exact isMatch
    exact name_le_of_urlLe (composed _ mem) (composed _ other_mem)
      ((fqdns _ mem).trans (fqdns _ other_mem).symm) same.symm
      (before other other_mem other_matches)

end Route

/-! ## The rules of a virtual service -/

variable {gateways : List String} {routes : List Route}

namespace FqdnGroup

variable {group : FqdnGroup routes}

/-- The rules are those of the routes of the domain name that have a destination. -/
theorem rulesOf_perm (group : FqdnGroup routes) :
    group.rulesOf.Perm ((routesServing group.fqdn routes).filter Route.hasDestinations) := by
  refine List.Perm.filter _ ((List.mergeSort_perm _ _).trans ?_)
  rw [all, ← group.all_eq]
  exact (List.mergeSort_perm _ _).filter _

theorem pairwise_rulesOf (group : FqdnGroup routes) :
    group.rulesOf.Pairwise fun a b => Route.urlLe a b = true :=
  (Route.pairwise_mergeSort_urlLe group.all).filter _

theorem mem_of_mem_rulesOf {route : Route} (mem : route ∈ group.rulesOf) :
    route ∈ routes ∧ route.fqdn = group.fqdn :=
  mem_all.1 (List.mem_mergeSort.1 (List.mem_of_mem_filter mem))

end FqdnGroup

theorem Route.IsLongestMatch.of_perm {candidates candidates' : List Route} {route : Route}
    (same : candidates.Perm candidates') (longest : route.IsLongestMatch candidates path) :
    route.IsLongestMatch candidates' path where
  mem := same.mem_iff.1 longest.mem
  isMatch := longest.isMatch
  longest other mem := longest.longest other (same.mem_iff.2 mem)
  smallest other mem := longest.smallest other (same.mem_iff.2 mem)

/-- Whether the rules of a virtual service are those of some routes, and the first that accepts a
request is the rule of the longest match. If no rule accepts it, no route matches. -/
def VirtualService.ServesLongestMatch (candidates : List Route) (resource : VirtualService) : Prop :=
  ∃ served : List Route, served.Perm candidates ∧
    List.Forall₂ (fun route rule => httpRule route = .ok rule) served resource.http ∧
    ∀ path : String,
      match resource.http.findIdx? (HttpRule.accepts path) with
      | some i => ∃ route, served[i]? = some route ∧ route.IsLongestMatch candidates path
      | none => ∀ route ∈ candidates, ¬route.Matches path

/-- A virtual service takes every request to the longest match among the routes of its domain name
that have a destination. -/
theorem first_accepting_rule_is_longest_match
    (composed : ∀ route ∈ routes, route.IsComposed) {resource : VirtualService}
    (compiled : resource ∈ (compile gateways routes).virtualServices) {fqdn : String}
    (serves : resource.fqdn? = some fqdn) :
    resource.ServesLongestMatch ((routesServing fqdn routes).filter Route.hasDestinations) := by
  obtain ⟨group, _, compiled⟩ := mem_virtualServices_compile.1 compiled
  have compiles := group.compiles compiled
  obtain rfl : group.fqdn = fqdn := Option.some.inj (compiles.fqdn?_eq.symm.trans serves)
  refine ⟨group.rulesOf, group.rulesOf_perm, compiles.rules, fun path => ?_⟩
  have length := compiles.rules.length_eq
  -- rule by rule, what is accepted is what the route matches
  have accepts (i : Nat) (bound : i < group.rulesOf.length) (bound' : i < resource.http.length) :
      resource.http[i].accepts path = true ↔ group.rulesOf[i].Matches path :=
    accepts_of_httpRule_eq_ok (compiles.rules.get bound bound')
  split
  · next i found =>
    obtain ⟨bound, accepted, first⟩ := List.findIdx?_eq_some_iff_getElem.1 found
    have bound' : i < group.rulesOf.length := length ▸ bound
    refine ⟨group.rulesOf[i], List.getElem?_eq_getElem bound', ?_⟩
    refine Route.IsLongestMatch.of_perm group.rulesOf_perm ?_
    refine Route.isLongestMatch_of_first group.pairwise_rulesOf
      (fun route mem => (FqdnGroup.mem_of_mem_rulesOf mem).2)
      (fun route mem => composed route (FqdnGroup.mem_of_mem_rulesOf mem).1) bound'
      ((accepts i bound' bound).1 accepted) fun j earlier isMatch => ?_
    exact first j earlier
      ((accepts j (Nat.lt_trans earlier bound') (Nat.lt_trans earlier bound)).2 isMatch)
  · next none =>
    intro route mem isMatch
    obtain ⟨i, bound, rfl⟩ := List.getElem_of_mem (group.rulesOf_perm.mem_iff.2 mem)
    have bound' : i < resource.http.length := length ▸ bound
    have refused := List.findIdx?_eq_none_iff.1 none _ (List.getElem_mem bound')
    rw [(accepts i bound bound').2 isMatch] at refused
    cases refused

/-! ## Three routes of one domain name -/

/-- A route that splits a domain name in one of the possible ways. -/
def splitRoute (name host domain path : String) : Route where
  metadata := { name := some name, ns := some "ns" }
  host := host
  path := path
  url := "a.b.c" ++ path
  domain := { name := domain }
  destinations := [{ guid := name, port := some 8080, app := { guid := "app", processType := "web" } }]

/-- Routes of one domain name that is split differently in each. -/
def splitRoutes : List Route :=
  [splitRoute "r-1" "" "a.b.c" "/x/y", splitRoute "r-2" "a" "b.c" "/x", splitRoute "r-3" "a.b" "c" ""]

/-- They compile to one virtual service. -/
theorem exists_compile_splitRoutes : ∃ resource ∈ (compile [] splitRoutes).virtualServices,
    resource.fqdn? = some "a.b.c" := by
  have sorted : splitRoutes.mergeSort Route.canonicalLe = splitRoutes :=
    List.mergeSort_of_pairwise (by decide)
  have sorted' : splitRoutes.mergeSort Route.urlLe = splitRoutes :=
    List.mergeSort_of_pairwise (by decide)
  let group : FqdnGroup splitRoutes := ⟨"a.b.c", _, _, by rw [sorted]; rfl⟩
  obtain ⟨resource, compiled⟩ : ∃ resource, group.compile [] = .ok resource := by
    have agree : agreement "a.b.c" group.first group.others = .ok () := rfl
    have all : group.first :: group.others = splitRoutes := rfl
    unfold FqdnGroup.compile virtualServiceFor
    rw [all, sorted', agree]
    exact ⟨_, rfl⟩
  have some : group.HasDestinations := ⟨_, group.first_mem, rfl⟩
  exact ⟨resource, mem_virtualServices_compile.2 ⟨group, some, compiled⟩,
    (group.compiles compiled).fqdn?_eq⟩

/-- Their virtual service takes every request to the longest match. -/
theorem splitRoutes_serve_longest_match :
    (∀ route ∈ splitRoutes, route.IsComposed) ∧
      ∃ resource ∈ (compile [] splitRoutes).virtualServices, resource.fqdn? = some "a.b.c" ∧
        resource.ServesLongestMatch
          ((routesServing "a.b.c" splitRoutes).filter Route.hasDestinations) := by
  have composed : ∀ route ∈ splitRoutes, route.IsComposed := by
    unfold Route.IsComposed
    decide
  obtain ⟨resource, mem, serves⟩ := exists_compile_splitRoutes
  exact ⟨composed, resource, mem, serves, first_accepting_rule_is_longest_match composed mem serves⟩

end MeshRoutes
