import MeshRoutes.Proofs.Compile.Reordering

/-!
# What is in a virtual service

The virtual service of a domain name has one rule for each route that has a destination, and each
rule has one backend for each destination of its route. Routes are known by their positions in the
list that is compiled, for two of them may be equal, and so are the shares of destinations: what a
rule or a backend says is taken from the route, the destination and the share at its own place.

* `IsServedBefore`: the order of the rules, by URL, name and position.
* `HttpRule.IsRuleOf`, `Backend.StandsFor`: what a rule says of its route, and a backend of its
  destination.
* `VirtualService.IsMadeFrom`: whether a virtual service says of the routes of a domain name what
  they say.
-/

namespace MeshRoutes

/-- Whether a route at some position is served before another at another one: its URL is above, or
its name is below, or it is listed before. An absent name is below all others. -/
inductive IsServedBefore (a b : Route × Nat) : Prop
  | url (above : b.1.url < a.1.url)
  | name (url_eq : a.1.url = b.1.url) (below : a.1.metadata.name < b.1.metadata.name)
  | position (url_eq : a.1.url = b.1.url) (name_eq : a.1.metadata.name = b.1.metadata.name)
      (before : a.2 < b.2)

/-- Whether a backend stands for a destination of a route that has a share. It sets four headers,
two from the destination and two from the labels of the route, empty where the route has no such
label. -/
structure Backend.StandsFor (route : Route) (destination : Destination) (share : UInt32)
    (served : Backend) : Prop where
  host_eq : served.host = serviceName destination.guid
  headers_eq : served.headers.entries = [
    ("CF-App-Id", destination.app.guid),
    ("CF-App-Process-Type", destination.app.processType),
    ("CF-Organization-Id",
      (route.metadata.labels.bind (·.get? "cloudfoundry.org/org_guid")).getD ""),
    ("CF-Space-Id",
      (route.metadata.labels.bind (·.get? "cloudfoundry.org/space_guid")).getD "")]
  weight_eq : served.weight = share

/-- Whether a rule is that of a route. It matches the path alone, or everything if there is none,
and the backends stand for the destinations, which have one share each, in their order. -/
structure HttpRule.IsRuleOf (route : Route) (rule : HttpRule) : Prop where
  prefixes_eq : route.path ≠ "" ∧ rule.prefixes = [route.path] ∨
    route.path = "" ∧ rule.prefixes = []
  backends : ∃ shares, resolveWeights route.guid route.destinations = .ok shares ∧
    shares.length = route.destinations.length ∧
    List.Forall₂ (fun (destination, share) served => served.StandsFor route destination share)
      (route.destinations.zip shares) rule.backends

/-- Whether the rules of a virtual service are those of some routes of a list, which stand at given
positions. They are the routes of the domain name that have a destination, each of them once and in
the order in which they are served. -/
structure VirtualService.IsRuledBy (routes : List Route) (fqdn : String) (resource : VirtualService)
    (ruling : List (Route × Nat)) : Prop where
  mem_iff : ∀ route position, (route, position) ∈ ruling ↔
    routes[position]? = some route ∧ route.fqdn = fqdn ∧ route.destinations ≠ []
  nodup : ruling.Nodup
  ordered : ruling.Pairwise IsServedBefore
  rules : List.Forall₂ (fun (route, _) rule => rule.IsRuleOf route) ruling resource.http

/-- Whether a virtual service is made from the routes of a domain name, in whose namespace it is. -/
structure VirtualService.IsMadeFrom (routes : List Route) (fqdn : String)
    (resource : VirtualService) : Prop where
  name_eq : resource.metadata.name = virtualServiceName fqdn
  hosts_eq : resource.hosts = [fqdn]
  namespace_eq : ∀ route ∈ routesServing fqdn routes,
    resource.metadata.ns = route.metadata.ns.getD ""
  rules : ∃ ruling, resource.IsRuledBy routes fqdn ruling

variable {gateways : List String} {routes : List Route} {fqdn : String} {resource : VirtualService}

/-! ## One rule -/

section Rule

variable {route : Route} {rule : HttpRule}

theorem entries_backendHeaders (route : Route) (destination : Destination) :
    (backendHeaders route destination).entries = [
      ("CF-App-Id", destination.app.guid),
      ("CF-App-Process-Type", destination.app.processType),
      ("CF-Organization-Id", route.orgGuid),
      ("CF-Space-Id", route.spaceGuid)] := by
  have ne : "CF-Space-Id" ≠ "CF-Organization-Id" := by decide
  have ascending : ["CF-App-Id", "CF-App-Process-Type", "CF-Organization-Id",
      "CF-Space-Id"].Pairwise (· < ·) := by decide
  -- the headers of the route are set in the other order
  have swapped : backendHeaders route destination = SortedMap.ofList [
      ("CF-App-Id", destination.app.guid),
      ("CF-App-Process-Type", destination.app.processType),
      ("CF-Organization-Id", route.orgGuid),
      ("CF-Space-Id", route.spaceGuid)] := SortedMap.insert_comm _ _ _ ne
  rw [swapped]
  exact SortedMap.entries_ofList (List.pairwise_map.1 ascending)

theorem backend_standsFor (route : Route) (destination : Destination) (share : UInt32) :
    (backend route destination share).StandsFor route destination share where
  host_eq := rfl
  headers_eq := by
    rw [← route.orgGuid_eq, ← route.spaceGuid_eq]
    exact entries_backendHeaders route destination
  weight_eq := rfl

theorem isRuleOf_of_httpRule_eq_ok (ruled : httpRule route = .ok rule) : rule.IsRuleOf route := by
  obtain ⟨shares, resolved, done⟩ := bind_eq_ok_iff.1 ruled
  cases done
  refine ⟨?_, shares, resolved, length_of_resolveWeights_eq_ok resolved, ?_⟩
  · by_cases path : route.path = ""
    · exact .inr ⟨path, if_pos path⟩
    · exact .inl ⟨path, if_neg path⟩
  · simp only [← List.map_uncurry_zip_eq_zipWith]
    rw [List.forall₂_map_right_iff, List.forall₂_same]
    exact fun _ _ => backend_standsFor route _ _

end Rule

/-! ## The order of the rules -/

theorem lt_of_optionalNameLe {a b : Option String} (le : optionalNameLe a b = true) (ne : a ≠ b) :
    a < b := by
  cases a with
  | none =>
    cases b with
    | none => contradiction
    | some b => exact trivial
  | some a =>
    cases b with
    | none => cases le
    | some b =>
      have le : a ≤ b := of_decide_eq_true le
      have ne : a ≠ b := fun same => ne (congrArg some same)
      exact (Route.text_connected a b ne).resolve_right (String.not_lt.2 le)

/-- Where routes are told apart by position, sorting puts them in the order in which they are
served. -/
theorem isServedBefore_of_zipIdxLE {a b : Route × Nat} (le : List.zipIdxLE Route.urlLe a b = true)
    (ne : a.2 ≠ b.2) : IsServedBefore a b := by
  unfold List.zipIdxLE at le
  split at le
  · next here =>
    split at le
    · next there =>
      obtain ⟨url_eq, name_eq⟩ := Route.urlLe_antisymm here there
      exact .position url_eq name_eq (Nat.lt_of_le_of_ne (of_decide_eq_true le) ne)
    · next not_there =>
      by_cases url_eq : a.1.url = b.1.url
      · rw [Route.urlLe, if_pos url_eq] at here
        rw [Route.urlLe, if_pos url_eq.symm] at not_there
        refine .name url_eq (lt_of_optionalNameLe here fun name_eq => not_there ?_)
        rwa [name_eq] at here ⊢
      · rw [Route.urlLe, if_neg url_eq] at here
        exact .url (of_decide_eq_true here)
  · cases le

/-- The routes of a domain name that have a destination, with their positions, in the order in which
they are served. -/
def rulingRoutes (fqdn : String) (routes : List Route) : List (Route × Nat) :=
  (routes.zipIdx.mergeSort (List.zipIdxLE Route.urlLe)).filter fun (route, _) =>
    route.hasDestinations && route.fqdn = fqdn

theorem mem_rulingRoutes {route : Route} {position : Nat} :
    (route, position) ∈ rulingRoutes fqdn routes ↔
      routes[position]? = some route ∧ route.fqdn = fqdn ∧ route.destinations ≠ [] := by
  simp only [rulingRoutes, List.mem_filter, List.mem_mergeSort, List.mem_zipIdx_iff_getElem?,
    Bool.and_eq_true, decide_eq_true_eq, Route.hasDestinations_iff, and_comm]

theorem pairwise_position_rulingRoutes (fqdn : String) (routes : List Route) :
    (rulingRoutes fqdn routes).Pairwise fun a b => a.2 ≠ b.2 := by
  have positions : (routes.zipIdx.map Prod.snd).Nodup := by
    rw [List.zipIdx_map_snd]
    exact List.nodup_range'
  have sorted := (List.mergeSort_perm routes.zipIdx (List.zipIdxLE Route.urlLe)).map Prod.snd
  exact (List.pairwise_map.1 (sorted.nodup_iff.2 positions)).filter _

theorem pairwise_isServedBefore_rulingRoutes (fqdn : String) (routes : List Route) :
    (rulingRoutes fqdn routes).Pairwise IsServedBefore := by
  have sorted := List.pairwise_mergeSort
    (@List.zipIdxLE_trans _ Route.urlLe fun _ _ _ => Route.urlLe_trans)
    (List.zipIdxLE_total Route.urlLe_total) routes.zipIdx
  have apart := pairwise_position_rulingRoutes fqdn routes
  exact ((sorted.filter _).and apart).imp fun both => isServedBefore_of_zipIdxLE both.1 both.2

theorem map_fst_rulingRoutes (fqdn : String) (routes : List Route) :
    (rulingRoutes fqdn routes).map Prod.fst =
      ((routesServing fqdn routes).mergeSort Route.urlLe).filter Route.hasDestinations := by
  have serving : (routesServing fqdn routes).mergeSort Route.urlLe =
      (routes.mergeSort Route.urlLe).filter (·.fqdn = fqdn) :=
    (@filter_mergeSort _ Route.urlLe (fun _ _ _ => Route.urlLe_trans) Route.urlLe_total _ _).symm
  rw [serving, List.filter_filter, ← List.mergeSort_zipIdx, List.filter_map]
  rfl

/-- The rules of a group are those of the routes in the order in which they are served, also where
the routes were put in order by namespace and name before. -/
theorem FqdnGroup.rulesOf_eq_map_rulingRoutes {group : FqdnGroup routes}
    (compiles : group.Compiles resource) :
    group.rulesOf = (rulingRoutes group.fqdn routes).map Prod.fst := by
  have all_eq : group.all = (routesServing group.fqdn routes).mergeSort Route.canonicalLe := by
    rw [← routesServing_mergeSort, group.all_eq, FqdnGroup.all]
  have namespaces : Agree Route.namespaceName (routesServing group.fqdn routes) := by
    refine (agree_cons_iff.2 fun route mem => ?_).of_subset fun _ => mem_all_iff_mem_routesServing.2
    exact compiles.namespace_eq route (List.mem_cons_of_mem _ mem)
  rw [rulesOf, all_eq, mergeSort_urlLe_of_canonicalLe namespaces, map_fst_rulingRoutes]

/-! ## The virtual service -/

/-- A virtual service is made from the routes of the domain name that it says it serves, also where
they are not put in order by namespace and name before: none is lost, none is served twice, and
nothing is taken from another. -/
theorem virtualService_isMadeFrom (mem : resource ∈ (compile gateways routes).virtualServices ∨
      resource ∈ (TrafficRules.build gateways routes).virtualServices) :
    ∃ fqdn, resource.fqdn? = some fqdn ∧ resource.IsMadeFrom routes fqdn := by
  rw [← virtualServices_compile_eq_build, or_self] at mem
  obtain ⟨group, _, compiled⟩ := mem_virtualServices_compile.1 mem
  have compiles := group.compiles compiled
  refine ⟨group.fqdn, compiles.fqdn?_eq, congrArg ObjectKey.name compiles.key_eq,
    congrArg VirtualService.hosts (group.eq_of_compile compiled), fun route route_mem => ?_,
    rulingRoutes group.fqdn routes, fun _ _ => mem_rulingRoutes, ?_,
    pairwise_isServedBefore_rulingRoutes group.fqdn routes, ?_⟩
  · rw [← route.namespaceName_eq]
    exact congrArg ObjectKey.ns (key_eq_of_serves mem compiles.fqdn?_eq route_mem)
  · have apart := pairwise_position_rulingRoutes group.fqdn routes
    exact apart.imp fun ne same => ne (congrArg Prod.snd same)
  · have rules := compiles.rules
    rw [FqdnGroup.rulesOf_eq_map_rulingRoutes compiles, List.forall₂_map_left_iff] at rules
    exact rules.imp fun _ _ => isRuleOf_of_httpRule_eq_ok

/-- The virtual service of three routes that split the domain name differently is made from
them. -/
theorem splitRoutes_virtualService_isMadeFrom :
    ∃ resource ∈ (compile [] splitRoutes).virtualServices,
      resource.IsMadeFrom splitRoutes "a.b.c" := by
  obtain ⟨resource, mem, serves⟩ := exists_compile_splitRoutes
  obtain ⟨fqdn, serves', made⟩ := virtualService_isMadeFrom (.inl mem)
  cases serves.symm.trans serves'
  exact ⟨resource, mem, made⟩

end MeshRoutes
