import MeshRoutes.Proofs.Compile.Partition

/-!
# Virtual services and the services behind them

Virtual services and services are compiled apart from each other, by domain name the ones and by
destination the others, and either may be skipped. Still they fit together: a backend is found in
the namespace of its virtual service, unless its destination is skipped, and a service is a backend
of the virtual service of its domain name, unless that is skipped. That both are in one namespace is
due to the agreement of the routes of a domain name.

* `FqdnGroup.Compiles.mem_backendHosts_iff`: the backends of a virtual service are the destinations
  of its domain name.
* `Compiled.RefersBothWays`: whether what is compiled fits together.
-/

namespace MeshRoutes

variable {gateways : List String} {routes : List Route}

/-! ## The backends of a virtual service -/

/-- A rule has a backend for each destination of its route. -/
theorem map_host_of_httpRule_eq_ok {route : Route} {rule : HttpRule}
    (ruled : httpRule route = .ok rule) :
    rule.backends.map (·.host) =
      route.destinations.map fun destination => serviceName destination.guid := by
  obtain ⟨weights, resolved, done⟩ := bind_eq_ok_iff.1 ruled
  cases done
  have all_weighted : route.destinations.length ≤ weights.length :=
    (length_of_resolveWeights_eq_ok resolved).ge
  rw [← List.map_uncurry_zip_eq_zipWith, List.map_map]
  calc (route.destinations.zip weights).map ((·.host) ∘ Function.uncurry (backend route))
      = ((route.destinations.zip weights).map Prod.fst).map
          fun destination => serviceName destination.guid := by
        rw [List.map_map]
        rfl
    _ = route.destinations.map fun destination => serviceName destination.guid := by
        rw [List.map_fst_zip all_weighted]

namespace FqdnGroup

variable {group : FqdnGroup routes} {resource : VirtualService}

/-- The backends of a virtual service stand for the destinations of its domain name. -/
theorem Compiles.mem_backendHosts_iff (compiles : group.Compiles resource) {host : String} :
    host ∈ resource.backendHosts ↔
      ∃ endpoint : Endpoint routes, endpoint.route.fqdn = group.fqdn ∧
        host = serviceName endpoint.destination.guid := by
  constructor
  · intro mem
    obtain ⟨endpoint, fqdn, _, host_eq⟩ := compiles.exists_endpoint mem
    exact ⟨endpoint, fqdn, host_eq⟩
  · intro found
    obtain ⟨endpoint, fqdn, rfl⟩ := found
    have some_destination : endpoint.route.hasDestinations :=
      Route.hasDestinations_iff.2 (List.ne_nil_of_mem endpoint.destination_mem)
    have ruled_mem : endpoint.route ∈ group.rulesOf :=
      List.mem_filter.2
        ⟨List.mem_mergeSort.2 (mem_all.2 ⟨endpoint.route_mem, fqdn⟩), some_destination⟩
    obtain ⟨rule, rule_mem, ruled⟩ := exists_mem_left_of_forall₂ compiles.rules.flip ruled_mem
    refine List.mem_flatMap.2 ⟨rule, rule_mem, ?_⟩
    rw [map_host_of_httpRule_eq_ok ruled]
    exact List.mem_map_of_mem endpoint.destination_mem

end FqdnGroup

/-- A domain name is served by one virtual service. -/
theorem virtualService_eq_of_fqdn?_eq {a b : VirtualService} {fqdn : String}
    (a_mem : a ∈ (compile gateways routes).virtualServices)
    (b_mem : b ∈ (compile gateways routes).virtualServices)
    (a_serves : a.fqdn? = some fqdn) (b_serves : b.fqdn? = some fqdn) : a = b := by
  obtain ⟨left, _, a_eq⟩ := mem_virtualServices_compile.1 a_mem
  obtain ⟨right, _, b_eq⟩ := mem_virtualServices_compile.1 b_mem
  have left_fqdn : left.fqdn = fqdn :=
    Option.some.inj ((left.compiles a_eq).fqdn?_eq.symm.trans a_serves)
  have right_fqdn : right.fqdn = fqdn :=
    Option.some.inj ((right.compiles b_eq).fqdn?_eq.symm.trans b_serves)
  rw [FqdnGroup.eq_of_fqdn_eq (left_fqdn.trans right_fqdn.symm), b_eq] at a_eq
  exact (Except.ok.inj a_eq).symm

/-! ## The service of a destination -/

/-- The domain name of a destination has a group. -/
theorem Endpoint.exists_group (endpoint : Endpoint routes) :
    ∃ group : FqdnGroup routes, group.fqdn = endpoint.route.fqdn ∧ group.HasDestinations := by
  refine FqdnGroup.exists_of_haveDestination
    ⟨endpoint.route, mem_routesServing.2 ⟨endpoint.route_mem, rfl⟩, ?_⟩
  exact List.ne_nil_of_mem endpoint.destination_mem

/-! ## Both ways -/

/-- Whether a service is the one to which a backend of a virtual service of a domain name refers. -/
structure Service.Backs (service : Service) (fqdn : String) (resource : VirtualService)
    (host : String) : Prop where
  name_eq : service.metadata.name = host
  namespace_eq : service.metadata.ns = resource.metadata.ns
  fqdn?_eq : service.fqdn? = some fqdn

/-- Whether virtual services and services refer to each other. Each backend of a virtual service has
its service, unless a destination with the name of the backend is skipped. Each service is a backend
of the virtual service of its domain name, of which there is one only, unless the domain name is
skipped. -/
structure Compiled.RefersBothWays (compiled : Compiled) : Prop where
  backend_has_service : ∀ resource ∈ compiled.virtualServices,
    ∃ fqdn, resource.fqdn? = some fqdn ∧ ∀ host ∈ resource.backendHosts,
      (∃ service ∈ compiled.services, service.Backs fqdn resource host) ∨
        ∃ skipped ∈ compiled.skippedDestinations, serviceName skipped.destination = host
  service_has_backend : ∀ service ∈ compiled.services,
    ∃ fqdn, service.fqdn? = some fqdn ∧
      ((∃ resource ∈ compiled.virtualServices, resource.fqdn? = some fqdn ∧
          (∃ host ∈ resource.backendHosts, service.Backs fqdn resource host) ∧
          ∀ other ∈ compiled.virtualServices, other.fqdn? = some fqdn → other = resource) ∨
        ∃ skipped ∈ compiled.skippedFqdns, skipped.fqdn = fqdn)

/-- What routes compile to refers both ways. -/
theorem compile_refers_both_ways (gateways : List String) (routes : List Route) :
    (compile gateways routes).RefersBothWays where
  backend_has_service := by
    intro resource mem
    obtain ⟨group, _, compiled⟩ := mem_virtualServices_compile.1 mem
    have compiles := group.compiles compiled
    refine ⟨group.fqdn, compiles.fqdn?_eq, fun host host_mem => ?_⟩
    obtain ⟨endpoint, fqdn, namespace_eq, rfl⟩ := compiles.exists_endpoint host_mem
    rcases endpoint.exists_service_or_skipped gateways with
      ⟨service, service_mem, key, serves⟩ | ⟨skipped, skipped_mem, guid⟩
    · rw [fqdn] at serves
      exact .inl ⟨service, service_mem, congrArg ObjectKey.name key,
        (congrArg ObjectKey.ns key).trans namespace_eq, serves⟩
    · exact .inr ⟨skipped, skipped_mem, congrArg serviceName guid⟩
  service_has_backend := by
    intro service mem
    obtain ⟨endpoint, compiled⟩ := mem_services_compile.1 mem
    have key := key_of_serviceFor_eq_ok compiled
    have serves := fqdn?_of_serviceFor_eq_ok compiled
    obtain ⟨group, fqdn, some_destination⟩ := endpoint.exists_group
    refine ⟨endpoint.route.fqdn, serves, ?_⟩
    cases outcome : group.compile gateways with
    | error reason =>
      exact .inr ⟨⟨endpoint.route.fqdn, reason⟩,
        mem_skippedFqdns_compile.2 ⟨group, some_destination, fqdn, outcome⟩, rfl⟩
    | ok resource =>
      have compiles := group.compiles outcome
      have resource_mem := mem_virtualServices_compile.2 ⟨group, some_destination, outcome⟩
      have resource_serves : resource.fqdn? = some endpoint.route.fqdn :=
        compiles.fqdn?_eq.trans (congrArg some fqdn)
      -- the routes of the domain name agree on the namespace, or it would have been skipped
      have route_mem : endpoint.route ∈ group.all :=
        FqdnGroup.mem_all.2 ⟨endpoint.route_mem, fqdn.symm⟩
      have namespace_eq : service.metadata.ns = resource.metadata.ns :=
        (congrArg ObjectKey.ns key).trans
          ((compiles.namespace_eq _ route_mem).trans (congrArg ObjectKey.ns compiles.key_eq).symm)
      refine .inl ⟨resource, resource_mem, resource_serves,
        ⟨_, compiles.mem_backendHosts_iff.2 ⟨endpoint, fqdn.symm, rfl⟩, ?_⟩, ?_⟩
      · exact ⟨congrArg ObjectKey.name key, namespace_eq, serves⟩
      · intro other other_mem other_serves
        exact virtualService_eq_of_fqdn?_eq other_mem resource_mem other_serves resource_serves

end MeshRoutes
