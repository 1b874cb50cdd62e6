import MeshRoutes.Proofs.Compile.Partition
import MeshRoutes.Proofs.Pass.Plan

/-!
# What is stale

Which of the resources that earlier passes made are removed is decided by the routes alone. A
resource stays where the routes compile to one under its key, and where it belongs to a domain name
or a destination that is skipped. These are told apart by namespace and name, by domain name, and by
name in any namespace.

* `ManagedResource.IsStaleVirtualService`, `ManagedResource.IsStaleService`: whether the routes have
  no use for a resource.
* `mem_keys_virtualService_iff`, `mem_keys_service_iff`: the keys to which routes compile.
* `PrunePlan.IsExact`: whether a plan removes what is stale, in order.
-/

namespace MeshRoutes

/-- Whether a domain name has a destination among some routes that cannot be served together. -/
def IsInvalid (routes : List Route) (fqdn : String) : Prop :=
  HaveDestination (routesServing fqdn routes) ∧ ¬Servable (routesServing fqdn routes)

namespace ManagedResource

/-- Whether a virtual service is stale where there are some routes: it is not in the place of the
virtual service of a domain name that has a destination and is valid, and the domain name it belongs
to is not invalid. -/
structure IsStaleVirtualService (routes : List Route) (resource : ManagedResource) : Prop where
  not_compiled : ∀ route ∈ routes, HaveDestination (routesServing route.fqdn routes) →
    Servable (routesServing route.fqdn routes) →
    resource.key ≠ ⟨route.metadata.ns.getD "", virtualServiceName route.fqdn⟩
  not_invalid : ¬IsInvalid routes resource.fqdn

/-- Whether a service is stale where there are some routes: it is not in the place of the service of
a destination with a port, nor named after one without a port, in whatever namespace, and the domain
name it belongs to is not invalid. -/
structure IsStaleService (routes : List Route) (resource : ManagedResource) : Prop where
  not_compiled : ∀ route ∈ routes, ∀ destination ∈ route.destinations, destination.HasPort →
    resource.key ≠ ⟨route.metadata.ns.getD "", serviceName destination.guid⟩
  no_port : ∀ route ∈ routes, ∀ destination ∈ route.destinations,
    destination.port = none ∨ destination.port = some 0 →
    resource.name ≠ serviceName destination.guid
  not_invalid : ¬IsInvalid routes resource.fqdn

end ManagedResource

/-- Whether a list has the stale ones of some resources, each as often as before, ascending by
namespace, name and domain name. -/
structure IsStalePart (stale : ManagedResource → Prop) (existing removed : List ManagedResource) :
    Prop where
  mem_iff : ∀ resource, resource ∈ removed ↔ resource ∈ existing ∧ stale resource
  count_eq : ∀ resource ∈ removed, removed.count resource = existing.count resource
  ordered : removed.Pairwise fun a b => a.ns < b.ns ∨
    a.ns = b.ns ∧ (a.name < b.name ∨ a.name = b.name ∧ a.fqdn ≤ b.fqdn)

/-- Whether a plan removes of the existing resources what is stale where there are some routes. -/
structure PrunePlan.IsExact (routes : List Route) (virtualServices services : List ManagedResource)
    (plan : PrunePlan) : Prop where
  virtualServices :
    IsStalePart (·.IsStaleVirtualService routes) virtualServices plan.virtualServices
  services : IsStalePart (·.IsStaleService routes) services plan.services

variable {gateways : List String} {routes : List Route} {resource : ManagedResource}
  {key : ObjectKey} {fqdn : String}

/-! ## What routes compile to -/

theorem mem_keys_virtualService_iff :
    key ∈ (compile gateways routes).keys .virtualService ↔
      ∃ route ∈ routes, HaveDestination (routesServing route.fqdn routes) ∧
        Servable (routesServing route.fqdn routes) ∧
        key = ⟨route.namespaceName, virtualServiceName route.fqdn⟩ := by
  constructor
  · intro mem
    obtain ⟨resource, resource_mem, rfl⟩ := List.mem_map.1 mem
    obtain ⟨group, some_destination, compiled⟩ := mem_virtualServices_compile.1 resource_mem
    obtain ⟨first_mem, fqdn⟩ := FqdnGroup.mem_all.1 group.first_mem
    refine ⟨group.first, first_mem, ?_⟩
    rw [fqdn]
    exact ⟨FqdnGroup.hasDestinations_iff.1 some_destination,
      (group.exists_compile_eq_ok_iff gateways).1 ⟨resource, compiled⟩,
      (group.compiles compiled).key_eq⟩
  · intro found
    obtain ⟨route, mem, some_destination, servable, rfl⟩ := found
    obtain ⟨resource, resource_mem, key_eq, _⟩ := exists_virtualService_of_servable gateways
      (mem_routesServing.2 ⟨mem, rfl⟩) some_destination servable
    rw [← key_eq]
    exact List.mem_map_of_mem resource_mem

theorem Endpoint.mem_keys (endpoint : Endpoint routes) {service : Service}
    (compiled : serviceFor endpoint.route endpoint.destination = .ok service) :
    ⟨endpoint.route.namespaceName, serviceName endpoint.destination.guid⟩ ∈
      (compile gateways routes).keys .service := by
  rw [← key_of_serviceFor_eq_ok compiled]
  exact List.mem_map_of_mem (mem_services_compile.2 ⟨endpoint, compiled⟩)

theorem mem_keys_service_iff :
    key ∈ (compile gateways routes).keys .service ↔
      ∃ route ∈ routes, ∃ destination ∈ route.destinations, destination.HasPort ∧
        key = ⟨route.namespaceName, serviceName destination.guid⟩ := by
  constructor
  · intro mem
    obtain ⟨service, service_mem, rfl⟩ := List.mem_map.1 mem
    obtain ⟨endpoint, compiled⟩ := mem_services_compile.1 service_mem
    exact ⟨endpoint.route, endpoint.route_mem, endpoint.destination, endpoint.destination_mem,
      exists_serviceFor_eq_ok_iff.1 ⟨service, compiled⟩, key_of_serviceFor_eq_ok compiled⟩
  · intro found
    obtain ⟨route, mem, destination, destination_mem, port, rfl⟩ := found
    obtain ⟨service, compiled⟩ := exists_serviceFor_eq_ok_iff.2 port
    exact Endpoint.mem_keys ⟨route, destination, mem, destination_mem⟩ compiled

theorem exists_skippedFqdn_iff :
    (∃ skipped ∈ (compile gateways routes).skippedFqdns, skipped.fqdn = fqdn) ↔
      IsInvalid routes fqdn := by
  rw [← List.mem_map, mem_map_skippedFqdns_compile, IsInvalid]

theorem exists_skippedDestination_iff {name : String} :
    (∃ skipped ∈ (compile gateways routes).skippedDestinations,
        serviceName skipped.destination = name) ↔
      ∃ route ∈ routes, ∃ destination ∈ route.destinations, ¬destination.HasPort ∧
        name = serviceName destination.guid := by
  constructor
  · intro found
    obtain ⟨skipped, mem, rfl⟩ := found
    obtain ⟨endpoint, guid, failed⟩ := mem_skippedDestinations_compile.1 mem
    refine ⟨endpoint.route, endpoint.route_mem, endpoint.destination, endpoint.destination_mem,
      fun port => ?_, congrArg serviceName guid.symm⟩
    obtain ⟨service, compiled⟩ := exists_serviceFor_eq_ok_iff.2 port
    cases failed.symm.trans compiled
  · intro found
    obtain ⟨route, mem, destination, destination_mem, no_port, rfl⟩ := found
    cases outcome : serviceFor route destination with
    | ok service => exact (no_port (exists_serviceFor_eq_ok_iff.1 ⟨service, outcome⟩)).elim
    | error reason =>
      let endpoint : Endpoint routes := ⟨route, destination, mem, destination_mem⟩
      exact ⟨⟨destination.guid, reason⟩,
        mem_skippedDestinations_compile.2 ⟨endpoint, rfl, outcome⟩, rfl⟩

/-! ## What is removed -/

namespace PrunePlan

theorem isStaleVirtualService_compile_iff :
    isStaleVirtualService (compile gateways routes) resource = true ↔
      resource.IsStaleVirtualService routes := by
  rw [isStaleVirtualService_iff, mem_keys_virtualService_iff, Compiled.Spares,
    exists_skippedFqdn_iff]
  constructor
  · intro stale
    exact ⟨fun route mem some_destination servable same =>
      stale.1 ⟨route, mem, some_destination, servable, same⟩, stale.2⟩
  · intro stale
    refine ⟨fun compiled => ?_, stale.not_invalid⟩
    obtain ⟨route, mem, some_destination, servable, same⟩ := compiled
    exact stale.not_compiled route mem some_destination servable same

theorem isStaleService_compile_iff :
    isStaleService (compile gateways routes) resource = true ↔
      resource.IsStaleService routes := by
  rw [isStaleService_iff, mem_keys_service_iff, Compiled.Spares, exists_skippedFqdn_iff,
    exists_skippedDestination_iff, not_or]
  constructor
  · intro stale
    obtain ⟨not_compiled, not_invalid, not_skipped⟩ := stale
    exact ⟨fun route mem destination destination_mem port same =>
        not_compiled ⟨route, mem, destination, destination_mem, port, same⟩,
      fun route mem destination destination_mem no_port same =>
        not_skipped ⟨route, mem, destination, destination_mem, not_hasPort_iff.2 no_port, same⟩,
      not_invalid⟩
  · intro stale
    refine ⟨fun compiled => ?_, stale.not_invalid, fun skipped => ?_⟩
    · obtain ⟨route, mem, destination, destination_mem, port, same⟩ := compiled
      exact stale.not_compiled route mem destination destination_mem port same
    · obtain ⟨route, mem, destination, destination_mem, no_port, same⟩ := skipped
      exact stale.no_port route mem destination destination_mem (not_hasPort_iff.1 no_port) same

end PrunePlan

/-! ## The order of removal -/

namespace ManagedResource

theorem le_iff_key {a b : ManagedResource} :
    a.le b = true ↔ a.key < b.key ∨ a.key = b.key ∧ a.fqdn ≤ b.fqdn := by
  simp only [le, Bool.or_eq_true, Bool.and_eq_true, decide_eq_true_eq]

theorem le_iff {a b : ManagedResource} : a.le b = true ↔
    a.ns < b.ns ∨ a.ns = b.ns ∧ (a.name < b.name ∨ a.name = b.name ∧ a.fqdn ≤ b.fqdn) := by
  simp only [le_iff_key, key, ObjectKey.lt_iff, ObjectKey.mk.injEq, or_assoc, and_assoc,
    and_or_left]

theorem le_total (a b : ManagedResource) : (a.le b || b.le a) = true := by
  rw [Bool.or_eq_true, le_iff_key, le_iff_key]
  by_cases same : a.key = b.key
  · exact (String.le_total a.fqdn b.fqdn).imp (fun le => .inr ⟨same, le⟩)
      fun ge => .inr ⟨same.symm, ge⟩
  · by_cases below : a.key < b.key
    · exact .inl (.inl below)
    · exact .inr (.inl (Classical.not_not.1 fun not_above =>
        same (ObjectKey.eq_of_not_lt below not_above)))

theorem le_trans {a b c : ManagedResource} (ab : a.le b = true) (bc : b.le c = true) :
    a.le c = true := by
  rw [le_iff_key] at *
  rcases ab with below | ⟨same, le⟩
  · rcases bc with below' | ⟨same', _⟩
    · exact .inl (ObjectKey.lt_trans below below')
    · exact .inl (same' ▸ below)
  · rw [same]
    exact bc.imp_right fun rest => ⟨rest.1, String.le_trans le rest.2⟩

end ManagedResource

theorem isStalePart_of_filter {stale : ManagedResource → Prop} {keep : ManagedResource → Bool}
    (keep_iff : ∀ resource, keep resource = true ↔ stale resource)
    (existing : List ManagedResource) :
    IsStalePart stale existing ((existing.filter keep).mergeSort ManagedResource.le) where
  mem_iff resource := by rw [List.mem_mergeSort, List.mem_filter, keep_iff]
  count_eq resource mem := by
    rw [List.mem_mergeSort, List.mem_filter] at mem
    rw [(List.mergeSort_perm _ _).count_eq, List.count_filter mem.2]
  ordered := by
    have sorted := @List.pairwise_mergeSort _ ManagedResource.le
      (fun _ _ _ => ManagedResource.le_trans) ManagedResource.le_total (existing.filter keep)
    exact sorted.imp ManagedResource.le_iff.1

/-- A plan removes exactly what is stale where there are the routes that it was made from. -/
theorem prunePlan_isExact (gateways : List String) (routes : List Route)
    (virtualServices services : List ManagedResource) :
    (PrunePlan.of (compile gateways routes) virtualServices services).IsExact routes
      virtualServices services where
  virtualServices :=
    isStalePart_of_filter (fun _ => PrunePlan.isStaleVirtualService_compile_iff) virtualServices
  services := isStalePart_of_filter (fun _ => PrunePlan.isStaleService_compile_iff) services

end MeshRoutes
