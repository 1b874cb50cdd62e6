import Mathlib.Data.List.Nodup
import MeshRoutes.Cluster.Client
import MeshRoutes.Compile.Basic
import MeshRoutes.Proofs.Mesh.Name
import MeshRoutes.Proofs.SortedMap
import MeshRoutes.Proofs.Traversal

/-!
# What endpoints are compiled

A service stands for one destination of one route: it is in the namespace of the route, is named
after the guid of the destination and says which domain name it belongs to.

* `mem_services_compile`, `mem_skippedDestinations_compile`: the services and the skipped
  destinations of a list of routes.
* `exists_serviceFor_eq_ok_iff`: a destination has a service when it has a port.
* `service_eq_of_key_eq`: no two services share a key when no two destinations share a guid.
-/

namespace MeshRoutes

/-- The domain name that a service says it belongs to. -/
def Service.fqdn? (resource : Service) : Option String :=
  resource.metadata.annotations.get? routeFqdnAnnotationKey

/-- The guids of the destinations of a list of routes. -/
def destinationGuids (routes : List Route) : List String :=
  routes.flatMap fun route => route.destinations.map (·.guid)

/-- A destination of one of some routes. -/
structure Endpoint (routes : List Route) where
  route : Route
  destination : Destination
  route_mem : route ∈ routes
  destination_mem : destination ∈ route.destinations

/-- Whether a destination has a port, which is not 0. -/
def Destination.HasPort (destination : Destination) : Prop :=
  ∃ port, destination.port = some port ∧ port ≠ 0

variable {gateways : List String} {routes : List Route} {service : Service}

/-! ## One destination -/

section ServiceFor

variable {route : Route} {destination : Destination}

theorem metadata_of_serviceFor_eq_ok (compiled : serviceFor route destination = .ok service) :
    service.metadata = (((ResourceMetadata.label
      { name := serviceName destination.guid, ns := route.namespaceName }
      routeGuidLabel route.guid).label appGuidLabel destination.app.guid).label processTypeLabel
      destination.app.processType).annotate routeFqdnAnnotationKey route.fqdn := by
  obtain ⟨port, _, done⟩ := bind_eq_ok_iff.1 compiled
  cases done
  rfl

theorem key_of_serviceFor_eq_ok (compiled : serviceFor route destination = .ok service) :
    service.metadata.key = ⟨route.namespaceName, serviceName destination.guid⟩ := by
  rw [metadata_of_serviceFor_eq_ok compiled]
  rfl

theorem fqdn?_of_serviceFor_eq_ok (compiled : serviceFor route destination = .ok service) :
    service.fqdn? = some route.fqdn := by
  rw [Service.fqdn?, metadata_of_serviceFor_eq_ok compiled]
  exact (SortedMap.get?_insert _ _ _ _).trans (if_pos rfl)

theorem label_of_serviceFor_eq_ok (compiled : serviceFor route destination = .ok service) :
    service.metadata.labels.get? routeGuidLabel = some route.guid := by
  rw [metadata_of_serviceFor_eq_ok compiled]
  simp only [ResourceMetadata.annotate, ResourceMetadata.label, SortedMap.get?_insert]
  rw [if_neg (by decide), if_neg (by decide), if_pos trivial]

theorem not_hasPort_iff :
    ¬destination.HasPort ↔ destination.port = none ∨ destination.port = some 0 := by
  unfold Destination.HasPort
  cases destination.port with
  | none => simp
  | some port => simp

theorem exists_serviceFor_eq_ok_iff :
    (∃ service, serviceFor route destination = .ok service) ↔ destination.HasPort := by
  have usable : (∃ port, usablePort route destination = .ok port) ↔ destination.HasPort := by
    unfold usablePort Destination.HasPort
    cases destination.port with
    | none => simp
    | some port => by_cases zero : port = 0 <;> simp [zero]
  rw [← usable]
  constructor
  · intro compiles
    obtain ⟨service, compiled⟩ := compiles
    obtain ⟨port, found, _⟩ := bind_eq_ok_iff.1 compiled
    exact ⟨port, found⟩
  · intro found
    obtain ⟨port, found⟩ := found
    exact ⟨_, bind_eq_ok_iff.2 ⟨port, found, rfl⟩⟩

end ServiceFor

/-! ## All destinations -/

theorem mem_outcomes_iff {destination : Destination} {outcome : Except Reason Service} :
    (destination, outcome) ∈ Endpoints.outcomes routes ↔
      ∃ route ∈ routes, destination ∈ route.destinations ∧
        outcome = serviceFor route destination := by
  simp only [Endpoints.outcomes, List.mem_flatMap, List.mem_map, Prod.mk.injEq]
  constructor
  · intro found
    rcases found with ⟨route, mem, _, destination_mem, rfl, rfl⟩
    exact ⟨route, mem, destination_mem, rfl⟩
  · intro found
    rcases found with ⟨route, mem, destination_mem, rfl⟩
    exact ⟨route, mem, destination, destination_mem, rfl, rfl⟩

theorem mem_services_compile : service ∈ (compile gateways routes).services ↔
    ∃ endpoint : Endpoint routes, serviceFor endpoint.route endpoint.destination = .ok service := by
  simp only [compile, Endpoints.build, List.mem_filterMap, Prod.exists, mem_outcomes_iff,
    List.mem_mergeSort, toOption_eq_some_iff]
  constructor
  · intro found
    rcases found with ⟨destination, _, ⟨route, mem, destination_mem, rfl⟩, compiled⟩
    exact ⟨⟨route, destination, mem, destination_mem⟩, compiled⟩
  · intro found
    rcases found with ⟨⟨route, destination, mem, destination_mem⟩, compiled⟩
    exact ⟨destination, _, ⟨route, mem, destination_mem, rfl⟩, compiled⟩

theorem mem_skippedDestinations_compile {skipped : SkippedDestination} :
    skipped ∈ (compile gateways routes).skippedDestinations ↔
      ∃ endpoint : Endpoint routes, endpoint.destination.guid = skipped.destination ∧
        serviceFor endpoint.route endpoint.destination = .error skipped.reason := by
  simp only [compile, Endpoints.build, List.mem_filterMap, Prod.exists, mem_outcomes_iff,
    List.mem_mergeSort]
  constructor
  · intro found
    rcases found with ⟨destination, _, ⟨route, mem, destination_mem, rfl⟩, done⟩
    cases outcome : serviceFor route destination with
    | ok service => simp [outcome] at done
    | error reason =>
      simp only [outcome, Option.some.injEq] at done
      subst done
      exact ⟨⟨route, destination, mem, destination_mem⟩, rfl, outcome⟩
  · intro found
    rcases found with ⟨⟨route, destination, mem, destination_mem⟩, guid, failed⟩
    refine ⟨destination, _, ⟨route, mem, destination_mem, rfl⟩, ?_⟩
    simp only at guid failed
    rw [failed, guid]

namespace Endpoint

/-- Each destination has a service, which belongs to the domain name of the route, or is skipped. -/
theorem exists_service_or_skipped (gateways : List String) (endpoint : Endpoint routes) :
    (∃ service ∈ (compile gateways routes).services, service.metadata.key =
        ⟨endpoint.route.namespaceName, serviceName endpoint.destination.guid⟩ ∧
        service.fqdn? = some endpoint.route.fqdn) ∨
      ∃ skipped ∈ (compile gateways routes).skippedDestinations,
        skipped.destination = endpoint.destination.guid := by
  cases outcome : serviceFor endpoint.route endpoint.destination with
  | ok service =>
    exact .inl ⟨service, mem_services_compile.2 ⟨endpoint, outcome⟩,
      key_of_serviceFor_eq_ok outcome, fqdn?_of_serviceFor_eq_ok outcome⟩
  | error reason =>
    exact .inr ⟨⟨endpoint.destination.guid, reason⟩,
      mem_skippedDestinations_compile.2 ⟨endpoint, rfl, outcome⟩, rfl⟩

/-- Where no two destinations share a guid, a guid tells the destination and its route. -/
theorem eq_of_guid_eq (guids : (destinationGuids routes).Nodup) {a b : Endpoint routes}
    (same : a.destination.guid = b.destination.guid) :
    a.route = b.route ∧ a.destination = b.destination := by
  let pairs := routes.flatMap fun route => route.destinations.map (route, ·)
  have mem (endpoint : Endpoint routes) : (endpoint.route, endpoint.destination) ∈ pairs :=
    List.mem_flatMap.2 ⟨_, endpoint.route_mem, List.mem_map_of_mem endpoint.destination_mem⟩
  have nodup : (pairs.map fun pair => pair.2.guid).Nodup := by
    simpa only [pairs, destinationGuids, List.map_flatMap, List.map_map, Function.comp_def]
      using guids
  exact Prod.mk.inj (List.inj_on_of_nodup_map nodup (mem a) (mem b) same)

end Endpoint

/-- Where no two destinations share a guid, no two services share a key. -/
theorem service_eq_of_key_eq (guids : (destinationGuids routes).Nodup) {a b : Service}
    (a_mem : a ∈ (compile gateways routes).services)
    (b_mem : b ∈ (compile gateways routes).services)
    (same : a.metadata.key = b.metadata.key) : a = b := by
  obtain ⟨left, a_eq⟩ := mem_services_compile.1 a_mem
  obtain ⟨right, b_eq⟩ := mem_services_compile.1 b_mem
  rw [key_of_serviceFor_eq_ok a_eq, key_of_serviceFor_eq_ok b_eq] at same
  obtain ⟨route, destination⟩ :=
    Endpoint.eq_of_guid_eq guids (serviceName_inj (congrArg ObjectKey.name same))
  rw [route, destination, b_eq] at a_eq
  exact (Except.ok.inj a_eq).symm

end MeshRoutes
