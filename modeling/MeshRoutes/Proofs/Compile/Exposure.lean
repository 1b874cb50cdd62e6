import MeshRoutes.Proofs.Compile.References
import MeshRoutes.Proofs.Settings

/-!
# What is reached from outside

A virtual service of an internal domain name is bound to the inside of the mesh, and one of an
external domain name to the gateways of the settings. Which of the two is read off the first of its
routes alone. It counts for all of them: routes of a domain name that disagree are not compiled,
also where they split the name into host and domain in different ways. Settings that are accepted
name a gateway, so that a virtual service is never bound to none, which would mean the inside of the
mesh again.

* `VirtualService.BoundAsConfigured`: to which gateways a virtual service is bound.
* `VirtualService.KeepsInside`: whether a virtual service is bound as configured and nothing internal
  is reached through it from outside.
-/

namespace MeshRoutes

/-! ## Gateways -/

/-- Whether a virtual service is bound as some entries for gateways and its routes demand: where all
routes are internal, to the inside of the mesh, and where all are external, to the entries, trimmed
and in their order. -/
inductive VirtualService.BoundAsConfigured (entries : List String) (routes : List Route)
    (resource : VirtualService) : Prop
  | inside (gateways_eq : resource.gateways = [meshGateway])
      (internal : ∀ route ∈ routes, route.domain.internal = true)
  | outside (trimmed : List.Forall₂ Text.IsTrimOf entries resource.gateways)
      (external : ∀ route ∈ routes, route.domain.internal = false)

/-- Whether a virtual service of a domain name is bound as configured, to gateways that are not
blank, and nothing internal is reached through it from outside. If it is bound to anything but the
inside of the mesh, its rules are those of external routes of the domain name, and each of its
backends stands for a destination of such a route. If guids tell destinations apart, no destination
of an internal route is one of its backends then, not even by the name. -/
structure VirtualService.KeepsInside (entries : List String) (routes : List Route) (fqdn : String)
    (resource : VirtualService) : Prop where
  bound : resource.BoundAsConfigured entries (routesServing fqdn routes)
  gateways_ne_nil : resource.gateways ≠ []
  not_blank : ∀ gateway ∈ resource.gateways, ¬Text.IsBlankText gateway
  rules_external : resource.gateways ≠ [meshGateway] → ∀ rule ∈ resource.http,
    ∃ route ∈ routesServing fqdn routes, route.domain.internal = false ∧ httpRule route = .ok rule
  hosts_external : resource.gateways ≠ [meshGateway] → ∀ host ∈ resource.backendHosts,
    ∃ route ∈ routesServing fqdn routes, route.domain.internal = false ∧
      ∃ destination ∈ route.destinations, host = serviceName destination.guid
  internal_apart : resource.gateways ≠ [meshGateway] → (destinationGuids routes).Nodup →
    ∀ route ∈ routes, route.domain.internal = true → ∀ destination ∈ route.destinations,
      serviceName destination.guid ∉ resource.backendHosts

variable {gateways : List String} {routes : List Route}

theorem meshGateway_not_blank : ¬Text.IsBlankText meshGateway := by
  intro blank
  have mem : 'm' ∈ meshGateway.toList := by simp [meshGateway]
  exact absurd (blank 'm' mem) (by decide)

namespace FqdnGroup

variable {group : FqdnGroup routes} {resource : VirtualService}

theorem gateways_of_compile (compiled : group.compile gateways = .ok resource) :
    resource.gateways = gatewaysFor gateways group.first :=
  congrArg VirtualService.gateways (eq_of_compile compiled)

/-- The first route of a group speaks for all of them. -/
theorem internal_of_compile (compiled : group.compile gateways = .ok resource) {route : Route}
    (mem : route ∈ routesServing group.fqdn routes) :
    route.domain.internal = group.first.domain.internal :=
  ((group.exists_compile_eq_ok_iff gateways).1 ⟨resource, compiled⟩).internal_eq _ mem _
    (mem_all_iff_mem_routesServing.1 group.first_mem)

/-- Each rule is that of a route of the group. -/
theorem exists_route_of_mem_http (compiled : group.compile gateways = .ok resource)
    {rule : HttpRule} (mem : rule ∈ resource.http) :
    ∃ route ∈ routesServing group.fqdn routes, httpRule route = .ok rule := by
  obtain ⟨route, route_mem, ruled⟩ :=
    exists_mem_left_of_forall₂ (group.compiles compiled).rules mem
  have all_mem : route ∈ group.all := List.mem_mergeSort.1 (List.mem_of_mem_filter route_mem)
  exact ⟨route, mem_all_iff_mem_routesServing.1 all_mem, ruled⟩

end FqdnGroup

/-- Under settings that were accepted, each virtual service is bound to the inside of the mesh or to
the gateways of the settings, as all its routes demand, and nothing internal is reached from
outside. -/
theorem internal_routes_stay_inside {raw : RawSettings} {settings : Settings}
    (accepted : raw.check = .ok settings) {resource : VirtualService}
    (compiled : resource ∈ (compile settings.gateways routes).virtualServices) :
    ∃ fqdn, resource.fqdn? = some fqdn ∧ resource.KeepsInside raw.gateways routes fqdn := by
  obtain ⟨some_gateway, not_blank, _, rfl⟩ := RawSettings.check_eq_ok_iff.1 accepted
  obtain ⟨group, _, compiled⟩ := mem_virtualServices_compile.1 compiled
  have compiles := group.compiles compiled
  have gateways_eq := FqdnGroup.gateways_of_compile compiled
  refine ⟨group.fqdn, compiles.fqdn?_eq, ?_⟩
  cases visibility : group.first.domain.internal with
  | true =>
    have gateways_eq : resource.gateways = [meshGateway] := by
      rw [gateways_eq, gatewaysFor, visibility, if_pos rfl]
    refine ⟨.inside gateways_eq fun route mem => ?_, ?_, ?_,
      fun outside => absurd gateways_eq outside, fun outside => absurd gateways_eq outside,
      fun outside => absurd gateways_eq outside⟩
    · exact (FqdnGroup.internal_of_compile compiled mem).trans visibility
    · rw [gateways_eq]
      exact List.cons_ne_nil _ _
    · rw [gateways_eq]
      exact List.forall_mem_singleton.2 meshGateway_not_blank
  | false =>
    have gateways_eq : resource.gateways = raw.gateways.map Text.trim := by
      rw [gateways_eq, gatewaysFor, visibility, if_neg Bool.false_ne_true]
    have external : ∀ route ∈ routesServing group.fqdn routes, route.domain.internal = false :=
      fun route mem => (FqdnGroup.internal_of_compile compiled mem).trans visibility
    have hosts_external : ∀ host ∈ resource.backendHosts, ∃ endpoint : Endpoint routes,
        endpoint.route ∈ routesServing group.fqdn routes ∧
          endpoint.route.domain.internal = false ∧
          host = serviceName endpoint.destination.guid := by
      intro host host_mem
      obtain ⟨endpoint, fqdn, host_eq⟩ := compiles.mem_backendHosts_iff.1 host_mem
      have serves := mem_routesServing.2 ⟨endpoint.route_mem, fqdn⟩
      exact ⟨endpoint, serves, external _ serves, host_eq⟩
    refine ⟨.outside ?_ external, ?_, ?_, ?_, ?_, ?_⟩
    · rw [gateways_eq, List.forall₂_map_right_iff]
      exact List.forall₂_same.2 fun entry _ => Text.isTrimOf_trim entry
    · rw [gateways_eq]
      exact fun nil => some_gateway (List.map_eq_nil_iff.1 nil)
    · rw [gateways_eq]
      refine List.forall_mem_map.2 fun entry mem => ?_
      exact (Text.isTrimOf_trim entry).not_isBlankText (not_blank entry mem)
    · intro _ rule mem
      obtain ⟨route, route_mem, ruled⟩ := FqdnGroup.exists_route_of_mem_http compiled mem
      exact ⟨route, route_mem, external route route_mem, ruled⟩
    · intro _ host host_mem
      obtain ⟨endpoint, serves, endpoint_external, host_eq⟩ := hosts_external host host_mem
      exact ⟨endpoint.route, serves, endpoint_external, endpoint.destination,
        endpoint.destination_mem, host_eq⟩
    · intro _ guids route route_mem internal destination destination_mem host_mem
      obtain ⟨endpoint, _, endpoint_external, host⟩ := hosts_external _ host_mem
      let own : Endpoint routes := ⟨route, destination, route_mem, destination_mem⟩
      have same : own.route = endpoint.route :=
        (Endpoint.eq_of_guid_eq guids (serviceName_inj host)).1
      rw [← same] at endpoint_external
      cases internal.symm.trans endpoint_external

/-! ## An external and an internal domain name -/

/-- Routes of an external domain name and of an internal one. -/
def exposedAndInternal : List Route :=
  [plainRoute "a" "d-0" none,
    { plainRoute "b" "d-1" none with domain := { name := "example.com", internal := true } }]

/-- The virtual service of the external domain name is bound to the entries, trimmed. -/
theorem exposedAndInternal_stay_apart :
    let raw : RawSettings := { gateways := [" mesh/gateway\t", "other"] }
    let settings : Settings := { gateways := ["mesh/gateway", "other"], resyncSeconds := 60 }
    raw.check = .ok settings ∧
      ∃ resource ∈ (compile settings.gateways exposedAndInternal).virtualServices,
        resource.gateways = settings.gateways ∧
        ∃ fqdn, resource.fqdn? = some fqdn ∧
          resource.KeepsInside raw.gateways exposedAndInternal fqdn := by
  intro raw settings
  have accepted : raw.check = .ok settings := by decide
  have serving : routesServing "a.example.com" exposedAndInternal = [plainRoute "a" "d-0" none] := by
    decide
  have some_destination : HaveDestination (routesServing "a.example.com" exposedAndInternal) := by
    rw [serving]
    exact ⟨_, List.mem_cons_self, List.cons_ne_nil _ _⟩
  obtain ⟨group, fqdn, some_destination⟩ := FqdnGroup.exists_of_haveDestination some_destination
  have servable : Servable (routesServing group.fqdn exposedAndInternal) := by
    rw [fqdn, serving]
    refine ⟨?_, ?_, List.forall_mem_singleton.2 (.inl (List.forall_mem_singleton.2 rfl))⟩
    · intro a a_mem b b_mem
      rw [List.mem_singleton.1 a_mem, List.mem_singleton.1 b_mem]
    · intro a a_mem b b_mem
      rw [List.mem_singleton.1 a_mem, List.mem_singleton.1 b_mem]
  obtain ⟨resource, compiled⟩ := (group.exists_compile_eq_ok_iff settings.gateways).2 servable
  have mem := mem_virtualServices_compile.2 ⟨group, some_destination, compiled⟩
  have first_mem : group.first ∈ routesServing group.fqdn exposedAndInternal :=
    FqdnGroup.mem_all_iff_mem_routesServing.1 group.first_mem
  rw [fqdn, serving] at first_mem
  have bound : resource.gateways = settings.gateways := by
    rw [FqdnGroup.gateways_of_compile compiled, List.mem_singleton.1 first_mem]
    rfl
  exact ⟨accepted, resource, mem, bound, internal_routes_stay_inside accepted mem⟩

end MeshRoutes
