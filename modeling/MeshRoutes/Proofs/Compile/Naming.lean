import MeshRoutes.Proofs.Compile.Destinations
import MeshRoutes.Proofs.Mesh.Name
import MeshRoutes.Proofs.Route.Admission

/-!
# Which compiled names are allowed

A virtual service may always have its name. A service is named after a guid, and the guid is not
looked at: a destination with a port has a service also where no server takes it under its name. The
names are all allowed exactly if the guids of the destinations with a port are.

* `ObeysNaming`: whether the names are allowed, and destinations that cannot have one are skipped.
* `obeysNaming_compile_iff`: when it is so.
* `guid_is_not_checked_for_names`: it is not so for all routes that the server accepts.
-/

namespace MeshRoutes

/-- Whether the service of a destination may have its name. -/
def Destination.IsNameable (destination : Destination) : Prop :=
  IsObjectName longestServiceName (serviceName destination.guid)

instance Destination.decidableIsNameable (destination : Destination) :
    Decidable destination.IsNameable :=
  inferInstanceAs (Decidable (IsObjectName _ _))

/-- Whether the names of what some routes are compiled to are allowed, and the destinations without
such a name are skipped alone, as those without a port are. -/
structure ObeysNaming (routes : List Route) (compiled : Compiled) : Prop where
  virtualServices : ∀ resource ∈ compiled.virtualServices,
    IsObjectName longestObjectName resource.metadata.name
  services : ∀ resource ∈ compiled.services, IsObjectName longestServiceName resource.metadata.name
  named : compiled.services.map (·.metadata.name) =
    ((destinationsOf (routes.mergeSort Route.canonicalLe)).filter fun (_, destination) =>
      destination.HasPort ∧ destination.IsNameable).map fun (_, destination) =>
        serviceName destination.guid
  skipped : compiled.skippedDestinations.map (·.destination) =
    ((destinationsOf (routes.mergeSort Route.canonicalLe)).filter fun (_, destination) =>
      ¬(destination.HasPort ∧ destination.IsNameable)).map fun (_, destination) => destination.guid

variable {gateways : List String} {routes : List Route}

/-- The names of the services are those of the destinations with a port. -/
theorem map_name_services_compile (gateways : List String) (routes : List Route) :
    (compile gateways routes).services.map (·.metadata.name) =
      ((destinationsOf (routes.mergeSort Route.canonicalLe)).filter fun (_, destination) =>
        destination.HasPort).map fun (_, destination) => serviceName destination.guid :=
  map_eq_map_of_forall₂ (build_accountFor _).services fun _ _ is_for => is_for.name_eq

/-- The other destinations are skipped. -/
theorem map_destination_skippedDestinations_compile (gateways : List String)
    (routes : List Route) :
    (compile gateways routes).skippedDestinations.map (·.destination) =
      ((destinationsOf (routes.mergeSort Route.canonicalLe)).filter fun (_, destination) =>
        ¬destination.HasPort).map fun (_, destination) => destination.guid :=
  map_eq_map_of_forall₂ (build_accountFor _).skipped fun _ _ is_for => is_for.destination_eq

theorem virtualServices_compile_isObjectName {resource : VirtualService}
    (mem : resource ∈ (compile gateways routes).virtualServices) :
    IsObjectName longestObjectName resource.metadata.name := by
  obtain ⟨group, _, compiled⟩ := mem_virtualServices_compile.1 mem
  have name_eq : resource.metadata.name = virtualServiceName group.fqdn :=
    congrArg ObjectKey.name (group.compiles compiled).key_eq
  rw [name_eq]
  exact virtualServiceName_isObjectName group.fqdn

/-- The services may have their names exactly if the destinations with a port are nameable. -/
theorem services_compile_isObjectName_iff :
    (∀ resource ∈ (compile gateways routes).services,
        IsObjectName longestServiceName resource.metadata.name) ↔
      ∀ route ∈ routes, ∀ destination ∈ route.destinations, destination.HasPort →
        destination.IsNameable := by
  have names : (∀ resource ∈ (compile gateways routes).services,
      IsObjectName longestServiceName resource.metadata.name) ↔
      ∀ name ∈ (compile gateways routes).services.map (·.metadata.name),
        IsObjectName longestServiceName name := List.forall_mem_map.symm
  rw [names, map_name_services_compile, List.forall_mem_map]
  simp only [List.mem_filter, Prod.forall, mem_destinationsOf, List.mem_mergeSort,
    decide_eq_true_eq, and_imp, Destination.IsNameable]
  exact forall_congr' fun _ => forall_comm

/-- The names are allowed exactly if the guids of the destinations with a port are. -/
theorem obeysNaming_compile_iff : ObeysNaming routes (compile gateways routes) ↔
    ∀ route ∈ routes, ∀ destination ∈ route.destinations, destination.HasPort →
      destination.IsNameable := by
  refine ⟨fun obeys => services_compile_isObjectName_iff.1 obeys.services, fun nameable => ?_⟩
  have each (pair : Route × Destination)
      (mem : pair ∈ destinationsOf (routes.mergeSort Route.canonicalLe)) :
      pair.2.HasPort ∧ pair.2.IsNameable ↔ pair.2.HasPort := by
    obtain ⟨route_mem, destination_mem⟩ := mem_destinationsOf.1 mem
    exact and_iff_left_of_imp
      (nameable pair.1 (List.mem_mergeSort.1 route_mem) pair.2 destination_mem)
  refine ⟨fun _ => virtualServices_compile_isObjectName,
    services_compile_isObjectName_iff.2 nameable, ?_, ?_⟩
  · rw [map_name_services_compile]
    refine congrArg _ (List.filter_congr fun pair mem => ?_)
    exact decide_eq_decide.2 (each pair mem).symm
  · rw [map_destination_skippedDestinations_compile]
    refine congrArg _ (List.filter_congr fun pair mem => ?_)
    exact decide_eq_decide.2 (not_congr (each pair mem)).symm

/-- Virtual services may always have their names. All names are allowed, and destinations without
one skipped, exactly if the guid of each destination with a port has the characters of a name and is
two shorter than the longest. -/
theorem compiled_names_are_allowed_iff (gateways : List String) (routes : List Route) :
    (∀ resource ∈ (compile gateways routes).virtualServices,
        IsObjectName longestObjectName resource.metadata.name) ∧
      (ObeysNaming routes (compile gateways routes) ↔
        ∀ route ∈ routes, ∀ destination ∈ route.destinations, destination.HasPort →
          destination.guid.toList.all isNameChar = true ∧ destination.guid.length ≤ 61) := by
  refine ⟨fun _ => virtualServices_compile_isObjectName, obeysNaming_compile_iff.trans ?_⟩
  simp only [Destination.IsNameable, isObjectName_serviceName_iff]

/-- A route in namespace `ns` that sends its requests to one destination with the given guid. -/
def Route.documentWithGuid (guid : String) : Json :=
  .obj [
    ("metadata", .obj [("name", .str "r"), ("namespace", .str "ns")]),
    ("spec", .obj [("domain", .obj [("name", .str "example.com")]),
      ("destinations", .arr [.obj [("guid", .str guid), ("port", .int 8080),
        ("app", .obj [("guid", .str "a"), ("process", .obj [("type", .str "web")])])]])])]

/-- A guid with a capital letter and an underscore is accepted and read, and is the name of a
service. -/
theorem guid_is_not_checked_for_names :
    ¬ ∀ (doc : Json) (object : ApiObject) (route : Route), Route.schema.accepts doc = true →
      ApiObject.ofJson? doc = some object → object.route? = some route →
      ObeysNaming [route] (compile ["gateway"] [route]) := by
  intro all_obey
  have obeys := all_obey (Route.documentWithGuid "D_0") _ _ (by decide) rfl rfl
  have nameable := obeysNaming_compile_iff.1 obeys _ List.mem_cons_self _ List.mem_cons_self
    ⟨8080, rfl, by decide⟩
  exact absurd nameable (by decide)

end MeshRoutes
