import MeshRoutes.Proofs.Compile.Isolation

/-!
# What becomes of each destination

The destinations of a list of routes are taken in the order of the routes and, within a route, in
its own order. Each of them has a service, or it is skipped, and it is so once: the services stand
for the destinations with a usable port, one after the other, and the skipped ones for the others.
All that a service says comes from its destination and the route of this destination.

* `destinationsOf`: the destinations of some routes, with their routes.
* `Service.IsFor`, `SkippedDestination.IsFor`: what a service says of its destination, and what is
  said of a skipped one.
* `Endpoints.AccountFor`: whether endpoints have one place for each destination.
* `EndpointsAreLocal`: what the endpoints of a route do not depend on.
-/

namespace MeshRoutes

/-- The destinations of some routes, with their routes. -/
def destinationsOf (routes : List Route) : List (Route × Destination) :=
  routes.flatMap fun route => route.destinations.map (route, ·)

instance Destination.decidableHasPort (destination : Destination) :
    Decidable destination.HasPort :=
  decidable_of_iff (¬(destination.port = none ∨ destination.port = some 0))
    (not_congr not_hasPort_iff.symm |>.trans Classical.not_not)

/-- Whether a service is that of a destination of a route: it is in the namespace of the route, has
two labels from the destination and one from the route, says which domain name the route serves, and
reaches the pods of the destination on its port. -/
structure Service.IsFor (route : Route) (destination : Destination) (service : Service) :
    Prop where
  type_eq : service.apiVersion = serviceApiVersion ∧ service.kind = serviceKind
  name_eq : service.metadata.name = serviceName destination.guid
  namespace_eq : service.metadata.ns = route.metadata.ns.getD ""
  labels_eq : service.metadata.labels.entries = [
    (appGuidLabel, destination.app.guid),
    (processTypeLabel, destination.app.processType),
    (routeGuidLabel, route.metadata.name.getD (route.metadata.generateName.getD ""))]
  annotations_eq : service.metadata.annotations.entries = [(routeFqdnAnnotationKey, route.fqdn)]
  selector_eq : service.selector = destination.selector
  ports_eq : ∃ port, destination.port = some port ∧ port ≠ 0 ∧
    service.ports = [{ name := httpPortName, number := port }]

/-- Whether a skipped destination is a destination of a route that has no port or port 0. -/
inductive SkippedDestination.IsFor (route : Route) (destination : Destination) :
    SkippedDestination → Prop
  | missing (port_eq : destination.port = none) : IsFor route destination
      { destination := destination.guid, reason := .missingPort route.guid destination.guid }
  | zero (port_eq : destination.port = some 0) : IsFor route destination
      { destination := destination.guid, reason := .invalidPort route.guid destination.guid 0 }

/-- Whether endpoints have one place for each destination of some routes: those with a port have
services and the others are skipped, in order. -/
structure Endpoints.AccountFor (routes : List Route) (endpoints : Endpoints) : Prop where
  services : List.Forall₂ (fun (route, destination) service => service.IsFor route destination)
    ((destinationsOf routes).filter fun (_, destination) => destination.HasPort) endpoints.services
  skipped : List.Forall₂ (fun (route, destination) skipped => skipped.IsFor route destination)
    ((destinationsOf routes).filter fun (_, destination) => ¬destination.HasPort) endpoints.skipped

/-- The destination without its weight. -/
def Destination.unweighted (destination : Destination) : Destination :=
  { destination with weight := none }

/-- The route without the weights of its destinations and the visibility of its domain. -/
def Route.unweighted (route : Route) : Route :=
  { route with
    domain := { route.domain with internal := false }
    destinations := route.destinations.map Destination.unweighted }

/-- What the endpoints of some routes do not depend on: the services and the skipped destinations of
a route not on other routes, and nothing on weights and on the visibility of domains. -/
structure EndpointsAreLocal (routes : List Route) : Prop where
  services_eq : (Endpoints.build routes).services = routes.flatMap fun route =>
    (Endpoints.build [route]).services
  skipped_eq : (Endpoints.build routes).skipped = routes.flatMap fun route =>
    (Endpoints.build [route]).skipped
  unweighted_eq : ∀ others : List Route,
    others.map Route.unweighted = routes.map Route.unweighted →
    Endpoints.build others = Endpoints.build routes

variable {routes : List Route} {route : Route} {destination : Destination}

/-! ## One destination -/

/-- The skipped destination that a destination of a route is, if it is skipped. -/
def skippedFor? (route : Route) (destination : Destination) : Option SkippedDestination :=
  match serviceFor route destination with
  | .ok _ => none
  | .error reason => some { destination := destination.guid, reason }

theorem usablePort_eq_ok_iff {port : UInt16} :
    usablePort route destination = .ok port ↔ destination.port = some port ∧ port ≠ 0 := by
  unfold usablePort
  cases destination.port with
  | none => simp
  | some given =>
    by_cases zero : given = 0
    · simp +contextual [zero, eq_comm]
    · simp only [zero, if_false, Except.ok.injEq, Option.some.injEq]
      exact ⟨fun same => ⟨same, same ▸ zero⟩, And.left⟩

theorem usablePort_eq_error_iff {reason : Reason} :
    usablePort route destination = .error reason ↔
      destination.port = none ∧ reason = .missingPort route.guid destination.guid ∨
        destination.port = some 0 ∧ reason = .invalidPort route.guid destination.guid 0 := by
  unfold usablePort
  cases destination.port with
  | none => simp [eq_comm]
  | some given =>
    by_cases zero : given = 0
    · simp [zero, eq_comm]
    · simp [zero]

/-- The labels in the order of their keys; that of the route is set first. -/
theorem entries_labels (routeGuid appGuid processType : String) :
    ((((∅ : TextMap).insert routeGuidLabel routeGuid).insert appGuidLabel appGuid).insert
      processTypeLabel processType).entries = [
    (appGuidLabel, appGuid), (processTypeLabel, processType), (routeGuidLabel, routeGuid)] := by
  have ne_app : routeGuidLabel ≠ appGuidLabel := by decide
  have ne_process : routeGuidLabel ≠ processTypeLabel := by decide
  have ascending : [appGuidLabel, processTypeLabel, routeGuidLabel].Pairwise (· < ·) := by decide
  have reordered : (((∅ : TextMap).insert routeGuidLabel routeGuid).insert appGuidLabel
      appGuid).insert processTypeLabel processType = SortedMap.ofList [
        (appGuidLabel, appGuid), (processTypeLabel, processType), (routeGuidLabel, routeGuid)] := by
    rw [SortedMap.insert_comm _ _ _ ne_app, SortedMap.insert_comm _ _ _ ne_process]
    rfl
  rw [reordered]
  exact SortedMap.entries_ofList (List.pairwise_map.1 ascending)

theorem isFor_of_serviceFor_eq_ok {service : Service}
    (compiled : serviceFor route destination = .ok service) :
    service.IsFor route destination := by
  obtain ⟨port, usable, done⟩ := bind_eq_ok_iff.1 compiled
  obtain ⟨port_eq, not_zero⟩ := usablePort_eq_ok_iff.1 usable
  cases done
  exact ⟨⟨rfl, rfl⟩, rfl, rfl, entries_labels _ _ _, rfl, rfl, port, port_eq, not_zero,
    rfl⟩

theorem isFor_of_skippedFor?_eq_some {skipped : SkippedDestination}
    (found : skippedFor? route destination = some skipped) : skipped.IsFor route destination := by
  unfold skippedFor? at found
  split at found
  · cases found
  · next reason failed =>
    cases found
    rcases bind_eq_error_iff.1 failed with unusable | ⟨port, _, done⟩
    · rcases usablePort_eq_error_iff.1 unusable with ⟨missing, rfl⟩ | ⟨zero, rfl⟩
      · exact .missing missing
      · exact .zero zero
    · cases done

theorem SkippedDestination.IsFor.destination_eq {skipped : SkippedDestination}
    (is_for : skipped.IsFor route destination) :
    skipped.destination = destination.guid := by
  cases is_for <;> rfl

theorem hasPort_iff_toOption :
    destination.HasPort ↔ ∃ service, (serviceFor route destination).toOption = some service := by
  simp only [toOption_eq_some_iff]
  exact exists_serviceFor_eq_ok_iff.symm

theorem not_hasPort_iff_skippedFor? :
    ¬destination.HasPort ↔ ∃ skipped, skippedFor? route destination = some skipped := by
  rw [← @exists_serviceFor_eq_ok_iff route destination]
  unfold skippedFor?
  cases serviceFor route destination with
  | ok service => simp
  | error reason => simp

theorem serviceFor_unweighted :
    serviceFor route.unweighted destination.unweighted = serviceFor route destination := rfl

theorem skippedFor?_unweighted :
    skippedFor? route.unweighted destination.unweighted = skippedFor? route destination := rfl

/-! ## All destinations -/

theorem mem_destinationsOf :
    (route, destination) ∈ destinationsOf routes ↔
      route ∈ routes ∧ destination ∈ route.destinations := by
  simp [destinationsOf]

theorem services_build (routes : List Route) : (Endpoints.build routes).services =
    (destinationsOf routes).filterMap fun (route, destination) =>
      (serviceFor route destination).toOption := by
  simp only [Endpoints.build, Endpoints.outcomes, destinationsOf, List.filterMap_flatMap,
    List.filterMap_map]
  rfl

theorem skipped_build (routes : List Route) : (Endpoints.build routes).skipped =
    (destinationsOf routes).filterMap fun (route, destination) =>
      skippedFor? route destination := by
  simp only [Endpoints.build, Endpoints.outcomes, destinationsOf, List.filterMap_flatMap,
    List.filterMap_map]
  rfl

theorem destinationsOf_unweighted (routes : List Route) :
    destinationsOf (routes.map Route.unweighted) = (destinationsOf routes).map
      fun (route, destination) => (route.unweighted, destination.unweighted) := by
  simp only [destinationsOf, List.flatMap_map, List.map_flatMap, List.map_map]
  refine List.flatMap_congr fun route _ => ?_
  rw [Route.unweighted, List.map_map]
  rfl

/-- The endpoints of routes are those of the routes without weights and visibility. -/
theorem build_unweighted (routes : List Route) :
    Endpoints.build (routes.map Route.unweighted) = Endpoints.build routes := by
  have services : (Endpoints.build (routes.map Route.unweighted)).services =
      (Endpoints.build routes).services := by
    rw [services_build, services_build, destinationsOf_unweighted, List.filterMap_map]
    exact List.filterMap_congr fun _ _ => congrArg Except.toOption serviceFor_unweighted
  have skipped : (Endpoints.build (routes.map Route.unweighted)).skipped =
      (Endpoints.build routes).skipped := by
    rw [skipped_build, skipped_build, destinationsOf_unweighted, List.filterMap_map]
    exact List.filterMap_congr fun _ _ => skippedFor?_unweighted
  exact (Endpoints.mk.injEq _ _ _ _).mpr ⟨services, skipped⟩

theorem build_accountFor (routes : List Route) :
    (Endpoints.build routes).AccountFor routes := by
  constructor
  · rw [services_build]
    refine (forall₂_filter_filterMap (fun _ => ?_) _).imp fun _ _ found => ?_
    · rw [decide_eq_true_iff]
      exact hasPort_iff_toOption
    · exact isFor_of_serviceFor_eq_ok (toOption_eq_some_iff.1 found)
  · rw [skipped_build]
    refine (forall₂_filter_filterMap (fun _ => ?_) _).imp fun _ _ found => ?_
    · rw [decide_eq_true_iff]
      exact not_hasPort_iff_skippedFor?
    · exact isFor_of_skippedFor?_eq_some found

/-- Each destination has one service or is skipped once, and which of the two does not depend on
anything but the destination and its route. -/
theorem endpoints_account_for_destinations (routes : List Route) :
    (Endpoints.build routes).AccountFor routes ∧ EndpointsAreLocal routes := by
  refine ⟨build_accountFor routes, services_build_eq_flatMap routes,
    skipped_build_eq_flatMap routes, fun others same => ?_⟩
  rw [← build_unweighted others, same, build_unweighted]

end MeshRoutes
