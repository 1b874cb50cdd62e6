import MeshRoutes.Proofs.Compile.Reordering
import MeshRoutes.Proofs.Route.Documents

/-!
# What compilation looks at

Of a route, compilation looks at the intent, and of its metadata at the name and the stem of one,
the namespace and the labels. A change of routes in anything else does not show in what is compiled.

* `Route.KeepsRelevant`: whether a change of routes leaves alone what is looked at.
* `compile_map`: what is compiled of changed routes.
-/

namespace MeshRoutes

/-- Whether a change of routes leaves alone what compilation looks at. -/
structure Route.KeepsRelevant (change : Route → Route) : Prop where
  host : ∀ route, (change route).host = route.host
  path : ∀ route, (change route).path = route.path
  url : ∀ route, (change route).url = route.url
  domain : ∀ route, (change route).domain = route.domain
  destinations : ∀ route, (change route).destinations = route.destinations
  name : ∀ route, (change route).metadata.name = route.metadata.name
  generateName : ∀ route, (change route).metadata.generateName = route.metadata.generateName
  ns : ∀ route, (change route).metadata.ns = route.metadata.ns
  labels : ∀ route, (change route).metadata.labels = route.metadata.labels

namespace Route.KeepsRelevant

variable {change : Route → Route} (keeps : KeepsRelevant change)

include keeps

/-! ## One route -/

theorem fqdn (route : Route) : (change route).fqdn = route.fqdn := by
  unfold Route.fqdn
  rw [keeps.host, keeps.domain]

theorem guid (route : Route) : (change route).guid = route.guid := by
  rw [Route.guid_eq, Route.guid_eq, keeps.name, keeps.generateName]

theorem namespaceName (route : Route) : (change route).namespaceName = route.namespaceName := by
  rw [Route.namespaceName_eq, Route.namespaceName_eq, keeps.ns]

theorem hasDestinations (route : Route) :
    (change route).hasDestinations = route.hasDestinations := by
  unfold Route.hasDestinations
  rw [keeps.destinations]

theorem canonicalLe (a b : Route) :
    Route.canonicalLe a b = Route.canonicalLe (change a) (change b) := by
  unfold Route.canonicalLe
  rw [keeps.namespaceName, keeps.namespaceName, keeps.name, keeps.name]

theorem urlLe (a b : Route) : Route.urlLe a b = Route.urlLe (change a) (change b) := by
  unfold Route.urlLe
  rw [keeps.url, keeps.url, keeps.name, keeps.name]

theorem serviceFor (route : Route) (destination : Destination) :
    MeshRoutes.serviceFor (change route) destination =
      MeshRoutes.serviceFor route destination := by
  unfold MeshRoutes.serviceFor usablePort
  rw [keeps.guid, keeps.namespaceName, keeps.fqdn]

theorem backend (route : Route) (destination : Destination) (weight : UInt32) :
    MeshRoutes.backend (change route) destination weight =
      MeshRoutes.backend route destination weight := by
  unfold MeshRoutes.backend backendHeaders
  simp only [Route.spaceGuid_eq, Route.orgGuid_eq, keeps.labels]

theorem httpRule (route : Route) :
    MeshRoutes.httpRule (change route) = MeshRoutes.httpRule route := by
  have backends : MeshRoutes.backend (change route) = MeshRoutes.backend route :=
    funext fun destination => funext fun weight => keeps.backend route destination weight
  unfold MeshRoutes.httpRule
  rw [keeps.guid, keeps.path, keeps.destinations, backends]

/-! ## Lists of routes -/

theorem agreement (fqdn : String) (first : Route) (others : List Route) :
    MeshRoutes.agreement fqdn (change first) (others.map change) =
      MeshRoutes.agreement fqdn first others := by
  unfold MeshRoutes.agreement
  simp only [List.find?_map, Function.comp_def, keeps.domain, keeps.namespaceName, keeps.guid]
  cases others.find? fun route => route.domain.internal != first.domain.internal with
  | some other => simp only [Option.map_some, keeps.guid]
  | none =>
    cases others.find? fun route => route.namespaceName != first.namespaceName with
    | some other => simp only [Option.map_some, Option.map_none, keeps.guid, keeps.namespaceName]
    | none => rfl

theorem virtualServiceFor (gateways : List String) (fqdn : String) (first : Route)
    (others : List Route) :
    MeshRoutes.virtualServiceFor gateways fqdn (change first) (others.map change) =
      MeshRoutes.virtualServiceFor gateways fqdn first others := by
  have ordered : (change first :: others.map change).mergeSort Route.urlLe =
      ((first :: others).mergeSort Route.urlLe).map change := by
    rw [← List.map_cons]
    exact (List.map_mergeSort fun a _ b _ => keeps.urlLe a b).symm
  have rules : (((first :: others).mergeSort Route.urlLe).map change).filter
      Route.hasDestinations =
        (((first :: others).mergeSort Route.urlLe).filter Route.hasDestinations).map change := by
    rw [List.filter_map]
    exact congrArg (List.map change) (List.filter_congr fun route _ => keeps.hasDestinations route)
  unfold MeshRoutes.virtualServiceFor gatewaysFor
  simp only [keeps.agreement, ordered, rules, List.mapM_map, Function.comp_def, keeps.httpRule,
    keeps.namespaceName, keeps.domain]

theorem outcome? (gateways : List String) (fqdn : String) (routes : List Route) :
    TrafficRules.outcome? gateways fqdn (routes.map change) =
      TrafficRules.outcome? gateways fqdn routes := by
  cases routes with
  | nil => rfl
  | cons first others =>
    have some_eq : (change first :: others.map change).any Route.hasDestinations =
        (first :: others).any Route.hasDestinations := by
      rw [← List.map_cons, List.any_map]
      exact congrArg (List.any _) (funext keeps.hasDestinations)
    rw [List.map_cons, TrafficRules.outcome?, TrafficRules.outcome?, some_eq,
      keeps.virtualServiceFor]

theorem routesServing (fqdn : String) (routes : List Route) :
    MeshRoutes.routesServing fqdn (routes.map change) =
      (MeshRoutes.routesServing fqdn routes).map change := by
  unfold MeshRoutes.routesServing
  rw [List.filter_map]
  simp only [Function.comp_def, keeps.fqdn]

theorem fqdns (routes : List Route) :
    (RouteIndex.ofRoutes (routes.map change)).fqdns = (RouteIndex.ofRoutes routes).fqdns := by
  refine RouteIndex.fqdns_eq_of_mem_iff fun fqdn => ?_
  simp only [List.mem_map, exists_exists_and_eq_and, keeps.fqdn]

theorem trafficRules (gateways : List String) (routes : List Route) :
    TrafficRules.build gateways (routes.map change) = TrafficRules.build gateways routes := by
  have outcomes : TrafficRules.outcomes gateways (routes.map change) =
      TrafficRules.outcomes gateways routes := by
    rw [outcomes_eq_filterMap_fqdns, outcomes_eq_filterMap_fqdns, keeps.fqdns]
    simp only [keeps.routesServing, keeps.outcome?]
  unfold TrafficRules.build
  rw [outcomes]

theorem endpoints (routes : List Route) :
    Endpoints.build (routes.map change) = Endpoints.build routes := by
  have outcomes : Endpoints.outcomes (routes.map change) = Endpoints.outcomes routes := by
    unfold Endpoints.outcomes
    simp only [List.flatMap_map, keeps.destinations, keeps.serviceFor]
  unfold Endpoints.build
  rw [outcomes]

end Route.KeepsRelevant

/-- What is compiled of changed routes is what is compiled of the routes, when the change leaves
alone what is looked at. -/
theorem compile_map {change : Route → Route} (keeps : Route.KeepsRelevant change)
    (gateways : List String) (routes : List Route) :
    compile gateways (routes.map change) = compile gateways routes := by
  have ordered : (routes.map change).mergeSort Route.canonicalLe =
      (routes.mergeSort Route.canonicalLe).map change :=
    (List.map_mergeSort fun a _ b _ => keeps.canonicalLe a b).symm
  unfold compile
  simp only [ordered, keeps.trafficRules, keeps.endpoints]

/-- Fractions of seconds do not matter. -/
theorem Route.keepsRelevant_inWholeSeconds : Route.KeepsRelevant Route.inWholeSeconds := by
  constructor <;> exact fun _ => rfl

end MeshRoutes
