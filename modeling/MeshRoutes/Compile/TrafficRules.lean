import MeshRoutes.Mesh.Name
import MeshRoutes.Mesh.VirtualService
import MeshRoutes.Route.Index
import MeshRoutes.Route.Order
import MeshRoutes.Route.Weights

/-!
# Traffic rules

Every domain name that has a destination gets one virtual service, made from all its routes. When
they disagree, or the weights of one do not add up, the domain name is skipped as a whole and no
other is touched.

## Main definitions

* `agreement`: whether the routes of a domain name can be served together.
* `httpRule`: the rule of a route.
* `virtualServiceFor`: the virtual service of a domain name.
* `TrafficRules.build`: the virtual services of a list of routes, and the domain names skipped.
-/

namespace MeshRoutes

/-- The gateway that stands for the inside of the mesh. -/
def meshGateway : String := "mesh"

/-- A domain name without a virtual service. -/
structure SkippedFqdn where
  fqdn : String
  reason : Reason
deriving DecidableEq, Repr

/-- The virtual services of some routes, and the domain names without one, both ascending by domain
name. -/
structure TrafficRules where
  virtualServices : List VirtualService := []
  skipped : List SkippedFqdn := []
deriving DecidableEq, Repr

/-- Checks that routes of a domain name agree with the first one, on the visibility of the domain
before all, then on the namespace. -/
def agreement (fqdn : String) (first : Route) (others : List Route) : Except Reason Unit :=
  match others.find? fun route => route.domain.internal != first.domain.internal with
  | some other => .error (.domainMismatch fqdn first.guid other.guid)
  | none =>
    match others.find? fun route => route.namespaceName != first.namespaceName with
    | some other => .error
        (.namespaceMismatch fqdn first.guid first.namespaceName other.guid other.namespaceName)
    | none => .ok ()

/-- The headers that tell a backend for whom it answers. -/
def backendHeaders (route : Route) (destination : Destination) : TextMap :=
  SortedMap.ofList [
    ("CF-App-Id", destination.app.guid),
    ("CF-App-Process-Type", destination.app.processType),
    ("CF-Space-Id", route.spaceGuid),
    ("CF-Organization-Id", route.orgGuid)]

/-- The backend of a destination with the given share. -/
def backend (route : Route) (destination : Destination) (weight : UInt32) : Backend where
  host := serviceName destination.guid
  headers := backendHeaders route destination
  weight := weight

/-- The rule of a route: requests for its path are shared among its destinations. -/
def httpRule (route : Route) : Except Reason HttpRule := do
  let weights ← resolveWeights route.guid route.destinations
  return {
    prefixes := if route.path = "" then [] else [route.path]
    backends := List.zipWith (backend route) route.destinations weights }

/-- The gateways of a domain name. An internal one is reachable from inside the mesh only. -/
def gatewaysFor (gateways : List String) (first : Route) : List String :=
  if first.domain.internal then [meshGateway] else gateways

/-- The virtual service of a domain name with the given routes. -/
def virtualServiceFor (gateways : List String) (fqdn : String) (first : Route)
    (others : List Route) : Except Reason VirtualService := do
  agreement fqdn first others
  let ordered := (first :: others).mergeSort Route.urlLe
  let http ← (ordered.filter Route.hasDestinations).mapM httpRule
  return {
    metadata := ResourceMetadata.annotate
      { name := virtualServiceName fqdn, ns := first.namespaceName } fqdnAnnotationKey fqdn
    hosts := [fqdn]
    gateways := gatewaysFor gateways first
    http }

namespace TrafficRules

/-- What becomes of a domain name and its routes; nothing, if none has a destination. -/
def outcome? (gateways : List String) (fqdn : String) :
    List Route → Option (Except Reason VirtualService)
  | [] => none
  | first :: others =>
    if (first :: others).any Route.hasDestinations then
      some (virtualServiceFor gateways fqdn first others)
    else none

/-- What becomes of each domain name that has a destination, ascending by domain name. -/
def outcomes (gateways : List String) (routes : List Route) :
    List (String × Except Reason VirtualService) :=
  (RouteIndex.ofRoutes routes).entries.filterMap fun (fqdn, group) =>
    (outcome? gateways fqdn group).map (fqdn, ·)

/-- The virtual services of a list of routes. -/
def build (gateways : List String) (routes : List Route) : TrafficRules :=
  let outcomes := outcomes gateways routes
  { virtualServices := outcomes.filterMap fun (_, outcome) => outcome.toOption
    skipped := outcomes.filterMap fun (fqdn, outcome) =>
      match outcome with
      | .ok _ => none
      | .error reason => some { fqdn, reason } }

/-- Whether no domain name had a destination. -/
def isEmpty (rules : TrafficRules) : Bool := rules.virtualServices.isEmpty && rules.skipped.isEmpty

end TrafficRules

end MeshRoutes
