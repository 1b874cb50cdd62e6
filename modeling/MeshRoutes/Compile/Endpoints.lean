import MeshRoutes.Compile.Reason
import MeshRoutes.Mesh.Name
import MeshRoutes.Mesh.Service
import MeshRoutes.Route.Basic

/-!
# Endpoints

Every destination with a usable port gets one service. A destination without one is skipped alone.

## Main definitions

* `serviceFor`: the service of a destination.
* `Endpoints.build`: the services of a list of routes, and the destinations skipped.
-/

namespace MeshRoutes

/-- The name of the port of a service. -/
def httpPortName : String := "http"

/-- The guid of a destination without a service. -/
structure SkippedDestination where
  destination : String
  reason : Reason
deriving DecidableEq, Repr

/-- The services of some routes, and the destinations without one, both in the order of the routes
and of their destinations. -/
structure Endpoints where
  services : List Service := []
  skipped : List SkippedDestination := []
deriving DecidableEq, Repr

/-- The port on which a destination is reached. -/
def usablePort (route : Route) (destination : Destination) : Except Reason UInt16 :=
  match destination.port with
  | none => .error (.missingPort route.guid destination.guid)
  | some port =>
    if port = 0 then .error (.invalidPort route.guid destination.guid port) else .ok port

/-- The service of a destination. -/
def serviceFor (route : Route) (destination : Destination) : Except Reason Service := do
  let port ← usablePort route destination
  let metadata : ResourceMetadata :=
    { name := serviceName destination.guid, ns := route.namespaceName }
  return {
    metadata := (((metadata.label routeGuidLabel route.guid).label appGuidLabel
      destination.app.guid).label processTypeLabel destination.app.processType).annotate
      routeFqdnAnnotationKey route.fqdn
    selector := destination.selector
    ports := [{ name := httpPortName, number := port }] }

namespace Endpoints

/-- What becomes of each destination. -/
def outcomes (routes : List Route) : List (Destination × Except Reason Service) :=
  routes.flatMap fun route => route.destinations.map fun destination =>
    (destination, serviceFor route destination)

/-- The services of a list of routes. -/
def build (routes : List Route) : Endpoints :=
  let outcomes := outcomes routes
  { services := outcomes.filterMap fun (_, outcome) => outcome.toOption
    skipped := outcomes.filterMap fun (destination, outcome) =>
      match outcome with
      | .ok _ => none
      | .error reason => some { destination := destination.guid, reason } }

/-- Whether there was no destination. -/
def isEmpty (endpoints : Endpoints) : Bool :=
  endpoints.services.isEmpty && endpoints.skipped.isEmpty

end Endpoints

end MeshRoutes
