import MeshRoutes.Compile.Endpoints
import MeshRoutes.Compile.TrafficRules

/-!
# Compilation

The resources of a list of routes. Routes are put in order first, so that the order in which they
are listed does not show in the result.

## Main definitions

* `Compiled`: the resources, and what was skipped.
* `compile`: the resources of a list of routes.
-/

namespace MeshRoutes

/-- The resources of some routes. Virtual services and the domain names without one ascend by domain
name; services and the destinations without one come in the order of the routes and of their
destinations. -/
structure Compiled where
  virtualServices : List VirtualService := []
  services : List Service := []
  skippedFqdns : List SkippedFqdn := []
  skippedDestinations : List SkippedDestination := []
deriving DecidableEq, Repr

/-- The resources of a list of routes, whose external domains are reached through the given
gateways. -/
def compile (gateways : List String) (routes : List Route) : Compiled :=
  let ordered := routes.mergeSort Route.canonicalLe
  let rules := TrafficRules.build gateways ordered
  let endpoints := Endpoints.build ordered
  { virtualServices := rules.virtualServices
    services := endpoints.services
    skippedFqdns := rules.skipped
    skippedDestinations := endpoints.skipped }

namespace Compiled

/-- The number of resources. -/
def resourceCount (compiled : Compiled) : Nat :=
  compiled.virtualServices.length + compiled.services.length

/-- Whether there is no resource. -/
def isEmpty (compiled : Compiled) : Bool := compiled.resourceCount == 0

/-- Whether a domain name or a destination was skipped. -/
def hasSkipped (compiled : Compiled) : Bool :=
  !compiled.skippedFqdns.isEmpty || !compiled.skippedDestinations.isEmpty

end Compiled

end MeshRoutes
