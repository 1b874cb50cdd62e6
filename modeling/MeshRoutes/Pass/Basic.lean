import MeshRoutes.Pass.Prune

/-!
# Passes

A pass brings a cluster in step with its routes. It always covers all routes, because a virtual
service is made from all routes of a domain name. Services are stored before the virtual services
that refer to them and removed after them.

## Main definitions

* `PassSummary`: what a pass did.
* `runPass`: a pass; the first call that fails ends it.
-/

namespace MeshRoutes

/-- What a pass did: how many routes it found, how many resources of each kind it stored and
removed, and how many domain names and destinations it left as they were. -/
structure PassSummary where
  routes : Nat
  appliedVirtualServices : Nat
  appliedServices : Nat
  prunedVirtualServices : Nat
  prunedServices : Nat
  skippedFqdns : Nat
  skippedDestinations : Nat
deriving DecidableEq, Repr

namespace Compiled

/-- The storing of the services. -/
def serviceWrites (compiled : Compiled) : List ClusterWrite :=
  compiled.services.map .applyService

/-- The storing of the virtual services. -/
def virtualServiceWrites (compiled : Compiled) : List ClusterWrite :=
  compiled.virtualServices.map .applyVirtualService

end Compiled

/-- What a pass did that listed the given number of routes. -/
def PassSummary.of (routes : Nat) (compiled : Compiled) (plan : PrunePlan) : PassSummary where
  routes := routes
  appliedVirtualServices := compiled.virtualServices.length
  appliedServices := compiled.services.length
  prunedVirtualServices := plan.virtualServices.length
  prunedServices := plan.services.length
  skippedFqdns := compiled.skippedFqdns.length
  skippedDestinations := compiled.skippedDestinations.length

/-- A pass over a cluster. -/
def runPass {m : Type → Type} [Monad m] (client : ClusterClient m) (gateways : List String) :
    m PassSummary := do
  let routes ← client.listRoutes
  let compiled := compile gateways routes
  client.writeAll compiled.serviceWrites
  client.writeAll compiled.virtualServiceWrites
  let virtualServices ← client.listManaged .virtualService
  let services ← client.listManaged .service
  let plan := PrunePlan.of compiled virtualServices services
  client.writeAll plan.virtualServiceWrites
  client.writeAll plan.serviceWrites
  return PassSummary.of routes.length compiled plan

end MeshRoutes
