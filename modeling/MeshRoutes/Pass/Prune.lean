import MeshRoutes.Cluster.Client
import MeshRoutes.Compile.Basic

/-!
# What to remove

A resource that an earlier pass made is stale when the present routes do not compile to it. What
belongs to a skipped domain name or destination is kept, so that an invalid change of a route does
not take away what worked before.

## Main definitions

* `PrunePlan.of`: the stale resources.
* `PrunePlan.writes`: their removal.
-/

namespace MeshRoutes

/-- The resources to remove, in order. -/
structure PrunePlan where
  virtualServices : List ManagedResource := []
  services : List ManagedResource := []
deriving DecidableEq, Repr

namespace PrunePlan

/-- Whether a managed virtual service is stale. -/
def isStaleVirtualService (compiled : Compiled) (resource : ManagedResource) : Bool :=
  !(compiled.virtualServices.map (·.metadata.key)).contains resource.key &&
    !(compiled.skippedFqdns.map (·.fqdn)).contains resource.fqdn

/-- Whether a managed service is stale. -/
def isStaleService (compiled : Compiled) (resource : ManagedResource) : Bool :=
  !(compiled.services.map (·.metadata.key)).contains resource.key &&
    !(compiled.skippedDestinations.map fun s => serviceName s.destination).contains
      resource.name &&
    !(compiled.skippedFqdns.map (·.fqdn)).contains resource.fqdn

/-- The stale ones among the managed resources. -/
def of (compiled : Compiled) (virtualServices services : List ManagedResource) : PrunePlan where
  virtualServices :=
    (virtualServices.filter (isStaleVirtualService compiled)).mergeSort ManagedResource.le
  services := (services.filter (isStaleService compiled)).mergeSort ManagedResource.le

/-- Whether nothing is stale. -/
def isEmpty (plan : PrunePlan) : Bool := plan.virtualServices.isEmpty && plan.services.isEmpty

/-- The removal of the virtual services. -/
def virtualServiceWrites (plan : PrunePlan) : List ClusterWrite :=
  plan.virtualServices.map fun resource => .deleteVirtualService resource.key

/-- The removal of the services. -/
def serviceWrites (plan : PrunePlan) : List ClusterWrite :=
  plan.services.map fun resource => .deleteService resource.key

end PrunePlan

end MeshRoutes
