import MeshRoutes.Cluster.Managed
import MeshRoutes.Mesh.Service
import MeshRoutes.Mesh.VirtualService
import MeshRoutes.Route.Basic

/-!
# Clients of a cluster

What a pass asks of a cluster, and nothing more.

## Main definitions

* `ClusterWrite`: a change of the cluster.
* `ClusterClient`: the calls of a pass, in any monad.
-/

namespace MeshRoutes

/-- The kinds of resources that passes make. -/
inductive ResourceKind where
  | virtualService
  | service
deriving DecidableEq, Repr

/-- A change of the cluster: storing a resource in place of an earlier one with its key, or removing
the one with a key. -/
inductive ClusterWrite where
  | applyService (service : Service)
  | applyVirtualService (resource : VirtualService)
  | deleteVirtualService (key : ObjectKey)
  | deleteService (key : ObjectKey)
deriving DecidableEq, Repr

/-- The place of a resource with the given metadata. -/
def ResourceMetadata.key (metadata : ResourceMetadata) : ObjectKey := ⟨metadata.ns, metadata.name⟩

namespace ClusterWrite

/-- The key of the resource that is changed. -/
def key : ClusterWrite → ObjectKey
  | applyService service => service.metadata.key
  | applyVirtualService resource => resource.metadata.key
  | deleteVirtualService key => key
  | deleteService key => key

/-- The name of the call. -/
def name : ClusterWrite → String
  | applyService _ => "apply_service"
  | applyVirtualService _ => "apply_virtual_service"
  | deleteVirtualService _ => "delete_virtual_service"
  | deleteService _ => "delete_service"

end ClusterWrite

/-- The calls of a pass. Lists are over all namespaces. None of the changes that are made together
waits for another, and removing what is not there is not a failure. -/
structure ClusterClient (m : Type → Type) where
  listRoutes : m (List Route)
  listManaged : ResourceKind → m (List ManagedResource)
  writeAll : List ClusterWrite → m Unit

end MeshRoutes
