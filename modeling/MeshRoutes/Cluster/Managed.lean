import MeshRoutes.Object.Key
import MeshRoutes.Object.Metadata

/-!
# Managed resources

The resources in a cluster that earlier passes made. They are known by an annotation that holds
the domain name they belong to.
-/

namespace MeshRoutes

/-- A resource in a cluster that an earlier pass made, with the domain name that it belongs to. -/
structure ManagedResource where
  ns : String
  name : String
  fqdn : String
deriving DecidableEq, Repr

namespace ManagedResource

/-- The place of the resource among those of its kind. -/
def key (resource : ManagedResource) : ObjectKey := ⟨resource.ns, resource.name⟩

/-- Whether a resource stands at or before another by namespace, name and domain name. -/
def le (a b : ManagedResource) : Bool :=
  decide (a.key < b.key) || (decide (a.key = b.key) && decide (a.fqdn ≤ b.fqdn))

/-- The managed resource that an object with the given metadata is: it has the annotation and a
namespace. -/
def ofMetadata? (annotationKey : String) (metadata : Metadata) : Option ManagedResource := do
  let fqdn ← metadata.annotation? annotationKey
  let ns ← metadata.ns
  return { ns, name := metadata.anyName, fqdn }

end ManagedResource

end MeshRoutes
