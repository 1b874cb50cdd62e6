import MeshRoutes.Digest.Sha256

/-!
# Names of mesh resources

A virtual service is named after the digest of the domain name it serves, for a domain name may
be longer than a name or hold characters that a name must not. A service is named after the guid
of the destination it stands for.
-/

namespace MeshRoutes

/-- The name of the virtual service that serves a domain name. -/
def virtualServiceName (fqdn : String) : String := "vs-" ++ Sha256.hex fqdn

/-- The name of the service that stands for a destination. -/
def serviceName (destinationGuid : String) : String := "s-" ++ destinationGuid

end MeshRoutes
