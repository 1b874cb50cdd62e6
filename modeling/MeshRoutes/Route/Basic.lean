import MeshRoutes.Object.Metadata

/-!
# Routes

A `Route` is a routing intent: requests for a host under a domain, with a path in front, go to
weighted destinations. Routes are written by someone else; this library only reads them.

## Main definitions

* `Route`, `Destination`, `Domain`, `App`, `Condition`: the intent and its parts.
* `Route.fqdn`: the fully qualified domain name that the route serves.
* `Route.guid`, `Route.namespaceName`, `Route.qualifiedName`, `Route.spaceGuid`, `Route.orgGuid`.
-/

namespace MeshRoutes

/-- The label that holds the guid of a route's space. -/
def spaceGuidLabel : String := "cloudfoundry.org/space_guid"

/-- The label that holds the guid of a route's organization. -/
def orgGuidLabel : String := "cloudfoundry.org/org_guid"

/-- A domain under which routes live, which may be reachable from inside the mesh only. -/
structure Domain where
  name : String
  internal : Bool := false
deriving DecidableEq, Repr

/-- The process of an app that receives traffic. An example of a process type is `web`. -/
structure App where
  guid : String
  processType : String
deriving DecidableEq, Repr

/-- A backend of a route, with its share of the traffic in percent, the port it listens on and the
labels that its pods carry. No other destination has the same guid. -/
structure Destination where
  guid : String
  weight : Option UInt32 := none
  port : Option UInt16 := none
  app : App
  selector : TextMap := ∅
deriving DecidableEq, Repr

/-- An observed condition of a route, which holds or not. -/
structure Condition where
  type : String
  status : Bool
deriving DecidableEq, Repr

/-- A routing intent. The host is the label in front of the domain, empty for the domain itself, and
the URL is host, domain and path as one text. An empty path matches every request. -/
structure Route where
  metadata : Metadata := {}
  host : String := ""
  path : String := ""
  url : String := ""
  domain : Domain
  destinations : List Destination := []
  status : Option (List Condition) := none
deriving DecidableEq, Repr

namespace Route

/-- The fully qualified domain name: the domain, behind the host if there is one. -/
def fqdn (route : Route) : String :=
  if route.host = "" then route.domain.name else route.host ++ "." ++ route.domain.name

/-- The guid of the route, which is the name of the object. -/
def guid (route : Route) : String := route.metadata.anyName

/-- The namespace of the route, empty if it has none. -/
def namespaceName (route : Route) : String := route.metadata.namespaceD

/-- The namespace and the name. -/
def qualifiedName (route : Route) : String := route.namespaceName ++ "/" ++ route.guid

/-- The guid of the space, empty if the route is not labelled with it. -/
def spaceGuid (route : Route) : String := route.metadata.labelD spaceGuidLabel

/-- The guid of the organization, empty if the route is not labelled with it. -/
def orgGuid (route : Route) : String := route.metadata.labelD orgGuidLabel

theorem guid_eq (route : Route) :
    route.guid = route.metadata.name.getD (route.metadata.generateName.getD "") :=
  route.metadata.anyName_eq

theorem namespaceName_eq (route : Route) :
    route.namespaceName = route.metadata.ns.getD "" :=
  route.metadata.namespaceD_eq

theorem spaceGuid_eq (route : Route) : route.spaceGuid =
    (route.metadata.labels.bind (·.get? "cloudfoundry.org/space_guid")).getD "" :=
  route.metadata.labelD_eq spaceGuidLabel

theorem orgGuid_eq (route : Route) : route.orgGuid =
    (route.metadata.labels.bind (·.get? "cloudfoundry.org/org_guid")).getD "" :=
  route.metadata.labelD_eq orgGuidLabel

/-- Whether the route has a backend. -/
def hasDestinations (route : Route) : Bool := !route.destinations.isEmpty

end Route

end MeshRoutes
