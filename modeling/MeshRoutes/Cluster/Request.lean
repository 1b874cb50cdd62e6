import MeshRoutes.Cluster.Client
import MeshRoutes.Mesh.ApiResource
import MeshRoutes.Route.Manifest

/-!
# Requests to the API server

The requests that a client sends for the calls of a pass.

## Main definitions

* `ApiRequest`: the requests; `ApiRequest.line` is the method with the path and the query.
* `ApiRequest.isSendable`: whether the path can be sent.
* `ApiReply`: a status with a document.
-/

namespace MeshRoutes

/-- The name under which the program applies resources. -/
def fieldManager : String := "routecontroller"

/-- A request to the API server. Lists are over all namespaces, and services are listed only if they
are labelled with a route. -/
inductive ApiRequest where
  | listRoutes
  | list (kind : ResourceKind)
  | apply (kind : ResourceKind) (key : ObjectKey) (doc : Json)
  | delete (kind : ResourceKind) (key : ObjectKey)
deriving Repr

namespace ResourceKind

/-- The API resource of a kind. -/
def resource : ResourceKind → ApiResource
  | virtualService => virtualServiceResource
  | service => serviceResource

/-- The words with which calls name a kind, in the singular. -/
def singular : ResourceKind → String
  | virtualService => "virtual_service"
  | service => "service"

/-- The document of a kind that holds the domain name it belongs to, under this annotation. -/
def annotationKey : ResourceKind → String
  | virtualService => fqdnAnnotationKey
  | service => routeFqdnAnnotationKey

end ResourceKind

namespace ApiResource

/-- The path below which the server keeps the objects of a version. -/
def root (resource : ApiResource) : String :=
  if resource.group.isEmpty then "/api/" ++ resource.version
  else "/apis/" ++ resource.group ++ "/" ++ resource.version

/-- The path of the objects of all namespaces. -/
def path (resource : ApiResource) : String := resource.root ++ "/" ++ resource.plural

/-- The path of an object. -/
def objectPath (resource : ApiResource) (key : ObjectKey) : String :=
  resource.root ++ "/namespaces/" ++ key.ns ++ "/" ++ resource.plural ++ "/" ++ key.name

end ApiResource

namespace ApiRequest

/-- The name of the call that sends the request. -/
def name : ApiRequest → String
  | listRoutes => "list_routes"
  | list kind => "list_" ++ kind.singular ++ "s"
  | apply kind _ _ => "apply_" ++ kind.singular
  | delete kind _ => "delete_" ++ kind.singular

/-- The key of the resource that the request is for. -/
def key? : ApiRequest → Option ObjectKey
  | apply _ key _ => some key
  | delete _ key => some key
  | _ => none

/-- The method, the path and the query. Names are not escaped in the path. -/
def line : ApiRequest → String
  | listRoutes => "GET " ++ (ApiResource.of routeApiVersion routeKind).path ++ "?"
  | list .virtualService => "GET " ++ virtualServiceResource.path ++ "?"
  | list .service =>
    "GET " ++ serviceResource.path ++ "?&labelSelector=cloudfoundry.org%2Froute_guid"
  | apply kind key _ =>
    "PATCH " ++ kind.resource.objectPath key ++ "?&force=true&fieldManager=" ++ fieldManager
  | delete kind key => "DELETE " ++ kind.resource.objectPath key ++ "?"

/-- Whether a character may stand in a path: a visible one that is no angle bracket or backtick. -/
def isPathChar (c : Char) : Bool :=
  0x20 < c.toNat && c != '<' && c != '>' && c.toNat != 0x60

/-- Whether the request can be sent. What has no name cannot be removed. -/
def isSendable (request : ApiRequest) : Bool :=
  match request with
  | delete _ key => !key.name.isEmpty && (key.ns ++ key.name).toList.all isPathChar
  | apply _ key _ => (key.ns ++ key.name).toList.all isPathChar
  | _ => true

end ApiRequest

/-- A reply of the API server: its status, and its document if there is a readable one. -/
structure ApiReply where
  status : UInt16
  doc : Option Json
deriving Repr

/-- The document of a reply without an object. -/
def statusDocument (code : UInt16) : Json :=
  let status := if code < 400 then "Success" else "Failure"
  .obj [("apiVersion", .str "v1"), ("kind", .str "Status"), ("status", .str status),
    ("code", .int code.toNat)]

end MeshRoutes
