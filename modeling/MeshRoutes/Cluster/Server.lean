import MeshRoutes.Cluster.Fault
import MeshRoutes.Cluster.Request

/-!
# API servers

A server keeps objects under their keys, stores what is applied and lists what it keeps. It can be
told to answer some requests otherwise, without doing what they ask for.

## Main definitions

* `ApiServer`: the objects of a server, with `put`, `delete`, `seed` and `unseed`.
* `ApiServer.handle`: the reply to a request, and the server after it.
-/

namespace MeshRoutes

/-- The objects that a server keeps, with those meant as routes in the order in which they were put,
the replies that some requests get instead, and the requests that were sent. -/
structure ApiServer where
  routes : List Json := []
  virtualServices : SortedMap ObjectKey Json := ∅
  services : SortedMap ObjectKey Json := ∅
  faults : List (Fault ApiReply) := []
  requests : List String := []
deriving Repr

/-- The key that an object gives itself. -/
def Json.objectKey (doc : Json) : ObjectKey :=
  let text (name : String) : String :=
    (((doc.field? "metadata").bind (Json.field? name)).bind Json.str?).getD ""
  ⟨text "namespace", text "name"⟩

/-- Whether an object carries a label. -/
def Json.hasLabel (doc : Json) (label : String) : Bool :=
  (((doc.field? "metadata").bind (Json.field? "labels")).bind (Json.field? label)).isSome

namespace ApiServer

/-! ## Changes by others -/

/-- The objects with one more, in place of an earlier one with its key. -/
def putObject (doc : Json) : List Json → List Json
  | [] => [doc]
  | earlier :: docs =>
    if earlier.objectKey = doc.objectKey then doc :: docs else earlier :: putObject doc docs

/-- The server with more routes. -/
def put (server : ApiServer) (docs : List Json) : ApiServer :=
  { server with routes := docs.foldl (fun routes doc => putObject doc routes) server.routes }

/-- The server without the route with a key. -/
def delete (server : ApiServer) (key : ObjectKey) : ApiServer :=
  { server with routes := server.routes.filter (·.objectKey ≠ key) }

/-- The map with more objects. -/
def seedMap (map : SortedMap ObjectKey Json) (docs : List Json) : SortedMap ObjectKey Json :=
  docs.foldl (fun map doc => map.insert doc.objectKey doc) map

/-- The server with more resources. -/
def seed (server : ApiServer) (virtualServices services : List Json) : ApiServer :=
  { server with
    virtualServices := seedMap server.virtualServices virtualServices
    services := seedMap server.services services }

/-- The server without the resources with a key. -/
def unseed (server : ApiServer) (key : ObjectKey) : ApiServer :=
  { server with
    virtualServices := server.virtualServices.erase key
    services := server.services.erase key }

/-! ## Requests -/

/-- The resources of a kind. -/
def resources (server : ApiServer) : ResourceKind → SortedMap ObjectKey Json
  | .virtualService => server.virtualServices
  | .service => server.services

/-- The server with other resources of a kind. -/
def withResources (server : ApiServer) (kind : ResourceKind) (map : SortedMap ObjectKey Json) :
    ApiServer :=
  match kind with
  | .virtualService => { server with virtualServices := map }
  | .service => { server with services := map }

/-- The document of a list. -/
def listDocument (items : List Json) : Json := .obj [("items", .arr items)]

/-- The reply to a request that is done as asked, and the server after it. -/
def perform (server : ApiServer) : ApiRequest → ApiReply × ApiServer
  | .listRoutes => (⟨200, some (listDocument server.routes)⟩, server)
  | .list .virtualService => (⟨200, some (listDocument server.virtualServices.values)⟩, server)
  | .list .service =>
    (⟨200, some (listDocument (server.services.values.filter (·.hasLabel routeGuidLabel)))⟩, server)
  | .apply kind key doc =>
    (⟨200, some doc⟩, server.withResources kind ((server.resources kind).insert key doc))
  | .delete kind key =>
    if (server.resources kind).contains key then
      (⟨200, some (statusDocument 200)⟩,
        server.withResources kind ((server.resources kind).erase key))
    else (⟨404, some (statusDocument 404)⟩, server)

/-- The reply to a request, and the server after it. A request with a fault changes nothing. -/
def handle (server : ApiServer) (request : ApiRequest) : ApiReply × ApiServer :=
  let (fault, faults) := Fault.take request.name (request.key?.map (·.name)) server.faults
  let server := { server with faults, requests := server.requests ++ [request.line] }
  match fault with
  | some reply => (reply, server)
  | none => server.perform request

end ApiServer

end MeshRoutes
