import MeshRoutes.Cluster.Server
import MeshRoutes.Failure
import MeshRoutes.Route.Listing

/-!
# Clients of an API server

The calls of a pass as requests to a server, and what the replies to them mean.

## Main definitions

* `ApiReply.document`: the document of a reply, or why the request failed.
* `ApiServer.client`: the client of a server.
-/

namespace MeshRoutes

namespace ApiReply

/-- The status that the document of a failed request gives. -/
def documentCode? (doc : Json) : Option UInt16 := do
  let fields ← Document.record? ["status", "message", "reason", "code"] doc
  let _ ← Document.required fields "status" Document.text?
  let _ ← Document.defaulted fields "message" Document.text? ""
  let _ ← Document.defaulted fields "reason" Document.text? ""
  Document.required fields "code" Document.word16?

/-- The document of a reply. A request has failed when its status says so; the document may give
another status then. A reply without a readable document is a failure too. -/
def document (reply : ApiReply) : Except Failure Json :=
  if 400 ≤ reply.status && reply.status < 600 then
    .error (.cluster (some ((reply.doc.bind documentCode?).getD reply.status)))
  else
    match reply.doc with
    | some doc => .ok doc
    | none => .error (.cluster none)

end ApiReply

/-- What is read from a reply; a reply from which nothing can be read is a failure. -/
def readReply {α : Type} (read : Json → Option α) (reply : ApiReply) : Except Failure α := do
  match read (← reply.document) with
  | some a => return a
  | none => .error (.cluster none)

/-! ## Documents of replies -/

/-- The elements of a list document. -/
def listItems? (doc : Json) : Option (List Json) := do
  let items ← doc.field? "items"
  if items.isNull then return [] else items.arr?

/-- Whether a document is a port of a service. -/
def isServicePort (doc : Json) : Bool :=
  (do
    let fields ← doc.fields?
    let _ ← Document.optional fields "name" Document.text?
    let _ ← Document.optional fields "port" (Document.intWithin? (-2147483648) 2147483647)
    return ()).isSome

/-- Whether a document is what a service says about itself. -/
def isServiceSpec (doc : Json) : Bool :=
  (do
    let fields ← doc.fields?
    let _ ← Document.optional fields "selector" Document.textMap?
    let ports ← Document.optional fields "ports" Document.elements?
    if (ports.getD []).all isServicePort then some () else none).isSome

/-- Whether a field is absent or holds the given text. -/
def isAbsentOr (expected : String) (field : Option Json) : Bool :=
  match field with
  | none => true
  | some value => value.str? == some expected

/-- Reads an object of a kind. The server's own kinds are read more strictly than those that were
added to it. -/
def readObject? (kind : ResourceKind) (doc : Json) : Option ApiObject := do
  let object ← ApiObject.ofJson? doc
  match kind with
  | .virtualService => return object
  | .service =>
    let spec := (doc.field? "spec").getD .null
    if isAbsentOr serviceApiVersion (doc.field? "apiVersion") &&
      isAbsentOr serviceKind (doc.field? "kind") && (spec.isNull || isServiceSpec spec) then
      return object
    else none

/-- The managed resources among listed objects. -/
def managedResources (kind : ResourceKind) (objects : List ApiObject) : List ManagedResource :=
  objects.filterMap fun object => ManagedResource.ofMetadata? kind.annotationKey object.metadata

/-- The managed resources of a kind that a reply lists. -/
def readManaged (kind : ResourceKind) (reply : ApiReply) : Except Failure (List ManagedResource) :=
  (readReply (fun doc => (listItems? doc).bind (List.mapM (readObject? kind))) reply).map
    (managedResources kind)

/-- Whether a document answers the removal of an object: a status, or the object. -/
def isRemoval (kind : ResourceKind) (doc : Json) : Bool :=
  (doc.field? "kind").bind Json.str? == some "Status" || (readObject? kind doc).isSome

/-! ## The client -/

/-- The request for a change. -/
def ClusterWrite.request : ClusterWrite → ApiRequest
  | .applyService service => .apply .service service.metadata.key service.toJson
  | .applyVirtualService resource =>
    .apply .virtualService resource.metadata.key resource.toJson
  | .deleteVirtualService key => .delete .virtualService key
  | .deleteService key => .delete .service key

/-- The success of a removal. What is not there does not have to be removed. -/
def removal : Except Failure Unit → Except Failure Unit
  | .error (.cluster (some 404)) => .ok ()
  | result => result

/-- Whether a change was made, by the reply to its request. -/
def ClusterWrite.success (change : ClusterWrite) (reply : ApiReply) : Except Failure Unit :=
  let object (kind : ResourceKind) : Except Failure Unit :=
    (readReply (readObject? kind) reply).map fun _ => ()
  let removed (kind : ResourceKind) : Except Failure Unit :=
    removal (readReply (fun doc => if isRemoval kind doc then some () else none) reply)
  match change with
  | .applyService _ => object .service
  | .applyVirtualService _ => object .virtualService
  | .deleteVirtualService _ => removed .virtualService
  | .deleteService _ => removed .service

namespace ApiServer

/-- What a client does: it changes the server, also when it fails. -/
abbrev Run := ExceptT Failure (StateM ApiServer)

/-- Sends a request. -/
def send (request : ApiRequest) : Run ApiReply := do
  if request.isSendable then modifyGet fun server => server.handle request
  else throw (.cluster none)

/-- A result as a step of the client. -/
def liftExcept {α : Type} (result : Except Failure α) : Run α := MonadExcept.ofExcept result

/-- Makes a change. -/
def write (change : ClusterWrite) : Run Unit := do
  let reply ← send change.request
  liftExcept (change.success reply)

/-- The client of the server. It makes changes one after the other. -/
def client : ClusterClient Run where
  listRoutes := do
    let reply ← send .listRoutes
    let objects ← liftExcept (readReply (fun doc => (listItems? doc).bind
      (List.mapM ApiObject.ofJson?)) reply)
    return listedRoutes objects
  listManaged kind := do
    let reply ← send (.list kind)
    liftExcept (readManaged kind reply)
  writeAll changes := changes.forM write

end ApiServer

end MeshRoutes
