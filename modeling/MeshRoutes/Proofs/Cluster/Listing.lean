import MeshRoutes.Cluster.Remote
import MeshRoutes.Proofs.Cluster.Changes
import MeshRoutes.Proofs.Mesh.Documents

/-!
# What a listing tells of a server

A pass learns of the resources of earlier passes from two lists. What it reads there is, document by
document, the key and the domain name that the metadata gives.

* `Json.owner?`: the domain name that a document says it belongs to.
* `managed?`: the managed resource that a stored document is listed as.
* `ApiServer.mem_of_listed_eq_ok`: what is listed is what is stored and managed.
* `managed?_eq_some_iff`: a document is managed if it says to which domain name it belongs.
* `VirtualService.owner?_toJson`, `Service.IsListable.owner?_toJson`: the documents of mesh
  resources say so in the annotation that the resources carry.
-/

namespace MeshRoutes

/-- Whether a document of a kind is part of the list. Of the services only those that are labelled
with a route are. -/
def ResourceKind.lists : ResourceKind → Json → Bool
  | virtualService, _ => true
  | service, doc => doc.hasLabel routeGuidLabel

/-- Whether a document can be read as an object of a kind. -/
def IsReadable (kind : ResourceKind) (doc : Json) : Prop :=
  ∃ object, readObject? kind doc = some object

/-- The metadata of a document. -/
def Json.metadata? (doc : Json) : Option Metadata := (ApiObject.ofJson? doc).map (·.metadata)

/-- The domain name that a document of a kind says it belongs to. Only services that are labelled
with a route belong to one. -/
def Json.owner? (kind : ResourceKind) (doc : Json) : Option String :=
  match kind with
  | .virtualService => doc.metadata?.bind (·.annotation? fqdnAnnotationKey)
  | .service =>
    if doc.hasLabel routeGuidLabel then doc.metadata?.bind (·.annotation? routeFqdnAnnotationKey)
    else none

/-- The managed resource that a stored document of a kind is. -/
def managed? (kind : ResourceKind) (doc : Json) : Option ManagedResource :=
  if kind.lists doc then
    (readObject? kind doc).bind fun object =>
      ManagedResource.ofMetadata? kind.annotationKey object.metadata
  else none

/-- A document with which the server reports success is what is read. -/
theorem readReply_eq_ok_iff {α : Type} {read : Json → Option α} {doc : Json} {a : α} :
    readReply read ⟨200, some doc⟩ = .ok a ↔ read doc = some a := by
  have document : ApiReply.document ⟨200, some doc⟩ = .ok doc := rfl
  unfold readReply
  rw [document]
  cases reads : read doc with
  | none => simp [bind, Except.bind, reads]
  | some b => simp [bind, Except.bind, pure, Except.pure, reads]

namespace ApiServer

variable {server : ApiServer} {kind : ResourceKind}

/-- The managed resources of a kind that a pass reads from a server. -/
def listed (server : ApiServer) (kind : ResourceKind) : Except Failure (List ManagedResource) :=
  readManaged kind (server.perform (.list kind)).1

/-- The documents of a kind that are listed. -/
def listedDocuments (server : ApiServer) (kind : ResourceKind) : List Json :=
  (server.resources kind).values.filter kind.lists

theorem perform_list (server : ApiServer) (kind : ResourceKind) :
    (server.perform (.list kind)).1 = ⟨200, some (listDocument (server.listedDocuments kind))⟩ := by
  cases kind with
  | virtualService =>
    have all : server.virtualServices.values.filter (ResourceKind.lists .virtualService) =
        server.virtualServices.values := List.filter_eq_self.2 fun _ _ => rfl
    simp only [perform, listedDocuments, resources, all]
  | service => rfl

theorem mem_listedDocuments {doc : Json} :
    doc ∈ server.listedDocuments kind ↔ (∃ key, server.get? kind key = some doc) ∧ kind.lists doc := by
  rw [listedDocuments, List.mem_filter, SortedMap.mem_values_iff]
  rfl

/-- A list is read when each of its documents is. -/
theorem listed_eq_ok_iff {resources : List ManagedResource} :
    server.listed kind = .ok resources ↔
      ∃ objects, List.Forall₂ (fun doc object => readObject? kind doc = some object)
          (server.listedDocuments kind) objects ∧ managedResources kind objects = resources := by
  have items : listItems? (listDocument (server.listedDocuments kind)) =
      some (server.listedDocuments kind) := rfl
  rw [listed, readManaged, perform_list, map_eq_ok_iff]
  simp only [readReply_eq_ok_iff, items, Option.bind_some, mapM_eq_some_iff]

/-- What is listed is what is stored and managed. -/
theorem mem_of_listed_eq_ok {resources : List ManagedResource}
    (ok : server.listed kind = .ok resources) {resource : ManagedResource} :
    resource ∈ resources ↔
      ∃ key doc, server.get? kind key = some doc ∧ managed? kind doc = some resource := by
  obtain ⟨objects, read, rfl⟩ := listed_eq_ok_iff.1 ok
  simp only [managedResources, List.mem_filterMap]
  constructor
  · intro found
    rcases found with ⟨object, mem, managed⟩
    obtain ⟨doc, doc_mem, reads⟩ := exists_mem_left_of_forall₂ read mem
    obtain ⟨⟨key, stored⟩, lists⟩ := mem_listedDocuments.1 doc_mem
    exact ⟨key, doc, stored, by rw [managed?, if_pos lists, reads]; exact managed⟩
  · intro found
    rcases found with ⟨key, doc, stored, managed⟩
    obtain ⟨lists, managed⟩ := Option.ite_none_right_eq_some.1 managed
    obtain ⟨object, reads, managed⟩ := Option.bind_eq_some_iff.1 managed
    obtain ⟨object', mem, reads'⟩ := exists_mem_left_of_forall₂ read.flip
      (mem_listedDocuments.2 ⟨⟨key, stored⟩, lists⟩)
    cases reads.symm.trans reads'
    exact ⟨object, mem, managed⟩

/-- Where a list is read, each of its documents is. -/
theorem isReadable_of_listed_eq_ok {resources : List ManagedResource}
    (ok : server.listed kind = .ok resources) {key : ObjectKey} {doc : Json}
    (stored : server.get? kind key = some doc) (lists : kind.lists doc) : IsReadable kind doc := by
  obtain ⟨objects, read, _⟩ := listed_eq_ok_iff.1 ok
  obtain ⟨object, _, reads⟩ :=
    exists_mem_left_of_forall₂ read.flip (mem_listedDocuments.2 ⟨⟨key, stored⟩, lists⟩)
  exact ⟨object, reads⟩

/-- A list of documents that can all be read is read. -/
theorem exists_listed_eq_ok
    (readable : ∀ key doc, server.get? kind key = some doc → IsReadable kind doc) :
    ∃ resources, server.listed kind = .ok resources := by
  have reads : ∀ doc ∈ server.listedDocuments kind, IsReadable kind doc := by
    intro doc mem
    obtain ⟨⟨key, stored⟩, _⟩ := mem_listedDocuments.1 mem
    exact readable key doc stored
  refine ⟨_, listed_eq_ok_iff.2 ⟨(server.listedDocuments kind).filterMap (readObject? kind), ?_, rfl⟩⟩
  generalize server.listedDocuments kind = docs at reads
  induction docs with
  | nil => exact .nil
  | cons doc docs ih =>
    obtain ⟨⟨object, read⟩, rest⟩ := List.forall_mem_cons.1 reads
    rw [List.filterMap_cons_some read]
    exact .cons read (ih rest)

end ApiServer

/-! ## What is managed -/

section Managed

variable {kind : ResourceKind} {doc : Json} {object : ApiObject} {resource : ManagedResource}

theorem ofMetadata?_eq_some_iff {annotationKey : String} {metadata : Metadata} :
    ManagedResource.ofMetadata? annotationKey metadata = some resource ↔
      metadata.annotation? annotationKey = some resource.fqdn ∧ metadata.ns = some resource.ns ∧
        metadata.anyName = resource.name := by
  obtain ⟨ns, name, fqdn⟩ := resource
  unfold ManagedResource.ofMetadata?
  cases metadata.annotation? annotationKey with
  | none => simp
  | some fqdn' =>
    cases metadata.ns with
    | none => simp
    | some ns' => simp [and_comm, and_left_comm]

theorem metadata?_of_readObject? (read : readObject? kind doc = some object) :
    doc.metadata? = some object.metadata := by
  obtain ⟨object', read', same⟩ := Option.bind_eq_some_iff.1 read
  have same : object' = object := by
    cases kind with
    | virtualService => exact Option.some.inj same
    | service => exact Option.some.inj (Option.ite_none_right_eq_some.1 same).2
  rw [Json.metadata?, read', same]
  rfl

/-- The annotation that is looked for is the one that says to which domain name a document
belongs. -/
theorem owner?_of_readObject? (read : readObject? kind doc = some object) :
    doc.owner? kind =
      if kind.lists doc then object.metadata.annotation? kind.annotationKey else none := by
  have of_doc := metadata?_of_readObject? read
  cases kind with
  | virtualService => rw [Json.owner?, of_doc]; rfl
  | service => rw [Json.owner?, of_doc]; rfl

theorem lists_of_owner? {fqdn : String} (owner : doc.owner? kind = some fqdn) :
    kind.lists doc = true := by
  cases kind with
  | virtualService => rfl
  | service => exact (Option.ite_none_right_eq_some.1 owner).1

/-- A document is managed if it says to which domain name it belongs. -/
theorem managed?_eq_some_iff :
    managed? kind doc = some resource ↔
      IsReadable kind doc ∧ doc.owner? kind = some resource.fqdn ∧
        ∃ metadata, doc.metadata? = some metadata ∧ metadata.ns = some resource.ns ∧
          metadata.anyName = resource.name := by
  rw [managed?, Option.ite_none_right_eq_some, Option.bind_eq_some_iff]
  constructor
  · intro found
    rcases found with ⟨lists, object, read, managed⟩
    obtain ⟨fqdn, ns, name⟩ := ofMetadata?_eq_some_iff.1 managed
    refine ⟨⟨object, read⟩, ?_, object.metadata, metadata?_of_readObject? read, ns, name⟩
    rw [owner?_of_readObject? read, if_pos lists, fqdn]
  · intro found
    rcases found with ⟨⟨object, read⟩, owner, metadata, of_doc, ns, name⟩
    rw [owner?_of_readObject? read] at owner
    obtain ⟨lists, fqdn⟩ := Option.ite_none_right_eq_some.1 owner
    obtain rfl : object.metadata = metadata :=
      Option.some.inj ((metadata?_of_readObject? read).symm.trans of_doc)
    exact ⟨lists, object, read, ofMetadata?_eq_some_iff.2 ⟨fqdn, ns, name⟩⟩

/-- Whether a document gives itself a key. -/
def Json.IsAt (doc : Json) (key : ObjectKey) : Prop :=
  ∀ metadata, doc.metadata? = some metadata →
    metadata.ns = some key.ns ∧ metadata.name = some key.name

theorem key_eq_of_managed? {key : ObjectKey} (at_key : doc.IsAt key)
    (managed : managed? kind doc = some resource) : resource.key = key := by
  obtain ⟨_, _, metadata, of_doc, ns, name⟩ := managed?_eq_some_iff.1 managed
  obtain ⟨ns', name'⟩ := at_key metadata of_doc
  rw [Metadata.anyName, name', Option.getD_some] at name
  rw [ManagedResource.key, ← name, Option.some.inj (ns.symm.trans ns')]

theorem managed?_of_owner? {key : ObjectKey} {fqdn : String} (readable : IsReadable kind doc)
    (at_key : doc.IsAt key) (owner : doc.owner? kind = some fqdn) :
    managed? kind doc = some { ns := key.ns, name := key.name, fqdn } := by
  obtain ⟨object, read⟩ := readable
  have of_doc := metadata?_of_readObject? read
  obtain ⟨ns, name⟩ := at_key _ of_doc
  refine managed?_eq_some_iff.2 ⟨⟨object, read⟩, owner, _, of_doc, ns, ?_⟩
  rw [Metadata.anyName, name]
  rfl

end Managed

/-! ## Documents of mesh resources -/

theorem TextMap.field?_toJson (map : TextMap) (key : String) :
    map.toJson.field? key = (map.get? key).map Json.str := by
  unfold toJson Json.ofTexts Json.field? Json.fields? SortedMap.get?
  dsimp only [Option.bind_some]
  induction map.entries with
  | nil => rfl
  | cons entry entries ih =>
    rw [List.map_cons, SortedMap.lookup_cons, SortedMap.lookup_cons, ih]
    split <;> rfl

/-- The metadata of the object that a mesh resource is. -/
def ResourceMetadata.asObject (metadata : ResourceMetadata) : Metadata where
  name := some metadata.name
  ns := some metadata.ns
  labels := TextMap.unlessEmpty metadata.labels
  annotations := TextMap.unlessEmpty metadata.annotations

theorem ResourceMetadata.annotation?_asObject (metadata : ResourceMetadata) (key : String) :
    metadata.asObject.annotation? key = metadata.annotations.get? key :=
  TextMap.get?_unlessEmpty metadata.annotations key

/-- The metadata of a mesh resource is that of its document. -/
theorem metadata?_of_field? {doc : Json} {metadata : ResourceMetadata}
    (found : doc.field? "metadata" = some metadata.toJson) :
    doc.metadata? = some metadata.asObject := by
  obtain ⟨fields, some_fields, found⟩ := Option.bind_eq_some_iff.1 found
  have read := Metadata.ofDocument?_toJson_resource metadata
  unfold Json.metadata? ApiObject.ofJson? Document.defaulted
  rw [some_fields, Option.bind_eq_bind, Option.bind_some, found]
  dsimp only
  rw [read]
  rfl

@[simp] theorem VirtualService.metadata?_toJson (resource : VirtualService) :
    resource.toJson.metadata? = some resource.metadata.asObject := metadata?_of_field? rfl

@[simp] theorem Service.metadata?_toJson (service : Service) :
    service.toJson.metadata? = some service.metadata.asObject := metadata?_of_field? rfl

theorem ResourceMetadata.isAt_asObject {doc : Json} {metadata : ResourceMetadata}
    (of_doc : doc.metadata? = some metadata.asObject) : doc.IsAt metadata.key := by
  intro metadata' of_doc'
  cases of_doc.symm.trans of_doc'
  exact ⟨rfl, rfl⟩

theorem VirtualService.isAt_toJson (resource : VirtualService) :
    resource.toJson.IsAt resource.metadata.key :=
  ResourceMetadata.isAt_asObject resource.metadata?_toJson

theorem Service.isAt_toJson (service : Service) : service.toJson.IsAt service.metadata.key :=
  ResourceMetadata.isAt_asObject service.metadata?_toJson

/-- The document of a virtual service says which domain name it serves. -/
@[simp] theorem VirtualService.owner?_toJson (resource : VirtualService) :
    resource.toJson.owner? .virtualService = resource.fqdn? := by
  rw [Json.owner?, metadata?_toJson, Option.bind_some, ResourceMetadata.annotation?_asObject]
  rfl

theorem VirtualService.isReadable (resource : VirtualService) :
    IsReadable .virtualService resource.toJson := by
  obtain ⟨object, read, _⟩ := Option.map_eq_some_iff.1 resource.metadata?_toJson
  exact ⟨object, by rw [readObject?, read]; rfl⟩

/-! ### Services -/

theorem isServicePort_toJson (port : ServicePort) : isServicePort port.toJson = true := by
  have reads := Document.intWithin?_word16 port.number
  have present : Document.isNull (Json.int port.number.toNat) = false := rfl
  simp [isServicePort, ServicePort.toJson, Json.fields?, Document.optional, Document.defaulted,
    Document.nullable, List.lookup_cons, present, reads]

/-- What a service says about itself is accepted. -/
theorem isServiceSpec_toJson (selector : TextMap) (ports : List ServicePort) :
    isServiceSpec (.obj [("selector", selector.toJson),
      ("ports", .arr (ports.map ServicePort.toJson))]) = true := by
  have elements (items : List Json) : Document.elements? (Json.arr items) = some items := rfl
  have present (items : List Json) : Document.isNull (Json.arr items) = false := rfl
  simp [isServiceSpec, Json.fields?, Document.optional, Document.defaulted, Document.nullable,
    List.lookup_cons, elements, present, isServicePort_toJson]

/-- What a service must have so that it is listed. It is labelled with a route. -/
structure Service.IsListable (service : Service) : Prop where
  apiVersion_eq : service.apiVersion = serviceApiVersion
  kind_eq : service.kind = serviceKind
  label : ∃ guid, service.metadata.labels.get? routeGuidLabel = some guid

theorem Service.IsListable.hasLabel {service : Service} (listable : service.IsListable) :
    service.toJson.hasLabel routeGuidLabel = true := by
  obtain ⟨guid, label⟩ := listable.label
  have some_labels : service.metadata.labels.isEmpty = false := by
    by_contra none
    have nil := List.isEmpty_iff.1 (eq_true_of_ne_false none)
    rw [SortedMap.get?, nil] at label
    cases label
  have field : service.metadata.toJson.field? "labels" = some service.metadata.labels.toJson := by
    obtain ⟨fields, toJson_eq, lookup⟩ := service.metadata.exists_fields
    rw [toJson_eq]
    refine (lookup "labels").trans ?_
    rw [TextMap.unlessEmpty, some_labels]
    rfl
  have metadata : service.toJson.field? "metadata" = some service.metadata.toJson := rfl
  rw [Json.hasLabel, metadata, Option.bind_some, field, Option.bind_some, TextMap.field?_toJson,
    label]
  rfl

/-- The document of a service says which domain name it belongs to. -/
theorem Service.IsListable.owner?_toJson {service : Service} (listable : service.IsListable) :
    service.toJson.owner? .service = service.metadata.annotations.get? routeFqdnAnnotationKey := by
  rw [Json.owner?, if_pos listable.hasLabel, metadata?_toJson, Option.bind_some,
    ResourceMetadata.annotation?_asObject]

theorem Service.IsListable.isReadable {service : Service} (listable : service.IsListable) :
    IsReadable .service service.toJson := by
  obtain ⟨object, read, _⟩ := Option.map_eq_some_iff.1 service.metadata?_toJson
  refine ⟨object, ?_⟩
  have apiVersion : isAbsentOr serviceApiVersion (service.toJson.field? "apiVersion") = true := by
    rw [← listable.apiVersion_eq]
    exact beq_self_eq_true (some service.apiVersion)
  have kind : isAbsentOr serviceKind (service.toJson.field? "kind") = true := by
    rw [← listable.kind_eq]
    exact beq_self_eq_true (some service.kind)
  have spec : service.toJson.field? "spec" = some (.obj [("selector", service.selector.toJson),
      ("ports", .arr (service.ports.map ServicePort.toJson))]) := rfl
  unfold readObject?
  rw [read, apiVersion, kind, spec, Option.getD_some]
  dsimp only
  rw [isServiceSpec_toJson, Bool.or_true]
  rfl

end MeshRoutes
