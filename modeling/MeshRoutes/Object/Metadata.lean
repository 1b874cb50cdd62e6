import MeshRoutes.Document
import MeshRoutes.Object.Timestamp

/-!
# Object metadata

What every object of the API server says about itself. Each field may be absent, and null means
absent; fields that this library does not know are dropped. A map that is present stays present
when it has no entries.

## Main definitions

* `Metadata`, `OwnerReference`, `ManagedFields`: the metadata and its parts.
* `Metadata.ofDocument?`, `Metadata.toJson`: reading and writing. Times lose their fraction of a
  second when they are written.
-/

namespace MeshRoutes

/-- An object that owns another one, which goes when all its owners have gone. -/
structure OwnerReference where
  apiVersion : String := ""
  kind : String := ""
  name : String := ""
  uid : String := ""
  controller : Option Bool := none
  blockOwnerDeletion : Option Bool := none
deriving DecidableEq, Repr

/-- What a manager of an object last set of it, and when. Which fields these are is not looked
at. -/
structure ManagedFields where
  manager : Option String := none
  operation : Option String := none
  apiVersion : Option String := none
  subresource : Option String := none
  time : Option Timestamp := none
  fieldsType : Option String := none
  fieldsV1 : Option JsonValue := none
deriving DecidableEq, Repr

/-- The metadata of an API object. The server makes a name from `generateName` for an object
without one. Objects that took the same name one after the other differ in their `uid`. -/
structure Metadata where
  name : Option String := none
  ns : Option String := none
  generateName : Option String := none
  uid : Option String := none
  resourceVersion : Option String := none
  generation : Option Int64 := none
  creationTimestamp : Option Timestamp := none
  deletionTimestamp : Option Timestamp := none
  deletionGracePeriodSeconds : Option Int64 := none
  finalizers : Option (List String) := none
  labels : Option TextMap := none
  annotations : Option TextMap := none
  ownerReferences : Option (List OwnerReference) := none
  managedFields : Option (List ManagedFields) := none
  selfLink : Option String := none
deriving DecidableEq, Repr

namespace Metadata

/-- The name, else the stem of one, else the empty text. -/
def anyName (metadata : Metadata) : String :=
  metadata.name.getD (metadata.generateName.getD "")

/-- The namespace, empty if there is none. -/
def namespaceD (metadata : Metadata) : String := metadata.ns.getD ""

/-- The value of a label, empty if there is none. -/
def labelD (metadata : Metadata) (key : String) : String :=
  ((metadata.labels.bind (·.get? key))).getD ""

theorem anyName_eq (metadata : Metadata) :
    metadata.anyName = metadata.name.getD (metadata.generateName.getD "") := rfl

theorem namespaceD_eq (metadata : Metadata) : metadata.namespaceD = metadata.ns.getD "" := rfl

theorem labelD_eq (metadata : Metadata) (key : String) :
    metadata.labelD key = (metadata.labels.bind (·.get? key)).getD "" := rfl

/-- The value of an annotation. -/
def annotation? (metadata : Metadata) (key : String) : Option String :=
  metadata.annotations.bind (·.get? key)

end Metadata

/-! ## Reading

Metadata and its parts have to be mappings, also in a format that allows records without names. -/

section Reading

variable {δ : Type} [Document δ]

/-- Reads a point in time. -/
def Timestamp.ofDocument? (doc : δ) : Option Timestamp :=
  (Document.text? doc).bind Timestamp.parse?

/-- Reads an owner. A text that is absent is empty. -/
def OwnerReference.ofDocument? (doc : δ) : Option OwnerReference := do
  let fields ← Document.entries? doc
  let apiVersion ← Document.optional fields "apiVersion" Document.text?
  let kind ← Document.optional fields "kind" Document.text?
  let name ← Document.optional fields "name" Document.text?
  let uid ← Document.optional fields "uid" Document.text?
  return {
    apiVersion := apiVersion.getD ""
    kind := kind.getD ""
    name := name.getD ""
    uid := uid.getD ""
    controller := ← Document.optional fields "controller" Document.bool?
    blockOwnerDeletion := ← Document.optional fields "blockOwnerDeletion" Document.bool? }

/-- Reads what a manager set. -/
def ManagedFields.ofDocument? (doc : δ) : Option ManagedFields := do
  let fields ← Document.entries? doc
  return {
    manager := ← Document.optional fields "manager" Document.text?
    operation := ← Document.optional fields "operation" Document.text?
    apiVersion := ← Document.optional fields "apiVersion" Document.text?
    subresource := ← Document.optional fields "subresource" Document.text?
    time := ← Document.optional fields "time" Timestamp.ofDocument?
    fieldsType := ← Document.optional fields "fieldsType" Document.text?
    fieldsV1 := ← Document.optional fields "fieldsV1" Document.value? }

/-- Reads metadata. -/
def Metadata.ofDocument? (doc : δ) : Option Metadata := do
  let fields ← Document.entries? doc
  return {
    name := ← Document.optional fields "name" Document.text?
    ns := ← Document.optional fields "namespace" Document.text?
    generateName := ← Document.optional fields "generateName" Document.text?
    uid := ← Document.optional fields "uid" Document.text?
    resourceVersion := ← Document.optional fields "resourceVersion" Document.text?
    generation := ← Document.optional fields "generation" Document.int64?
    creationTimestamp := ← Document.optional fields "creationTimestamp" Timestamp.ofDocument?
    deletionTimestamp := ← Document.optional fields "deletionTimestamp" Timestamp.ofDocument?
    deletionGracePeriodSeconds :=
      ← Document.optional fields "deletionGracePeriodSeconds" Document.int64?
    finalizers := ← Document.optional fields "finalizers" (Document.listOf? Document.text?)
    labels := ← Document.optional fields "labels" Document.textMap?
    annotations := ← Document.optional fields "annotations" Document.textMap?
    ownerReferences := ← Document.optional fields "ownerReferences"
      (Document.listOf? OwnerReference.ofDocument?)
    managedFields := ← Document.optional fields "managedFields"
      (Document.listOf? ManagedFields.ofDocument?)
    selfLink := ← Document.optional fields "selfLink" Document.text? }

end Reading

/-! ## Writing

Fields ascend by name, and those without a value are left out. -/

/-- The document of a point in time. -/
def Timestamp.toJson (t : Timestamp) : Json := .str t.toText

/-- The document of a whole number of sixty-four bits. -/
def Json.ofInt64 (n : Int64) : Json := .int n.toInt

/-- The fields of an owner with their documents. -/
def OwnerReference.fields (owner : OwnerReference) : List (String × Option Json) := [
  ("apiVersion", some (.str owner.apiVersion)),
  ("blockOwnerDeletion", owner.blockOwnerDeletion.map .bool),
  ("controller", owner.controller.map .bool),
  ("kind", some (.str owner.kind)),
  ("name", some (.str owner.name)),
  ("uid", some (.str owner.uid))]

/-- The object of an owner. -/
def OwnerReference.toJson (owner : OwnerReference) : Json := .obj (Json.presentFields owner.fields)

/-- The fields of what a manager set, with their documents. -/
def ManagedFields.fields (managed : ManagedFields) : List (String × Option Json) := [
  ("apiVersion", managed.apiVersion.map .str),
  ("fieldsType", managed.fieldsType.map .str),
  ("fieldsV1", managed.fieldsV1.map JsonValue.toJson),
  ("manager", managed.manager.map .str),
  ("operation", managed.operation.map .str),
  ("subresource", managed.subresource.map .str),
  ("time", managed.time.map Timestamp.toJson)]

/-- The object of what a manager set. -/
def ManagedFields.toJson (managed : ManagedFields) : Json :=
  .obj (Json.presentFields managed.fields)

namespace Metadata

/-- The fields with their documents. -/
def fields (metadata : Metadata) : List (String × Option Json) := [
  ("annotations", metadata.annotations.map TextMap.toJson),
  ("creationTimestamp", metadata.creationTimestamp.map Timestamp.toJson),
  ("deletionGracePeriodSeconds", metadata.deletionGracePeriodSeconds.map Json.ofInt64),
  ("deletionTimestamp", metadata.deletionTimestamp.map Timestamp.toJson),
  ("finalizers", metadata.finalizers.map Json.strs),
  ("generateName", metadata.generateName.map .str),
  ("generation", metadata.generation.map Json.ofInt64),
  ("labels", metadata.labels.map TextMap.toJson),
  ("managedFields", metadata.managedFields.map fun entries =>
    .arr (entries.map ManagedFields.toJson)),
  ("name", metadata.name.map .str),
  ("namespace", metadata.ns.map .str),
  ("ownerReferences", metadata.ownerReferences.map fun owners =>
    .arr (owners.map OwnerReference.toJson)),
  ("resourceVersion", metadata.resourceVersion.map .str),
  ("selfLink", metadata.selfLink.map .str),
  ("uid", metadata.uid.map .str)]

/-- The object with the fields that are present. -/
def toJson (metadata : Metadata) : Json := .obj (Json.presentFields metadata.fields)

end Metadata

end MeshRoutes
