import MeshRoutes.Mesh.Metadata

/-!
# Services

A `Service` gives the pods with some labels one name under which virtual services reach them.

## Main definitions

* `Service`, `ServicePort`: the resource and its parts.
* `Service.ofDocument?`, `Service.toJson`: reading and writing. What is written has its fields in
  declared order.
-/

namespace MeshRoutes

open Document (required defaulted)

/-- The API version of services. -/
def serviceApiVersion : String := "v1"

/-- The kind of services. -/
def serviceKind : String := "Service"

/-- A port of a service. -/
structure ServicePort where
  name : String
  number : UInt16
deriving DecidableEq, Repr

/-- A resource that names a set of pods, by the labels that they carry, and the ports on which they
are reached. -/
structure Service where
  apiVersion : String := serviceApiVersion
  kind : String := serviceKind
  metadata : ResourceMetadata
  selector : TextMap
  ports : List ServicePort
deriving DecidableEq, Repr

variable {δ : Type} [Document δ]

/-- Reads a port. -/
def ServicePort.ofDocument? (doc : δ) : Option ServicePort := do
  let fields ← Document.record? ["name", "port"] doc
  return {
    name := ← required fields "name" Document.text?
    number := ← required fields "port" Document.word16? }

/-- Reads a service. Any API version and kind are kept. -/
def Service.ofDocument? (doc : δ) : Option Service := do
  let fields ← Document.record? ["apiVersion", "kind", "metadata", "spec"] doc
  let apiVersion ← defaulted fields "apiVersion" Document.text? serviceApiVersion
  let kind ← defaulted fields "kind" Document.text? serviceKind
  let metadata ← required fields "metadata" ResourceMetadata.ofDocument?
  required fields "spec" fun spec => do
    let fields ← Document.record? ["selector", "ports"] spec
    return {
      apiVersion, kind, metadata
      selector := ← required fields "selector" Document.textMap?
      ports := ← required fields "ports" (Document.listOf? ServicePort.ofDocument?) }

/-- The object of a port. -/
def ServicePort.toJson (port : ServicePort) : Json :=
  .obj [("name", .str port.name), ("port", .int port.number.toNat)]

/-- The object of a service. -/
def Service.toJson (resource : Service) : Json :=
  .obj [
    ("apiVersion", .str resource.apiVersion),
    ("kind", .str resource.kind),
    ("metadata", resource.metadata.toJson),
    ("spec", .obj [
      ("selector", resource.selector.toJson),
      ("ports", .arr (resource.ports.map ServicePort.toJson))])]

end MeshRoutes
