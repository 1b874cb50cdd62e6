import MeshRoutes.Mesh.Metadata

/-!
# Virtual services

A `VirtualService` tells the mesh what to do with requests for its hosts: its rules are tried in
order, and the first that matches the path decides which backends share the request.

## Main definitions

* `VirtualService`, `HttpRule`, `Backend`: the resource and its parts.
* `VirtualService.ofDocument?`, `VirtualService.toJson`: reading and writing. What is written has
  its fields in declared order.
-/

namespace MeshRoutes

open Document (required defaulted)

/-- The API version of virtual services. -/
def virtualServiceApiVersion : String := "networking.istio.io/v1alpha3"

/-- The kind of virtual services. -/
def virtualServiceKind : String := "VirtualService"

/-- A service that receives a share of the requests, in percent, and the headers that are set for
it. -/
structure Backend where
  host : String
  headers : TextMap := ∅
  weight : UInt32
deriving DecidableEq, Repr

/-- A rule for requests. One of the prefixes has to be in front of the path of a request; if there
are none, every request matches. -/
structure HttpRule where
  prefixes : List String := []
  backends : List Backend
deriving DecidableEq, Repr

/-- A resource that routes the requests for some hosts that come through some gateways. The rules
are tried in order. -/
structure VirtualService where
  apiVersion : String := virtualServiceApiVersion
  kind : String := virtualServiceKind
  metadata : ResourceMetadata
  hosts : List String
  gateways : List String
  http : List HttpRule := []
deriving DecidableEq, Repr

namespace VirtualService

/-- The domain name that the resource says it serves. -/
def fqdn? (resource : VirtualService) : Option String :=
  resource.metadata.annotations.get? fqdnAnnotationKey

end VirtualService

/-! ## Reading -/

variable {δ : Type} [Document δ]

/-- Reads the header changes of a backend, of which only those that set a header count. -/
def Backend.headersOfDocument? (doc : δ) : Option TextMap := do
  let fields ← Document.record? ["request"] doc
  required fields "request" fun request => do
    let fields ← Document.record? ["set"] request
    defaulted fields "set" Document.textMap? ∅

/-- Reads a backend. -/
def Backend.ofDocument? (doc : δ) : Option Backend := do
  let fields ← Document.record? ["destination", "headers", "weight"] doc
  return {
    host := ← required fields "destination" fun destination => do
      let fields ← Document.record? ["host"] destination
      required fields "host" Document.text?
    headers := ← required fields "headers" Backend.headersOfDocument?
    weight := ← required fields "weight" Document.word32? }

/-- Reads the path of a match. -/
def HttpRule.matchOfDocument? (doc : δ) : Option String := do
  let fields ← Document.record? ["uri"] doc
  required fields "uri" fun uri => do
    let fields ← Document.record? ["prefix"] uri
    required fields "prefix" Document.text?

/-- Reads a rule. -/
def HttpRule.ofDocument? (doc : δ) : Option HttpRule := do
  let fields ← Document.record? ["match", "route"] doc
  return {
    prefixes := ← defaulted fields "match" (Document.listOf? HttpRule.matchOfDocument?) []
    backends := ← required fields "route" (Document.listOf? Backend.ofDocument?) }

/-- Reads a virtual service. Any API version and kind are kept. -/
def VirtualService.ofDocument? (doc : δ) : Option VirtualService := do
  let fields ← Document.record? ["apiVersion", "kind", "metadata", "spec"] doc
  let apiVersion ← defaulted fields "apiVersion" Document.text? virtualServiceApiVersion
  let kind ← defaulted fields "kind" Document.text? virtualServiceKind
  let metadata ← required fields "metadata" ResourceMetadata.ofDocument?
  required fields "spec" fun spec => do
    let fields ← Document.record? ["hosts", "gateways", "http"] spec
    return {
      apiVersion, kind, metadata
      hosts := ← required fields "hosts" (Document.listOf? Document.text?)
      gateways := ← required fields "gateways" (Document.listOf? Document.text?)
      http := ← defaulted fields "http" (Document.listOf? HttpRule.ofDocument?) [] }

/-! ## Writing -/

/-- The object of a backend. -/
def Backend.toJson (backend : Backend) : Json :=
  .obj [
    ("destination", .obj [("host", .str backend.host)]),
    ("headers", .obj [("request", .obj [("set", backend.headers.toJson)])]),
    ("weight", .int backend.weight.toNat)]

/-- The object of a rule, without an empty match. -/
def HttpRule.toJson (rule : HttpRule) : Json :=
  let matches_ := if rule.prefixes.isEmpty then [] else
    [("match", Json.arr (rule.prefixes.map fun p => .obj [("uri", .obj [("prefix", .str p)])]))]
  .obj (matches_ ++ [("route", .arr (rule.backends.map Backend.toJson))])

/-- The object of a virtual service. -/
def VirtualService.toJson (resource : VirtualService) : Json :=
  .obj [
    ("apiVersion", .str resource.apiVersion),
    ("kind", .str resource.kind),
    ("metadata", resource.metadata.toJson),
    ("spec", .obj [
      ("hosts", Json.strs resource.hosts),
      ("gateways", Json.strs resource.gateways),
      ("http", .arr (resource.http.map HttpRule.toJson))])]

end MeshRoutes
