import MeshRoutes.Route.Basic

/-!
# Routes as documents

Reading a route from a document and writing it as JSON. A written route has every field except an
empty path and an absent status, so what is written reads back as the same route, but for the
fractions of seconds in its metadata.

## Main definitions

* `Route.ofDocument?`, `Destination.ofDocument?`: readers, for every document format.
* `Route.toJson`, `Destination.toJson`: writers.
-/

namespace MeshRoutes

open Document (required defaulted optional)

/-- The API version of routes. -/
def routeApiVersion : String := "networking.cloudfoundry.org/v1alpha1"

/-- The kind of routes. -/
def routeKind : String := "Route"

variable {δ : Type} [Document δ]

/-- Reads a domain. -/
def Domain.ofDocument? (doc : δ) : Option Domain := do
  let fields ← Document.record? ["name", "internal"] doc
  return {
    name := ← required fields "name" Document.text?
    internal := ← defaulted fields "internal" Document.bool? false }

/-- Reads an app, whose process type stands in a record of its own. -/
def App.ofDocument? (doc : δ) : Option App := do
  let fields ← Document.record? ["guid", "process"] doc
  let guid ← required fields "guid" Document.text?
  let processType ← required fields "process" fun process => do
    let fields ← Document.record? ["type"] process
    required fields "type" Document.text?
  return { guid, processType }

/-- Reads the labels of a selector. -/
def Destination.selectorOfDocument? (doc : δ) : Option TextMap := do
  let fields ← Document.record? ["matchLabels"] doc
  defaulted fields "matchLabels" Document.textMap? ∅

/-- Reads a destination. -/
def Destination.ofDocument? (doc : δ) : Option Destination := do
  let fields ← Document.record? ["guid", "weight", "port", "app", "selector"] doc
  return {
    guid := ← required fields "guid" Document.text?
    weight := ← optional fields "weight" Document.word32?
    port := ← optional fields "port" Document.word16?
    app := ← required fields "app" App.ofDocument?
    selector := ← defaulted fields "selector" Destination.selectorOfDocument? ∅ }

/-- Reads a condition. -/
def Condition.ofDocument? (doc : δ) : Option Condition := do
  let fields ← Document.record? ["type", "status"] doc
  return {
    type := ← required fields "type" Document.text?
    status := ← required fields "status" Document.bool? }

/-- Reads the conditions of a status. -/
def Route.statusOfDocument? (doc : δ) : Option (List Condition) := do
  let fields ← Document.record? ["conditions"] doc
  defaulted fields "conditions" (Document.listOf? Condition.ofDocument?) []

/-- Reads the intent of a route with the given metadata and status. -/
def Route.ofSpec? (metadata : Metadata) (status : Option (List Condition)) (spec : δ) :
    Option Route := do
  let fields ← Document.record? ["host", "path", "url", "domain", "destinations"] spec
  return {
    metadata
    host := ← defaulted fields "host" Document.text? ""
    path := ← defaulted fields "path" Document.text? ""
    url := ← defaulted fields "url" Document.text? ""
    domain := ← required fields "domain" Domain.ofDocument?
    destinations := ← defaulted fields "destinations"
      (Document.listOf? Destination.ofDocument?) []
    status }

/-- Reads a route. It has to be a mapping; its API version and kind are not looked at. -/
def Route.ofDocument? (doc : δ) : Option Route := do
  let fields ← Document.entries? doc
  let metadata ← required fields "metadata" Metadata.ofDocument?
  let status ← optional fields "status" Route.statusOfDocument?
  required fields "spec" (Route.ofSpec? metadata status)

/-! ## Writers -/

/-- A value that may be absent, written as null then. -/
def Json.ofOption {α : Type} (write : α → Json) : Option α → Json
  | none => .null
  | some a => write a

/-- The object of a destination. -/
def Destination.toJson (d : Destination) : Json :=
  .obj [
    ("guid", .str d.guid),
    ("weight", Json.ofOption (fun weight => .int weight.toNat) d.weight),
    ("port", Json.ofOption (fun port => .int port.toNat) d.port),
    ("app", .obj [("guid", .str d.app.guid), ("process", .obj [("type", .str d.app.processType)])]),
    ("selector", .obj [("matchLabels", d.selector.toJson)])]

/-- The object of a condition. -/
def Condition.toJson (condition : Condition) : Json :=
  .obj [("type", .str condition.type), ("status", .bool condition.status)]

/-- The object of the intent, without an empty path. -/
def Route.specToJson (route : Route) : Json :=
  let path := if route.path = "" then [] else [("path", .str route.path)]
  .obj ([("host", .str route.host)] ++ path ++ [
    ("url", .str route.url),
    ("domain", .obj [("name", .str route.domain.name), ("internal", .bool route.domain.internal)]),
    ("destinations", .arr (route.destinations.map Destination.toJson))])

/-- The object of a route, without an absent status. -/
def Route.toJson (route : Route) : Json :=
  let status := (route.status.map fun conditions =>
    ("status", .obj [("conditions", .arr (conditions.map Condition.toJson))])).toList
  .obj ([
    ("apiVersion", .str routeApiVersion),
    ("kind", .str routeKind),
    ("metadata", route.metadata.toJson),
    ("spec", route.specToJson)] ++ status)

end MeshRoutes
