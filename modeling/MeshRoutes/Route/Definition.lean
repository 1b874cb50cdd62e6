import MeshRoutes.Mesh.ApiResource
import MeshRoutes.Route.Manifest
import MeshRoutes.Schema.Basic

/-!
# The definition of routes

What the API server has to know before it stores routes: their names and their schema.

## Main definitions

* `Route.schema`: what the server demands of a route.
* `routeDefinition`: the definition as a document, its fields ascending by name.
-/

namespace MeshRoutes

/-- A whole number as a bound. -/
def Decimal.ofNat (n : Nat) : Decimal := Decimal.ofDigits false (Text.decimalDigits n) 0

/-- The notes of a schema that only describes. -/
def SchemaNotes.describing (description : String) : SchemaNotes where
  description := some description

/-- The schema of an app. -/
def App.schema : Schema :=
  .record (.describing "Backend app identity")
    [("guid", .text (.describing "App guid")),
      ("process", .record (.describing "Process of the app receiving traffic")
        [("type", .text (.describing "Process type (e.g. \"web\")"))] ["type"])]
    ["guid", "process"]

/-- The schema of the labels of backend pods. -/
def Destination.selectorSchema : Schema :=
  .record
    { description := some "Label selector for the backend pods"
      default := some (.obj [("matchLabels", .obj [])]) }
    [("matchLabels", .map
      { description := some "Labels the backend pods must carry", default := some (.obj []) }
      (.text {}))]
    []

/-- The schema of a destination. -/
def Destination.schema : Schema :=
  .record (.describing "A weighted backend of a route")
    [("app", App.schema),
      ("guid", .text (.describing "Destination guid, unique across all routes")),
      ("port", .whole { description := some "Backend port", nullable := true } "uint16"
        (some (.ofNat 1)) (some (.ofNat 65535))),
      ("selector", Destination.selectorSchema),
      ("weight", .whole
        { description := some
            "Traffic percentage; `None` on every destination means \"split evenly\""
          nullable := true }
        "uint32" (some (.ofNat 0)) none)]
    ["app", "guid"]

/-- The schema of a domain. -/
def Domain.schema : Schema :=
  .record (.describing "Domain the route lives under")
    [("internal", .truth
        { description := some "Whether the domain is only reachable from inside the mesh"
          default := some (.bool false) }),
      ("name", .text (.describing "Domain name (e.g. \"apps.example.com\")"))]
    ["name"]

/-- The schema of the intent of a route. -/
def Route.specSchema : Schema :=
  .record (.describing "Spec for a Route: desired routing from an FQDN and path to backends")
    [("destinations", .list
        { description := some "Backends receiving traffic for this route"
          default := some (.arr []) }
        Destination.schema),
      ("domain", Domain.schema),
      ("host", .text
        { description := some "Host label prepended to the domain (empty for apex routes)"
          default := some (.str "") }),
      ("path", .text (.describing "URL path prefix; empty matches every path")),
      ("url", .text
        { description := some "Composed `host.domain/path` string", default := some (.str "") })]
    ["domain"]

/-- The schema of a condition. -/
def Condition.schema : Schema :=
  .record (.describing "A single status condition")
    [("status", .truth (.describing "Whether the condition holds")),
      ("type", .text (.describing "Condition type (e.g. \"Ready\")"))]
    ["status", "type"]

/-- The schema of the status of a route. -/
def Route.statusSchema : Schema :=
  .record { description := some "Status of a Route", nullable := true }
    [("conditions", .list
      { description := some "Observed conditions", default := some (.arr []) }
      Condition.schema)]
    []

/-- The schema of a route. -/
def Route.schema : Schema :=
  .record
    { title := some "Route"
      description := some "Auto-generated derived type for RouteSpec via `CustomResource`" }
    [("spec", Route.specSchema), ("status", Route.statusSchema)]
    ["spec"]

/-- The resource of routes. -/
def routeResource : ApiResource := ApiResource.of routeApiVersion routeKind

/-- The name of the definition of routes. -/
def routeDefinitionName : String := routeResource.plural ++ "." ++ routeResource.group

/-- A column of the table in which routes are listed. -/
def printerColumn (name type path : String) : Json :=
  .obj [("jsonPath", .str path), ("name", .str name), ("type", .str type)]

/-- The version of routes in their definition. -/
def routeVersionDefinition : Json :=
  .obj [
    ("additionalPrinterColumns", .arr [
      printerColumn "URL" "string" ".spec.url",
      printerColumn "Age" "date" ".metadata.creationTimestamp"]),
    ("name", .str routeResource.version),
    ("schema", .obj [("openAPIV3Schema", Route.schema.toJson)]),
    ("served", .bool true),
    ("storage", .bool true),
    ("subresources", .obj [("status", .obj [])])]

/-- The definition of routes. -/
def routeDefinition : Json :=
  .obj [
    ("apiVersion", .str "apiextensions.k8s.io/v1"),
    ("kind", .str "CustomResourceDefinition"),
    ("metadata", .obj [("name", .str routeDefinitionName)]),
    ("spec", .obj [
      ("group", .str routeResource.group),
      ("names", .obj [
        ("categories", .arr []),
        ("kind", .str routeKind),
        ("plural", .str routeResource.plural),
        ("shortNames", Json.strs ["rt"]),
        ("singular", .str (Text.lower routeKind))]),
      ("scope", .str "Namespaced"),
      ("versions", .arr [routeVersionDefinition])])]

end MeshRoutes
