import MeshRoutes.Document

/-!
# Metadata of mesh resources

A resource that is made from routes always has a name and a namespace. Labels and annotations are
left out when there are none.
-/

namespace MeshRoutes

/-- The label that holds the guid of the route behind a service. -/
def routeGuidLabel : String := "cloudfoundry.org/route_guid"

/-- The label that holds the guid of the app behind a service. -/
def appGuidLabel : String := "cloudfoundry.org/app_guid"

/-- The label that holds the type of the process behind a service. -/
def processTypeLabel : String := "cloudfoundry.org/process_type"

/-- The annotation that holds the domain name that a virtual service serves. -/
def fqdnAnnotationKey : String := "cloudfoundry.org/fqdn"

/-- The annotation that holds the domain name of the route behind a service. -/
def routeFqdnAnnotationKey : String := "cloudfoundry.org/route-fqdn"

/-- The metadata of a mesh resource. Resources are selected by their labels, and annotations are
only carried along. -/
structure ResourceMetadata where
  name : String
  ns : String
  labels : TextMap := ∅
  annotations : TextMap := ∅
deriving DecidableEq, Repr

namespace ResourceMetadata

/-- The metadata with one more label. -/
def label (metadata : ResourceMetadata) (key value : String) : ResourceMetadata :=
  { metadata with labels := metadata.labels.insert key value }

/-- The metadata with one more annotation. -/
def annotate (metadata : ResourceMetadata) (key value : String) : ResourceMetadata :=
  { metadata with annotations := metadata.annotations.insert key value }

/-- Reads the metadata of a resource. -/
def ofDocument? {δ : Type} [Document δ] (doc : δ) : Option ResourceMetadata := do
  let fields ← Document.record? ["name", "namespace", "labels", "annotations"] doc
  return {
    name := ← Document.required fields "name" Document.text?
    ns := ← Document.required fields "namespace" Document.text?
    labels := ← Document.defaulted fields "labels" Document.textMap? ∅
    annotations := ← Document.defaulted fields "annotations" Document.textMap? ∅ }

/-- A map as a field, unless it is empty. -/
def mapField (name : String) (map : TextMap) : List (String × Json) :=
  if map.isEmpty then [] else [(name, map.toJson)]

/-- The object with the fields in declared order. -/
def toJson (metadata : ResourceMetadata) : Json :=
  .obj ([("name", .str metadata.name), ("namespace", .str metadata.ns)] ++
    mapField "labels" metadata.labels ++ mapField "annotations" metadata.annotations)

end ResourceMetadata

end MeshRoutes
