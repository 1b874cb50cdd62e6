import MeshRoutes.Cluster.Client
import MeshRoutes.Cluster.Fault
import MeshRoutes.Failure

/-!
# Rehearsals

A cluster in memory that keeps of each resource only what a pass looks at, notes every call and
fails when it is told to.

## Main definitions

* `Rehearsal`: the cluster, with `put`, `delete` and `seed`.
* `Rehearsal.client`: its client. A call that fails is noted and changes nothing.
-/

namespace MeshRoutes

/-- A cluster in memory, which keeps of virtual services and services the domain names that they
belong to, and records the calls made. -/
structure Rehearsal where
  routes : List Route := []
  virtualServices : SortedMap ObjectKey String := ∅
  services : SortedMap ObjectKey String := ∅
  faults : List (Fault Failure) := []
  calls : List String := []
deriving Repr

namespace Rehearsal

/-! ## Changes by others -/

/-- The routes with one more, in place of an earlier one of the same name and namespace. -/
def putRoute (route : Route) : List Route → List Route
  | [] => [route]
  | earlier :: routes =>
    if earlier.metadata.ns = route.metadata.ns ∧ earlier.metadata.name = route.metadata.name then
      route :: routes
    else earlier :: putRoute route routes

/-- The cluster with more routes. -/
def put (cluster : Rehearsal) (routes : List Route) : Rehearsal :=
  { cluster with routes := routes.foldl (fun routes route => putRoute route routes) cluster.routes }

/-- The cluster without the routes of a namespace and guid. -/
def delete (cluster : Rehearsal) (ns guid : String) : Rehearsal :=
  { cluster with
    routes := cluster.routes.filter fun route =>
      !(route.namespaceName == ns && route.guid == guid) }

/-- The map with more resources. -/
def seedMap (map : SortedMap ObjectKey String) (resources : List ManagedResource) :
    SortedMap ObjectKey String :=
  resources.foldl (fun map resource => map.insert resource.key resource.fqdn) map

/-- The cluster with more resources. -/
def seed (cluster : Rehearsal) (virtualServices services : List ManagedResource) : Rehearsal :=
  { cluster with
    virtualServices := seedMap cluster.virtualServices virtualServices
    services := seedMap cluster.services services }

/-- The resources of a map, in order. -/
def resources (map : SortedMap ObjectKey String) : List ManagedResource :=
  map.entries.map fun (key, fqdn) => { ns := key.ns, name := key.name, fqdn }

/-! ## Calls -/

/-- What a client does: it changes the cluster, also when it fails. -/
abbrev Run := ExceptT Failure (StateM Rehearsal)

/-- Notes a call, which fails if there is a fault for it. -/
def note (name : String) (key : Option ObjectKey) : Run Unit := do
  let cluster ← get
  let text := (key.map fun key => name ++ " " ++ key.toText).getD name
  let (failure, faults) := Fault.take name (key.map (·.name)) cluster.faults
  set { cluster with faults, calls := cluster.calls ++ [text] }
  match failure with
  | some failure => throw failure
  | none => return

/-- The cluster after a change. -/
def perform (cluster : Rehearsal) : ClusterWrite → Rehearsal
  | .applyService service =>
    let fqdn := service.metadata.annotations.getD routeFqdnAnnotationKey ""
    { cluster with services := cluster.services.insert service.metadata.key fqdn }
  | .applyVirtualService resource =>
    { cluster with
      virtualServices :=
        cluster.virtualServices.insert resource.metadata.key (resource.fqdn?.getD "") }
  | .deleteVirtualService key =>
    { cluster with virtualServices := cluster.virtualServices.erase key }
  | .deleteService key => { cluster with services := cluster.services.erase key }

/-- The name of the call that lists the resources of a kind. -/
def listName : ResourceKind → String
  | .virtualService => "list_virtual_services"
  | .service => "list_services"

/-- Makes a change. -/
def write (change : ClusterWrite) : Run Unit := do
  note change.name (some change.key)
  modify fun cluster => cluster.perform change

/-- The client of the cluster. It makes changes one after the other. -/
def client : ClusterClient Run where
  listRoutes := do
    note "list_routes" none
    return (← get).routes
  listManaged kind := do
    note (listName kind) none
    let cluster ← get
    match kind with
    | .virtualService => return resources cluster.virtualServices
    | .service => return resources cluster.services
  writeAll changes := changes.forM write

end Rehearsal

end MeshRoutes
