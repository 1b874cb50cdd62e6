import MeshRoutes.Pass.Basic
import MeshRoutes.Proofs.Cluster.Listing

/-!
# What a plan removes

A plan is drawn up from what a server lists after the resources of a pass are stored. It removes of
the managed resources those to which the routes do not compile, unless what they belong to is
skipped. This is the same for both kinds of resources, so it is said once for any kind.

* `Compiled.keys`, `Compiled.Spares`: the keys to which routes compile, and what is left alone.
* `PrunePlan.IsDrawnUp`: whether a plan is the one that is made from the lists of a server.
* `PrunePlan.IsDrawnUp.mem_removed`: what it removes.
-/

namespace MeshRoutes

/-- The keys of the resources of a kind to which routes compile. -/
def Compiled.keys (compiled : Compiled) : ResourceKind → List ObjectKey
  | .virtualService => compiled.virtualServices.map (·.metadata.key)
  | .service => compiled.services.map (·.metadata.key)

/-- Whether a managed resource belongs to a domain name that is skipped. A service may also stand
for a destination that is skipped. -/
def Compiled.Spares (compiled : Compiled) : ResourceKind → ManagedResource → Prop
  | .virtualService, resource => ∃ skipped ∈ compiled.skippedFqdns, skipped.fqdn = resource.fqdn
  | .service, resource => (∃ skipped ∈ compiled.skippedFqdns, skipped.fqdn = resource.fqdn) ∨
      ∃ skipped ∈ compiled.skippedDestinations, serviceName skipped.destination = resource.name

namespace PrunePlan

/-- The resources of a kind that are removed. -/
def removed (plan : PrunePlan) : ResourceKind → List ManagedResource
  | .virtualService => plan.virtualServices
  | .service => plan.services

/-- Whether a plan is the one that is made from what a server lists. -/
def IsDrawnUp (compiled : Compiled) (server : ApiServer) (plan : PrunePlan) : Prop :=
  ∃ virtualServices services, server.listed .virtualService = .ok virtualServices ∧
    server.listed .service = .ok services ∧ plan = PrunePlan.of compiled virtualServices services

variable {compiled : Compiled} {server : ApiServer} {plan : PrunePlan} {kind : ResourceKind}
  {resource : ManagedResource}

theorem isStaleVirtualService_iff :
    isStaleVirtualService compiled resource = true ↔
      resource.key ∉ compiled.keys .virtualService ∧ ¬compiled.Spares .virtualService resource := by
  simp [isStaleVirtualService, Compiled.keys, Compiled.Spares]

theorem isStaleService_iff :
    isStaleService compiled resource = true ↔
      resource.key ∉ compiled.keys .service ∧ ¬compiled.Spares .service resource := by
  simp [isStaleService, Compiled.keys, Compiled.Spares, and_assoc, and_comm]

/-- The plan removes what is stored and managed, unless the routes compile to it or it is spared. -/
theorem IsDrawnUp.mem_removed (drawn : plan.IsDrawnUp compiled server) :
    resource ∈ plan.removed kind ↔
      (∃ key doc, server.get? kind key = some doc ∧ managed? kind doc = some resource) ∧
        resource.key ∉ compiled.keys kind ∧ ¬compiled.Spares kind resource := by
  obtain ⟨virtualServices, services, listed_v, listed_s, rfl⟩ := drawn
  cases kind with
  | virtualService =>
    rw [removed, PrunePlan.of, List.mem_mergeSort, List.mem_filter,
      ApiServer.mem_of_listed_eq_ok listed_v, isStaleVirtualService_iff]
  | service =>
    rw [removed, PrunePlan.of, List.mem_mergeSort, List.mem_filter,
      ApiServer.mem_of_listed_eq_ok listed_s, isStaleService_iff]

/-- Where a plan could be drawn up, what says that it belongs to a domain name is managed. -/
theorem IsDrawnUp.managed?_of_owner? (drawn : plan.IsDrawnUp compiled server) {key : ObjectKey}
    {doc : Json} {fqdn : String} (stored : server.get? kind key = some doc) (at_key : doc.IsAt key)
    (owner : doc.owner? kind = some fqdn) :
    managed? kind doc = some { ns := key.ns, name := key.name, fqdn } := by
  obtain ⟨virtualServices, services, listed_v, listed_s, rfl⟩ := drawn
  cases kind with
  | virtualService =>
    have readable := ApiServer.isReadable_of_listed_eq_ok listed_v stored rfl
    exact MeshRoutes.managed?_of_owner? readable at_key owner
  | service =>
    have readable := ApiServer.isReadable_of_listed_eq_ok listed_s stored (lists_of_owner? owner)
    exact MeshRoutes.managed?_of_owner? readable at_key owner

/-- What is listed decides the plan. -/
theorem IsDrawnUp.unique {other : PrunePlan} (drawn : plan.IsDrawnUp compiled server)
    (drawn' : other.IsDrawnUp compiled server) : plan = other := by
  obtain ⟨virtualServices, services, listed_v, listed_s, rfl⟩ := drawn
  obtain ⟨virtualServices', services', listed_v', listed_s', rfl⟩ := drawn'
  cases listed_v.symm.trans listed_v'
  cases listed_s.symm.trans listed_s'
  rfl

end PrunePlan

/-! ## Changes of a pass -/

/-- The storing of all resources to which routes compile. -/
def Compiled.writes (compiled : Compiled) : List ClusterWrite :=
  compiled.serviceWrites ++ compiled.virtualServiceWrites

/-- The removal of a resource of a kind. -/
def ClusterWrite.delete : ResourceKind → ObjectKey → ClusterWrite
  | .virtualService, key => .deleteVirtualService key
  | .service, key => .deleteService key

variable {compiled : Compiled} {kind : ResourceKind} {key : ObjectKey} {change : ClusterWrite}

@[simp] theorem ClusterWrite.concerns_delete : (ClusterWrite.delete kind key).Concerns kind key := by
  cases kind <;> exact ⟨rfl, rfl⟩

@[simp] theorem ClusterWrite.document?_delete : (ClusterWrite.delete kind key).document? = none := by
  cases kind <;> rfl

theorem Compiled.mem_writes_iff :
    change ∈ compiled.writes ↔ (∃ service ∈ compiled.services, .applyService service = change) ∨
      ∃ resource ∈ compiled.virtualServices, .applyVirtualService resource = change := by
  rw [writes, List.mem_append, serviceWrites, List.mem_map, virtualServiceWrites, List.mem_map]

theorem Compiled.delete_not_mem_writes : ClusterWrite.delete kind key ∉ compiled.writes := by
  cases kind <;> simp [writes, serviceWrites, virtualServiceWrites, ClusterWrite.delete]

/-- Under a key to which routes compile, some resource is stored. -/
theorem Compiled.mem_keys_iff :
    key ∈ compiled.keys kind ↔ ∃ change ∈ compiled.writes, change.Concerns kind key := by
  cases kind <;>
    simp [keys, writes, serviceWrites, virtualServiceWrites, or_and_right, exists_or,
      ClusterWrite.Concerns, ClusterWrite.kind, ClusterWrite.key]

end MeshRoutes
