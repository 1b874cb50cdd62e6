import MeshRoutes.Proofs.Compile.TrafficRules
import MeshRoutes.Proofs.Pass.Course

/-!
# What a pass stores is managed

A pass knows what earlier passes have made by labels and annotations. Those that are written when a
resource is compiled are those that are looked for, so each compiled resource is found again, under
its own key and with the domain name that it was compiled for.

* `owner?_of_mem_virtualServices`, `owner?_of_mem_services`: compiled resources have an owner.
* `ApiServer.WellKeyed`: objects are kept under their own keys, which a pass does not change.
-/

namespace MeshRoutes

variable {gateways : List String} {routes : List Route} {server : ApiServer}
  {made : List ClusterWrite} {change : ClusterWrite}

theorem isListable_of_mem_services {service : Service}
    (mem : service ∈ (compile gateways routes).services) : service.IsListable := by
  obtain ⟨endpoint, compiled⟩ := mem_services_compile.1 mem
  have label := label_of_serviceFor_eq_ok compiled
  obtain ⟨port, _, done⟩ := bind_eq_ok_iff.1 compiled
  cases done
  exact ⟨rfl, rfl, _, label⟩

/-- A compiled service belongs to the domain name of a route. -/
theorem owner?_of_mem_services {service : Service}
    (mem : service ∈ (compile gateways routes).services) :
    ∃ fqdn, service.fqdn? = some fqdn ∧ service.toJson.owner? .service = some fqdn := by
  obtain ⟨endpoint, compiled⟩ := mem_services_compile.1 mem
  have fqdn := fqdn?_of_serviceFor_eq_ok compiled
  exact ⟨_, fqdn, (isListable_of_mem_services mem).owner?_toJson.trans fqdn⟩

/-- A compiled virtual service belongs to the domain name that it serves. -/
theorem owner?_of_mem_virtualServices {resource : VirtualService}
    (mem : resource ∈ (compile gateways routes).virtualServices) :
    ∃ fqdn, resource.fqdn? = some fqdn ∧
      resource.toJson.owner? .virtualService = some fqdn := by
  obtain ⟨group, _, compiled⟩ := mem_virtualServices_compile.1 mem
  have fqdn := (group.compiles compiled).fqdn?_eq
  exact ⟨_, fqdn, resource.owner?_toJson.trans fqdn⟩

/-- What is stored for a compiled resource gives itself the key under which it is stored, can be
read again and belongs to a domain name. -/
theorem exists_document?_of_mem_writes (write : change ∈ (compile gateways routes).writes) :
    ∃ doc, change.document? = some doc ∧ doc.IsAt change.key ∧ IsReadable change.kind doc ∧
      ∃ fqdn, doc.owner? change.kind = some fqdn := by
  rcases Compiled.mem_writes_iff.1 write with ⟨service, mem, rfl⟩ | ⟨resource, mem, rfl⟩
  · obtain ⟨fqdn, _, owner⟩ := owner?_of_mem_services mem
    exact ⟨_, rfl, service.isAt_toJson, (isListable_of_mem_services mem).isReadable, fqdn, owner⟩
  · obtain ⟨fqdn, _, owner⟩ := owner?_of_mem_virtualServices mem
    exact ⟨_, rfl, resource.isAt_toJson, resource.isReadable, fqdn, owner⟩

/-- What a server keeps after some changes of a pass has been stored by it, or was there before. -/
theorem PassProgress.get?_eq_some_cases
    (progress : PassProgress (compile gateways routes) server made) {kind : ResourceKind}
    {key : ObjectKey} {doc : Json} (found : (server.makeAll made).get? kind key = some doc) :
    (∃ change ∈ made, change ∈ (compile gateways routes).writes ∧ change.Concerns kind key ∧
      change.document? = some doc) ∨ server.get? kind key = some doc := by
  rcases ApiServer.get?_makeAll_cases server made kind key with
    ⟨change, mem, concerns, left⟩ | ⟨_, left⟩
  · rw [found] at left
    rcases (progress.change mem).of_concerns concerns with ⟨_, write⟩ | ⟨_, rfl⟩
    · exact .inl ⟨change, mem, write, concerns, left.symm⟩
    · rw [ClusterWrite.document?_delete] at left
      cases left
  · exact .inr (left.symm.trans found)

/-! ## Keys -/

namespace ApiServer

/-- Whether the objects of a server are kept under their own keys. -/
def WellKeyed (server : ApiServer) : Prop :=
  ∀ kind key doc, server.get? kind key = some doc → doc.IsAt key

theorem get?_empty (kind : ResourceKind) (key : ObjectKey) :
    ({} : ApiServer).get? kind key = none := by
  cases kind <;> rfl

theorem wellKeyed_empty : ({} : ApiServer).WellKeyed := by
  intro kind key doc found
  rw [get?_empty] at found
  cases found

/-- A pass keeps objects under their own keys. -/
theorem WellKeyed.makeAll (wellKeyed : server.WellKeyed)
    (progress : PassProgress (compile gateways routes) server made) :
    (server.makeAll made).WellKeyed := by
  intro kind key doc found
  rcases progress.get?_eq_some_cases found with ⟨change, _, write, ⟨rfl, rfl⟩, left⟩ | before
  · obtain ⟨doc', left', at_key, _⟩ := exists_document?_of_mem_writes write
    cases left.symm.trans left'
    exact at_key
  · exact wellKeyed kind key doc before

/-- Whether all objects of a server can be read, so that it can be listed. -/
def Readable (server : ApiServer) : Prop :=
  ∀ kind key doc, server.get? kind key = some doc → IsReadable kind doc

theorem readable_empty : ({} : ApiServer).Readable := by
  intro kind key doc found
  rw [get?_empty] at found
  cases found

/-- A pass stores what can be read. -/
theorem Readable.makeAll (readable : server.Readable)
    (progress : PassProgress (compile gateways routes) server made) :
    (server.makeAll made).Readable := by
  intro kind key doc found
  rcases progress.get?_eq_some_cases found with ⟨change, _, write, ⟨rfl, rfl⟩, left⟩ | before
  · obtain ⟨doc', left', _, readable', _⟩ := exists_document?_of_mem_writes write
    cases left.symm.trans left'
    exact readable'
  · exact readable kind key doc before

/-- Where all objects can be read, a plan is drawn up when all resources are stored. -/
theorem Readable.exists_plan (readable : server.Readable) {s v : List ClusterWrite}
    (applied : (compile gateways routes).IsApplied s v) :
    ∃ plan : PrunePlan, plan.IsDrawnUp (compile gateways routes) (server.makeAll (s ++ v)) := by
  have stored : PassProgress (compile gateways routes) server (s ++ v) :=
    .virtualServices applied.services_perm applied.virtualServices_perm.subperm
  have readable := readable.makeAll stored
  obtain ⟨virtualServices, listed_v⟩ := exists_listed_eq_ok (readable .virtualService)
  obtain ⟨services, listed_s⟩ := exists_listed_eq_ok (readable .service)
  exact ⟨_, virtualServices, services, listed_v, listed_s, rfl⟩

/-- Where all objects can be read, a pass may make all its changes. -/
theorem Readable.exists_completion (readable : server.Readable) (gateways : List String)
    (routes : List Route) :
    ∃ plan made, PassCompletion (compile gateways routes) server plan made := by
  have applied : (compile gateways routes).IsApplied _ _ := ⟨.refl _, .refl _⟩
  obtain ⟨plan, drawn⟩ := readable.exists_plan applied
  exact ⟨plan, _, _, _, _, _, applied, drawn, .refl _, .refl _, rfl⟩

end ApiServer

end MeshRoutes
