import MeshRoutes.Proofs.Pass.Managed

/-!
# Convergence

A pass that succeeds leaves a server in a state that depends on the routes and on what was there,
but not on the order in which changes took effect. Whatever earlier passes have left behind, also
those that failed halfway, is brought in step with the routes.

* `Settles`: what a server looks like after a pass that succeeded.
* `Settles.unique`: there is only one such state.
* `PassCompletion.settles`: after a pass that has made all its changes it looks so.
-/

namespace MeshRoutes

variable {routes : List Route} {gateways : List String} {compiled : Compiled}
  {server : ApiServer} {made : List ClusterWrite} {plan : PrunePlan} {kind : ResourceKind}
  {key : ObjectKey}

/-- Whether a pass leaves a document alone to whose key the routes do not compile: it belongs to no
domain name, or to one that is skipped. -/
def Compiled.Keeps (compiled : Compiled) (kind : ResourceKind) (key : ObjectKey) (doc : Json) :
    Prop :=
  ∀ fqdn, doc.owner? kind = some fqdn →
    compiled.Spares kind { ns := key.ns, name := key.name, fqdn }

/-- What a server looks like after a pass that succeeded. Under their keys are the virtual services
and the services to which the routes compile, under another key is what was there before if the pass
leaves it alone, and nothing else changes. -/
structure Settles (compiled : Compiled) (before after : ApiServer) : Prop where
  virtualServices : ∀ resource ∈ compiled.virtualServices,
    after.get? .virtualService resource.metadata.key = some resource.toJson
  services : ∀ service ∈ compiled.services,
    after.get? .service service.metadata.key = some service.toJson
  others : ∀ kind key, key ∉ compiled.keys kind → ∀ doc, after.get? kind key = some doc ↔
    before.get? kind key = some doc ∧ compiled.Keeps kind key doc
  surroundings : after.surroundings = before.surroundings

/-- There is one state in which a server can be settled. -/
theorem Settles.unique {before a b : ApiServer} (settles_a : Settles compiled before a)
    (settles_b : Settles compiled before b) : a = b := by
  refine ApiServer.ext_get? (settles_a.surroundings.trans settles_b.surroundings.symm)
    fun kind key => ?_
  by_cases written : key ∈ compiled.keys kind
  · cases kind with
    | virtualService =>
      obtain ⟨resource, mem, rfl⟩ := List.mem_map.1 written
      rw [settles_a.virtualServices resource mem, settles_b.virtualServices resource mem]
    | service =>
      obtain ⟨service, mem, rfl⟩ := List.mem_map.1 written
      rw [settles_a.services service mem, settles_b.services service mem]
  · refine Option.ext fun doc => ?_
    rw [settles_a.others kind key written, settles_b.others kind key written]

/-! ## Keys to which the routes compile -/

/-- Where one resource is stored under a key to which the routes compile, it stays there. -/
theorem PassCompletion.get?_of_write (completion : PassCompletion compiled server plan made)
    {change : ClusterWrite} (mem : change ∈ compiled.writes)
    (alone : ∀ other ∈ compiled.writes, other.Concerns change.kind change.key → other = change) :
    (server.makeAll made).get? change.kind change.key = change.document? := by
  have progress := completion.progress
  obtain ⟨s, v, d, e, applied, drawn, all_d, all_e, rfl⟩ := completion
  have change_mem : change ∈ s ++ (v ++ (d ++ e)) := by
    have stored := applied.perm_writes.symm.subset mem
    rw [← List.append_assoc]
    exact List.mem_append_left _ stored
  refine ApiServer.get?_makeAll_of_agree ⟨change, change_mem, rfl, rfl⟩ ?_
  intro other other_mem concerns
  rcases (progress.change other_mem).of_concerns concerns with ⟨_, write⟩ | ⟨absent, _⟩
  · rw [alone other write concerns]
  · exact (absent (Compiled.mem_keys_iff.2 ⟨change, mem, rfl, rfl⟩)).elim

/-! ## Other keys -/

/-- What a pass with all its changes has removed, by its plan. -/
theorem delete_mem_iff {s v d e : List ClusterWrite} (applied : compiled.IsApplied s v)
    (all_d : d.Perm plan.virtualServiceWrites) (all_e : e.Perm plan.serviceWrites) :
    ClusterWrite.delete kind key ∈ s ++ (v ++ (d ++ e)) ↔
      ∃ resource ∈ plan.removed kind, resource.key = key := by
  have not_stored : ClusterWrite.delete kind key ∉ s ++ v := fun mem =>
    Compiled.delete_not_mem_writes (applied.perm_writes.subset mem)
  rw [← List.append_assoc, List.mem_append, or_iff_right not_stored, List.mem_append,
    all_d.mem_iff, all_e.mem_iff]
  cases kind with
  | virtualService =>
    simp [PrunePlan.virtualServiceWrites, PrunePlan.serviceWrites, ClusterWrite.delete,
      PrunePlan.removed]
  | service =>
    simp [PrunePlan.virtualServiceWrites, PrunePlan.serviceWrites, ClusterWrite.delete,
      PrunePlan.removed]

/-- Under a key to which the routes do not compile stays what the pass leaves alone. -/
theorem PassCompletion.get?_other
    (completion : PassCompletion (compile gateways routes) server plan made)
    (wellKeyed : server.WellKeyed) (absent : key ∉ (compile gateways routes).keys kind) (doc : Json) :
    (server.makeAll made).get? kind key = some doc ↔
      server.get? kind key = some doc ∧ (compile gateways routes).Keeps kind key doc := by
  have progress := completion.progress
  obtain ⟨s, v, d, e, applied, drawn, all_d, all_e, rfl⟩ := completion
  have removed_iff := @delete_mem_iff _ _ kind key _ _ _ _ applied all_d all_e
  -- the plan is drawn up from a server on which nothing has changed under the key
  have stored : PassProgress (compile gateways routes) server (s ++ v) :=
    .virtualServices applied.services_perm applied.virtualServices_perm.subperm
  have listed : (server.makeAll (s ++ v)).get? kind key = server.get? kind key :=
    stored.get?_of_not_delete absent fun mem =>
      Compiled.delete_not_mem_writes (applied.perm_writes.subset mem)
  by_cases gone : ClusterWrite.delete kind key ∈ s ++ (v ++ (d ++ e))
  · rw [progress.get?_of_delete gone]
    refine iff_of_false (fun none => by cases none) ?_
    intro stays
    rcases stays with ⟨found, keeps⟩
    obtain ⟨resource, mem, rfl⟩ := removed_iff.1 gone
    obtain ⟨⟨key, doc', found', managed⟩, _, useless⟩ := drawn.mem_removed.1 mem
    obtain rfl := key_eq_of_managed? ((wellKeyed.makeAll stored) _ _ _ found') managed
    cases (found.symm.trans listed.symm).trans found'
    exact useless (keeps _ (managed?_eq_some_iff.1 managed).2.1)
  · rw [progress.get?_of_not_delete absent gone]
    refine ⟨fun found => ⟨found, fun fqdn owner => ?_⟩, And.left⟩
    by_contra useless
    have managed := drawn.managed?_of_owner? (listed.trans found) (wellKeyed _ _ _ found) owner
    exact gone (removed_iff.2 ⟨_, drawn.mem_removed.2
      ⟨⟨_, doc, listed.trans found, managed⟩, absent, useless⟩, rfl⟩)

/-! ## The state after a pass -/

/-- A pass that has made all its changes settles the server. -/
theorem PassCompletion.settles (guids : (destinationGuids routes).Nodup)
    (digests : ∀ a ∈ routes, ∀ b ∈ routes, Sha256.hex a.fqdn = Sha256.hex b.fqdn → a.fqdn = b.fqdn)
    (wellKeyed : server.WellKeyed)
    (completion : PassCompletion (compile gateways routes) server plan made) :
    Settles (compile gateways routes) server (server.makeAll made) := by
  refine ⟨fun resource mem => ?_, fun service mem => ?_, fun kind key => completion.get?_other
    wellKeyed, ApiServer.surroundings_makeAll _ _⟩
  · have write := Compiled.mem_writes_iff.2 (.inr ⟨resource, mem, rfl⟩)
    refine completion.get?_of_write write fun other other_mem concerns => ?_
    rcases Compiled.mem_writes_iff.1 other_mem with ⟨_, _, rfl⟩ | ⟨resource', mem', rfl⟩
    · cases concerns.1
    · rw [virtualService_eq_of_key_eq digests mem' mem concerns.2]
  · have write := Compiled.mem_writes_iff.2 (.inl ⟨service, mem, rfl⟩)
    refine completion.get?_of_write write fun other other_mem concerns => ?_
    rcases Compiled.mem_writes_iff.1 other_mem with ⟨service', mem', rfl⟩ | ⟨_, _, rfl⟩
    · rw [service_eq_of_key_eq guids mem' mem concerns.2]
    · cases concerns.1

/-- Whatever was there before, a pass that succeeds settles the server, and all its courses end in
the same state. -/
theorem pass_settles (guids : (destinationGuids routes).Nodup)
    (digests : ∀ a ∈ routes, ∀ b ∈ routes, Sha256.hex a.fqdn = Sha256.hex b.fqdn → a.fqdn = b.fqdn)
    (wellKeyed : server.WellKeyed) {summary : PassSummary}
    (course : runPass (concurrentClient routes) gateways server (.ok summary) made) :
    Settles (compile gateways routes) server (server.makeAll made) ∧
      ∀ summary' made', runPass (concurrentClient routes) gateways server (.ok summary') made' →
        server.makeAll made' = server.makeAll made := by
  obtain ⟨plan, completion⟩ := completion_of_runPass_ok course
  have settles := completion.settles guids digests wellKeyed
  refine ⟨settles, fun summary' made' course' => ?_⟩
  obtain ⟨plan', completion'⟩ := completion_of_runPass_ok course'
  exact (completion'.settles guids digests wellKeyed).unique settles

/-- A pass settles a server on which one that failed halfway has left a service. -/
theorem pass_settles_after_failure :
    let routes := [plainRoute "a" "d-0" none]
    let server := ({} : ApiServer).makeAll (compile [] [plainRoute "b" "d-1" none]).serviceWrites
    (destinationGuids routes).Nodup ∧
      (∀ a ∈ routes, ∀ b ∈ routes, Sha256.hex a.fqdn = Sha256.hex b.fqdn → a.fqdn = b.fqdn) ∧
      server.WellKeyed ∧ ∃ summary made,
        runPass (concurrentClient routes) [] server (.ok summary) made ∧
        Settles (compile [] routes) server (server.makeAll made) := by
  intro routes server
  have guids : (destinationGuids routes).Nodup := by decide
  have digests : ∀ a ∈ routes, ∀ b ∈ routes,
      Sha256.hex a.fqdn = Sha256.hex b.fqdn → a.fqdn = b.fqdn := by
    intro a a_mem b b_mem _
    rw [List.mem_singleton.1 a_mem, List.mem_singleton.1 b_mem]
  have failed : PassProgress (compile [] [plainRoute "b" "d-1" none]) {} _ := .services (.refl _)
  have wellKeyed : server.WellKeyed := ApiServer.wellKeyed_empty.makeAll failed
  have readable : server.Readable := ApiServer.readable_empty.makeAll failed
  obtain ⟨plan, made, completion⟩ := readable.exists_completion [] routes
  have course := runPass_of_completion completion
  exact ⟨guids, digests, wellKeyed, _, made, course, (pass_settles guids digests wellKeyed course).1⟩

end MeshRoutes
