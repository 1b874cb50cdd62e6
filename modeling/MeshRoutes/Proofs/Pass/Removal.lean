import MeshRoutes.Proofs.Pass.Convergence

/-!
# What two passes in succession remove

A pass that succeeds leaves resources of a domain name behind: those it has stored, and those that
were there before and were spared. The next pass, over other routes, removes of them what it neither
compiles nor spares. Which resources the first pass may leave behind is decided by its routes.

* `MayHold`: whether a resource of a domain name may be under a key after a pass that succeeded.
* `Compiled.Preserves`: whether a pass lets a resource of a domain name be there.
* `RemovesNothingOf`: whether a pass over some routes, after one over others, removes nothing of a
  domain name. That is so exactly when it preserves all that the first pass may leave behind
  (`removesNothingOf_iff`).
-/

namespace MeshRoutes

/-- Whether a pass over some routes that succeeds may leave a resource of a domain name under a key:
one that it has stored, or one that it has spared. -/
def MayHold (gateways : List String) (routes : List Route) (fqdn : String) (kind : ResourceKind)
    (key : ObjectKey) : Prop :=
  (∃ change ∈ (compile gateways routes).writes, change.Concerns kind key ∧
    ∃ doc, change.document? = some doc ∧ doc.owner? kind = some fqdn) ∨
  (key ∉ (compile gateways routes).keys kind ∧
    (compile gateways routes).Spares kind { ns := key.ns, name := key.name, fqdn })

/-- Whether a pass lets a resource of a domain name be under a key: it stores one there, or spares
what belongs to the name. -/
def Compiled.Preserves (compiled : Compiled) (fqdn : String) (kind : ResourceKind)
    (key : ObjectKey) : Prop :=
  key ∈ compiled.keys kind ∨ compiled.Spares kind { ns := key.ns, name := key.name, fqdn }

/-- Whether a pass over some routes, right after one over others that succeeded, removes no resource
that belongs to a domain name. -/
def RemovesNothingOf (gateways : List String) (earlier routes : List Route) (fqdn : String) :
    Prop :=
  ∀ (start : ApiServer) (summary : PassSummary) (made : List ClusterWrite)
    (result : Except Failure PassSummary) (made' : List ClusterWrite), start.WellKeyed →
    runPass (concurrentClient earlier) gateways start (.ok summary) made →
    runPass (concurrentClient routes) gateways (start.makeAll made) result made' →
    ∀ kind key doc, ClusterWrite.delete kind key ∈ made' →
      (start.makeAll made).get? kind key = some doc → doc.owner? kind ≠ some fqdn

variable {gateways : List String} {earlier routes : List Route} {compiled : Compiled}
  {server : ApiServer} {made : List ClusterWrite} {plan : PrunePlan} {kind : ResourceKind}
  {key : ObjectKey} {doc : Json} {fqdn : String}

/-! ## One pass -/

/-- Something is removed by a plan that is drawn up once all resources are stored. -/
theorem PassChange.of_delete (change : PassChange compiled server made (.delete kind key)) :
    ∃ (s v : List ClusterWrite) (plan : PrunePlan), compiled.IsApplied s v ∧
      plan.IsDrawnUp compiled (server.makeAll (s ++ v)) ∧
      ∃ resource ∈ plan.removed kind, resource.key = key := by
  cases kind with
  | virtualService =>
    have change : PassChange compiled server made (.deleteVirtualService key) := change
    cases change with
    | deleteVirtualService applied front drawn mem => exact ⟨_, _, _, applied, drawn, _, mem, rfl⟩
  | service =>
    have change : PassChange compiled server made (.deleteService key) := change
    cases change with
    | deleteService applied front drawn all_d mem => exact ⟨_, _, _, applied, drawn, _, mem, rfl⟩

/-- What is removed was there before, belongs to a domain name, and is neither compiled nor
spared. -/
theorem PassProgress.of_delete (progress : PassProgress (compile gateways routes) server made)
    (removed : ClusterWrite.delete kind key ∈ made)
    (isAt : ∀ key doc fqdn, server.get? kind key = some doc → doc.owner? kind = some fqdn →
      doc.IsAt key) :
    key ∉ (compile gateways routes).keys kind ∧ ∃ doc fqdn,
      server.get? kind key = some doc ∧ doc.owner? kind = some fqdn ∧
        ¬(compile gateways routes).Spares kind { ns := key.ns, name := key.name, fqdn } := by
  obtain ⟨s, v, plan, applied, drawn, resource, mem, rfl⟩ := (progress.change removed).of_delete
  obtain ⟨⟨at_key, doc, listed, managed⟩, absent, useless⟩ := drawn.mem_removed.1 mem
  have owner := (managed?_eq_some_iff.1 managed).2.1
  have stored : PassProgress (compile gateways routes) server (s ++ v) :=
    .virtualServices applied.services_perm applied.virtualServices_perm.subperm
  refine ⟨absent, ?_⟩
  rcases stored.get?_eq_some_cases listed with ⟨change, _, write, concerns, left⟩ | before
  · -- what the pass itself has stored has a key to which the routes compile
    obtain ⟨doc', left', own_key, _⟩ := exists_document?_of_mem_writes write
    cases left.symm.trans left'
    rw [key_eq_of_managed? own_key managed, concerns.2] at absent
    exact (absent (Compiled.mem_keys_iff.2 ⟨change, write, concerns⟩)).elim
  · have same := key_eq_of_managed? (isAt _ _ _ before owner) managed
    refine ⟨doc, resource.fqdn, ?_, owner, useless⟩
    rw [same]
    exact before

/-- A resource that is neither compiled nor spared is removed by a pass that makes all its
changes. -/
theorem PassCompletion.delete_mem
    (completion : PassCompletion (compile gateways routes) server plan made)
    (wellKeyed : server.WellKeyed) (found : server.get? kind key = some doc)
    (owner : doc.owner? kind = some fqdn) (absent : key ∉ (compile gateways routes).keys kind)
    (useless : ¬(compile gateways routes).Spares kind { ns := key.ns, name := key.name, fqdn }) :
    ClusterWrite.delete kind key ∈ made := by
  by_contra kept
  have left := (completion.progress.get?_of_not_delete absent kept).trans found
  have keeps := ((completion.get?_other wellKeyed absent doc).1 left).2
  exact useless (keeps fqdn owner)

/-- Under a key to which the routes compile, a pass that has made all its changes leaves one of
their resources. -/
theorem PassCompletion.exists_get?_of_mem_keys
    (completion : PassCompletion (compile gateways routes) server plan made)
    (mem : key ∈ (compile gateways routes).keys kind) :
    ∃ change ∈ (compile gateways routes).writes, change.Concerns kind key ∧
      (server.makeAll made).get? kind key = change.document? := by
  have progress := completion.progress
  obtain ⟨s, v, d, e, applied, drawn, all_d, all_e, rfl⟩ := completion
  obtain ⟨own, own_write, own_concerns⟩ := Compiled.mem_keys_iff.1 mem
  rcases ApiServer.get?_makeAll_cases server (s ++ (v ++ (d ++ e))) kind key with
    ⟨change, change_mem, concerns, left⟩ | ⟨none, _⟩
  · rcases (progress.change change_mem).of_concerns concerns with ⟨_, write⟩ | ⟨absent, _⟩
    · exact ⟨change, write, concerns, left⟩
    · exact (absent mem).elim
  · have own_mem : own ∈ s ++ (v ++ (d ++ e)) := by
      rw [← List.append_assoc]
      exact List.mem_append_left _ (applied.perm_writes.symm.subset own_write)
    exact (none own own_mem own_concerns).elim

/-- What a pass that succeeded has left behind of a domain name, it may have left. -/
theorem PassCompletion.mayHold
    (completion : PassCompletion (compile gateways routes) server plan made)
    (wellKeyed : server.WellKeyed) (found : (server.makeAll made).get? kind key = some doc)
    (owner : doc.owner? kind = some fqdn) : MayHold gateways routes fqdn kind key := by
  by_cases compiles : key ∈ (compile gateways routes).keys kind
  · obtain ⟨change, write, concerns, left⟩ := completion.exists_get?_of_mem_keys compiles
    exact .inl ⟨change, write, concerns, doc, left.symm.trans found, owner⟩
  · have keeps := ((completion.get?_other wellKeyed compiles doc).1 found).2
    exact .inr ⟨compiles, keeps fqdn owner⟩

/-- What a plan does at a place is to remove a resource of the place. -/
theorem PrunePlan.of_mem_writes (plan : PrunePlan) {change : ClusterWrite}
    (mem : change ∈ plan.virtualServiceWrites ++ plan.serviceWrites)
    (concerns : change.Concerns kind key) : ∃ resource ∈ plan.removed kind, resource.key = key := by
  rcases List.mem_append.1 mem with mem | mem
  · obtain ⟨resource, planned, rfl⟩ := List.mem_map.1 mem
    obtain ⟨rfl, rfl⟩ := concerns
    exact ⟨resource, planned, rfl⟩
  · obtain ⟨resource, planned, rfl⟩ := List.mem_map.1 mem
    obtain ⟨rfl, rfl⟩ := concerns
    exact ⟨resource, planned, rfl⟩

/-- Any resource to which routes compile may be stored as the last of its kind, so that it is what a
pass that makes all its changes leaves under its key. -/
theorem ApiServer.Readable.exists_completion_storing (readable : server.Readable)
    {change : ClusterWrite} (write : change ∈ (compile gateways routes).writes) :
    ∃ plan made, PassCompletion (compile gateways routes) server plan made ∧
      (server.makeAll made).get? change.kind change.key = change.document? := by
  -- all is stored, and the resource is there
  obtain ⟨s, v, applied, stored⟩ : ∃ s v, (compile gateways routes).IsApplied s v ∧
      (server.makeAll (s ++ v)).get? change.kind change.key = change.document? := by
    rcases List.mem_append.1 write with mem | mem
    · obtain ⟨rest, all_s⟩ := exists_perm_append_singleton mem
      refine ⟨_, _, ⟨all_s, .refl _⟩, ?_⟩
      rw [ApiServer.makeAll_append, ApiServer.get?_makeAll_of_unconcerned,
        ApiServer.get?_makeAll_append_singleton]
      intro other other_mem concerns
      obtain ⟨_, _, rfl⟩ := List.mem_map.1 mem
      obtain ⟨_, _, rfl⟩ := List.mem_map.1 other_mem
      cases concerns.1
    · obtain ⟨rest, all_v⟩ := exists_perm_append_singleton mem
      refine ⟨_, _, ⟨.refl _, all_v⟩, ?_⟩
      rw [← List.append_assoc, ApiServer.get?_makeAll_append_singleton]
  obtain ⟨plan, drawn⟩ := readable.exists_plan applied
  refine ⟨plan, _, ⟨s, v, _, _, applied, drawn, .refl _, .refl _, rfl⟩, ?_⟩
  have mem : change.key ∈ (compile gateways routes).keys change.kind :=
    Compiled.mem_keys_iff.2 ⟨change, write, rfl, rfl⟩
  rw [← List.append_assoc, ApiServer.makeAll_append, ApiServer.get?_makeAll_of_unconcerned, stored]
  -- what is removed has another key
  intro other other_mem concerns
  obtain ⟨resource, planned, key_eq⟩ := plan.of_mem_writes other_mem concerns
  have absent := (drawn.mem_removed.1 planned).2.1
  rw [key_eq] at absent
  exact absent mem

/-- A virtual service that may be left was compiled for the domain name, or the name is skipped. -/
theorem mayHold_virtualService_iff :
    MayHold gateways routes fqdn .virtualService key ↔
      (∃ resource ∈ (compile gateways routes).virtualServices, resource.metadata.key = key ∧
        resource.fqdn? = some fqdn) ∨
      (key ∉ (compile gateways routes).keys .virtualService ∧
        ∃ skipped ∈ (compile gateways routes).skippedFqdns, skipped.fqdn = fqdn) := by
  refine or_congr ?_ Iff.rfl
  constructor
  · intro written
    obtain ⟨change, write, concerns, doc, left, owner⟩ := written
    rcases Compiled.mem_writes_iff.1 write with ⟨_, _, rfl⟩ | ⟨resource, mem, rfl⟩
    · cases concerns.1
    · cases left
      exact ⟨resource, mem, concerns.2, resource.owner?_toJson.symm.trans owner⟩
  · intro compiled
    obtain ⟨resource, mem, key_eq, serves⟩ := compiled
    exact ⟨.applyVirtualService resource, Compiled.mem_writes_iff.2 (.inr ⟨resource, mem, rfl⟩),
      ⟨rfl, key_eq⟩, _, rfl, resource.owner?_toJson.trans serves⟩

/-- A service that may be left was compiled for a destination of the domain name, or the name or the
destination is skipped. -/
theorem mayHold_service_iff :
    MayHold gateways routes fqdn .service key ↔
      (∃ endpoint : Endpoint routes, endpoint.route.fqdn = fqdn ∧
        (∃ service, serviceFor endpoint.route endpoint.destination = .ok service) ∧
        key = ⟨endpoint.route.namespaceName, serviceName endpoint.destination.guid⟩) ∨
      (key ∉ (compile gateways routes).keys .service ∧
        (compile gateways routes).Spares .service { ns := key.ns, name := key.name, fqdn }) := by
  refine or_congr ?_ Iff.rfl
  constructor
  · intro written
    obtain ⟨change, write, concerns, doc, left, owner⟩ := written
    rcases Compiled.mem_writes_iff.1 write with ⟨service, mem, rfl⟩ | ⟨_, _, rfl⟩
    · cases left
      have own := (isListable_of_mem_services mem).owner?_toJson.symm.trans owner
      obtain ⟨endpoint, compiled⟩ := mem_services_compile.1 mem
      have serves := (fqdn?_of_serviceFor_eq_ok compiled).symm.trans own
      exact ⟨endpoint, Option.some.inj serves, ⟨service, compiled⟩,
        concerns.2.symm.trans (key_of_serviceFor_eq_ok compiled)⟩
    · cases concerns.1
  · intro compiled
    obtain ⟨endpoint, rfl, ⟨service, compiled⟩, rfl⟩ := compiled
    have mem : service ∈ (compile gateways routes).services :=
      mem_services_compile.2 ⟨endpoint, compiled⟩
    have owner := (isListable_of_mem_services mem).owner?_toJson.trans
      (fqdn?_of_serviceFor_eq_ok compiled)
    exact ⟨.applyService service, Compiled.mem_writes_iff.2 (.inl ⟨service, mem, rfl⟩),
      ⟨rfl, key_of_serviceFor_eq_ok compiled⟩, _, rfl, owner⟩

/-! ## A server with one resource -/

/-- A service of a domain name that is not compiled, but labelled like one that is. -/
def bareService (fqdn : String) (key : ObjectKey) : Service where
  metadata := (ResourceMetadata.label { name := key.name, ns := key.ns } routeGuidLabel "").annotate
    routeFqdnAnnotationKey fqdn
  selector := ∅
  ports := []

/-- The storing of a resource of a domain name that serves nothing. -/
def bareWrite (fqdn : String) (key : ObjectKey) : ResourceKind → ClusterWrite
  | .virtualService => .applyVirtualService
    { metadata := ResourceMetadata.annotate { name := key.name, ns := key.ns } fqdnAnnotationKey
        fqdn
      hosts := []
      gateways := []
      http := [] }
  | .service => .applyService (bareService fqdn key)

theorem isListable_bareService (fqdn : String) (key : ObjectKey) :
    (bareService fqdn key).IsListable :=
  ⟨rfl, rfl, "", (SortedMap.get?_insert _ _ _ _).trans (if_pos rfl)⟩

theorem concerns_bareWrite (fqdn : String) (key : ObjectKey) (kind : ResourceKind) :
    (bareWrite fqdn key kind).Concerns kind key := by
  cases kind <;> exact ⟨rfl, rfl⟩

theorem exists_document?_bareWrite (fqdn : String) (key : ObjectKey) (kind : ResourceKind) :
    ∃ doc, (bareWrite fqdn key kind).document? = some doc ∧ doc.IsAt key ∧ IsReadable kind doc ∧
      doc.owner? kind = some fqdn := by
  have annotated (metadata : ResourceMetadata) (name value : String) :
      (metadata.annotate name value).annotations.get? name = some value :=
    (SortedMap.get?_insert _ _ _ _).trans (if_pos rfl)
  cases kind with
  | virtualService =>
    exact ⟨_, rfl, VirtualService.isAt_toJson _, VirtualService.isReadable _,
      (VirtualService.owner?_toJson _).trans (annotated _ _ _)⟩
  | service =>
    have listable := isListable_bareService fqdn key
    exact ⟨_, rfl, Service.isAt_toJson _, listable.isReadable,
      listable.owner?_toJson.trans (annotated _ _ _)⟩

/-- A server may keep a resource of a domain name under any key. -/
theorem exists_server_of_owner (kind : ResourceKind) (key : ObjectKey) (fqdn : String) :
    ∃ (server : ApiServer) (doc : Json), server.WellKeyed ∧ server.Readable ∧
      server.get? kind key = some doc ∧ doc.owner? kind = some fqdn := by
  obtain ⟨doc, left, at_key, readable, owner⟩ := exists_document?_bareWrite fqdn key kind
  have concerns := concerns_bareWrite fqdn key kind
  let server := ({} : ApiServer).make (bareWrite fqdn key kind)
  have only {kind' : ResourceKind} {key' : ObjectKey} {other : Json}
      (found : server.get? kind' key' = some other) : kind' = kind ∧ key' = key ∧ other = doc := by
    rw [ApiServer.get?_make, ApiServer.get?_empty] at found
    obtain ⟨concerns', found⟩ := Option.ite_none_right_eq_some.1 found
    exact ⟨concerns'.1.symm.trans concerns.1, concerns'.2.symm.trans concerns.2,
      Option.some.inj (found.symm.trans left)⟩
  refine ⟨server, doc, fun kind' key' other found => ?_, fun kind' key' other found => ?_, ?_,
    owner⟩
  · obtain ⟨rfl, rfl, rfl⟩ := only found
    exact at_key
  · obtain ⟨rfl, rfl, rfl⟩ := only found
    exact readable
  · rw [ApiServer.get?_make, if_pos concerns, left]

/-! ## Two passes -/

/-- What a pass may leave behind of a domain name, it does leave in some course. -/
theorem MayHold.exists_completion (holds : MayHold gateways routes fqdn kind key) :
    ∃ start plan made doc, start.WellKeyed ∧ start.Readable ∧
      PassCompletion (compile gateways routes) start plan made ∧
      (start.makeAll made).get? kind key = some doc ∧ doc.owner? kind = some fqdn := by
  rcases holds with ⟨change, write, ⟨rfl, rfl⟩, doc, left, owner⟩ | ⟨absent, spared⟩
  · obtain ⟨plan, made, completion, found⟩ :=
      ApiServer.readable_empty.exists_completion_storing write
    exact ⟨{}, plan, made, doc, ApiServer.wellKeyed_empty, ApiServer.readable_empty, completion,
      found.trans left, owner⟩
  · obtain ⟨start, doc, wellKeyed, readable, found, owner⟩ := exists_server_of_owner kind key fqdn
    obtain ⟨plan, made, completion⟩ := readable.exists_completion gateways routes
    have keeps : (compile gateways routes).Keeps kind key doc := by
      intro fqdn' owner'
      cases owner.symm.trans owner'
      exact spared
    have left := (completion.get?_other wellKeyed absent doc).2 ⟨found, keeps⟩
    exact ⟨start, plan, made, doc, wellKeyed, readable, completion, left, owner⟩

/-- Two passes in succession remove nothing of a domain name exactly when the second preserves all
that the first may leave behind. -/
theorem removesNothingOf_iff :
    RemovesNothingOf gateways earlier routes fqdn ↔
      ∀ kind key, MayHold gateways earlier fqdn kind key →
        (compile gateways routes).Preserves fqdn kind key := by
  constructor
  · intro keepsAll kind key holds
    obtain ⟨start, plan, made, doc, wellKeyed, readable, completion, found, owner⟩ :=
      holds.exists_completion
    have readable' := readable.makeAll completion.progress
    have wellKeyed' := wellKeyed.makeAll completion.progress
    obtain ⟨plan', made', completion'⟩ := readable'.exists_completion gateways routes
    by_contra useless
    rw [Compiled.Preserves, not_or] at useless
    have removed := completion'.delete_mem wellKeyed' found owner useless.1 useless.2
    exact keepsAll start _ made _ made' wellKeyed (runPass_of_completion completion)
      (runPass_of_completion completion') kind key doc removed found owner
  · intro kept start _ made _ made' wellKeyed course course' kind key doc removed found owner
    obtain ⟨plan, completion⟩ := completion_of_runPass_ok course
    have wellKeyed' := wellKeyed.makeAll completion.progress
    obtain ⟨absent, doc', fqdn', found', owner', useless⟩ :=
      (progress_of_runPass course').of_delete removed fun key doc fqdn found _ =>
        wellKeyed' kind key doc found
    cases found.symm.trans found'
    cases owner.symm.trans owner'
    rcases kept kind key (completion.mayHold wellKeyed found owner) with compiles | spared
    · exact absent compiles
    · exact useless spared

end MeshRoutes
