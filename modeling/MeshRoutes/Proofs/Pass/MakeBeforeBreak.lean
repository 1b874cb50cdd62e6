import MeshRoutes.Proofs.Compile.TrafficRules
import MeshRoutes.Proofs.Pass.Course

/-!
# Make before break

A pass may fail at any call, and the changes of a phase take effect in any order. In every state on
the way, the services behind a virtual service that has been stored are there, and no service is
gone while a virtual service that is to be removed may still refer to it.

* `ApiServer.Backs`: whether the services behind a virtual service are stored.
* `IsPlanOf`: the plan of a pass.
* `MakesBeforeBreaking`: what holds in every state of a pass.
-/

namespace MeshRoutes

variable {routes : List Route} {gateways : List String} {compiled : Compiled}
  {server : ApiServer} {made : List ClusterWrite} {plan : PrunePlan}

/-- Whether each backend of a virtual service has a service of its name in the namespace, one to
which the routes compile. Those of skipped destinations need none. -/
def ApiServer.Backs (server : ApiServer) (compiled : Compiled) (resource : VirtualService) : Prop :=
  ∀ host ∈ resource.backendHosts,
    (∃ service ∈ compiled.services, service.metadata.key = ⟨resource.metadata.ns, host⟩ ∧
        server.get? .service ⟨resource.metadata.ns, host⟩ = some service.toJson) ∨
      ∃ skipped ∈ compiled.skippedDestinations, serviceName skipped.destination = host

/-- Whether a plan is the one of a pass, which is drawn up once all resources are stored. -/
def IsPlanOf (compiled : Compiled) (server : ApiServer) (made : List ClusterWrite)
    (plan : PrunePlan) : Prop :=
  ∃ s v, compiled.IsApplied s v ∧ s ++ v <+: made ∧
    plan.IsDrawnUp compiled (server.makeAll (s ++ v))

/-! ## Services -/

/-- A service that has been stored stays: a plan has no service to which the routes compile. -/
theorem PassProgress.exists_get?_service (progress : PassProgress compiled server made)
    {service : Service} (written : ClusterWrite.applyService service ∈ made) :
    ∃ stored ∈ compiled.services, stored.metadata.key = service.metadata.key ∧
      (server.makeAll made).get? .service service.metadata.key = some stored.toJson := by
  have key_mem : service.metadata.key ∈ compiled.keys .service := by
    cases progress.change written with
    | applyService mem => exact List.mem_map_of_mem mem
  rcases ApiServer.get?_makeAll_cases server made .service service.metadata.key with
    ⟨change, change_mem, concerns, left⟩ | ⟨none, _⟩
  · rcases (progress.change change_mem).of_concerns concerns with ⟨_, write⟩ | ⟨absent, _⟩
    · rcases Compiled.mem_writes_iff.1 write with ⟨stored, stored_mem, rfl⟩ | ⟨resource, _, rfl⟩
      · exact ⟨stored, stored_mem, concerns.2, left⟩
      · cases concerns.1
    · exact (absent key_mem).elim
  · exact (none _ written ⟨rfl, rfl⟩).elim

/-- Once a virtual service has been stored, all services have been, so that its backends have
theirs. -/
theorem PassProgress.backs (progress : PassProgress (compile gateways routes) server made)
    {resource : VirtualService} (written : ClusterWrite.applyVirtualService resource ∈ made) :
    (server.makeAll made).Backs (compile gateways routes) resource := by
  cases progress.change written with
  | applyVirtualService mem services =>
    obtain ⟨group, _, compiled⟩ := mem_virtualServices_compile.1 mem
    intro host host_mem
    obtain ⟨endpoint, _, namespace_eq, rfl⟩ := (group.compiles compiled).exists_endpoint host_mem
    rw [← namespace_eq]
    rcases endpoint.exists_service_or_skipped gateways with
      ⟨service, service_mem, key, _⟩ | ⟨skipped, skipped_mem, guid⟩
    · obtain ⟨stored, stored_mem, stored_key, found⟩ :=
        progress.exists_get?_service (services service service_mem)
      rw [key] at stored_key found
      exact .inl ⟨stored, stored_mem, stored_key, found⟩
    · exact .inr ⟨skipped, skipped_mem, congrArg serviceName guid⟩

/-! ## The plan -/

theorem IsPlanOf.of_prefix {state : List ClusterWrite} (h : IsPlanOf compiled server state plan)
    (front : state <+: made) : IsPlanOf compiled server made plan := by
  obtain ⟨s, v, applied, state_front, drawn⟩ := h
  exact ⟨s, v, applied, state_front.trans front, drawn⟩

/-- A pass has one plan. -/
theorem IsPlanOf.unique {other : PrunePlan} (h : IsPlanOf compiled server made plan)
    (h' : IsPlanOf compiled server made other) : plan = other := by
  obtain ⟨s, v, applied, front, drawn⟩ := h
  obtain ⟨s', v', applied', front', drawn'⟩ := h'
  have length : (s ++ v).length = (s' ++ v').length :=
    applied.perm_writes.length_eq.trans applied'.perm_writes.length_eq.symm
  have same : s ++ v = s' ++ v' :=
    (List.prefix_of_prefix_length_le front front' length.le).eq_of_length length
  rw [← same] at drawn'
  exact drawn.unique drawn'

/-- A service is removed by the plan of the pass, when everything else has been done. -/
theorem PassProgress.of_deleteService (progress : PassProgress compiled server made)
    {key : ObjectKey} (removed : ClusterWrite.deleteService key ∈ made) :
    ∃ plan, IsPlanOf compiled server made plan ∧ (∃ resource ∈ plan.services, resource.key = key) ∧
      (∀ resource ∈ compiled.virtualServices, ClusterWrite.applyVirtualService resource ∈ made) ∧
      ∀ resource ∈ plan.virtualServices,
        (server.makeAll made).get? .virtualService resource.key = none := by
  cases progress.change removed with
  | @deleteService s v d plan resource applied front drawn all_d mem =>
    have front_v : s ++ v <+: made :=
      ((List.prefix_append_right_inj s).2 (List.prefix_append v d)).trans front
    refine ⟨plan, ⟨s, v, applied, front_v, drawn⟩, ⟨resource, mem, rfl⟩, ?_, ?_⟩
    · intro written written_mem
      refine front_v.subset (List.mem_append_right _ ?_)
      exact applied.virtualServices_perm.symm.subset (List.mem_map_of_mem written_mem)
    · intro stale stale_mem
      refine progress.get?_of_delete (front.subset ?_)
      refine List.mem_append_right _ (List.mem_append_right _ ?_)
      exact all_d.symm.subset (List.mem_map_of_mem stale_mem)

/-! ## Every state of a pass -/

/-- What holds in a state of a pass, in which some of its changes have been made. Once a virtual
service has been stored, its backends have their services, in that state and in every later one.
Once a service has been removed, it was planned to be, all virtual services have been stored, and no
virtual service of the plan is left. -/
structure MakesBeforeBreaking (compiled : Compiled) (server : ApiServer)
    (made state : List ClusterWrite) : Prop where
  backs : ∀ resource, ClusterWrite.applyVirtualService resource ∈ state →
    ∀ later, state <+: later → later <+: made → (server.makeAll later).Backs compiled resource
  planned : ∀ key, ClusterWrite.deleteService key ∈ state →
    ∃ plan, IsPlanOf compiled server made plan ∧ ∃ resource ∈ plan.services, resource.key = key
  stored : ∀ key, ClusterWrite.deleteService key ∈ state →
    ∀ resource ∈ compiled.virtualServices, ClusterWrite.applyVirtualService resource ∈ state
  gone : ∀ key, ClusterWrite.deleteService key ∈ state → ∀ plan, IsPlanOf compiled server made plan →
    ∀ resource ∈ plan.virtualServices,
      (server.makeAll state).get? .virtualService resource.key = none

/-- Every state of a pass is safe, in whatever order changes take effect and wherever it fails. -/
theorem make_before_break {result : Except Failure PassSummary}
    (course : runPass (concurrentClient routes) gateways server result made)
    {state : List ClusterWrite} (front : state <+: made) :
    MakesBeforeBreaking (compile gateways routes) server made state := by
  have progress := progress_of_runPass course
  have state_progress := progress.of_prefix front
  refine ⟨fun resource written later later_front front' => ?_, fun key removed => ?_,
    fun key removed => ?_, fun key removed other isPlan => ?_⟩
  · exact (progress.of_prefix front').backs (later_front.subset written)
  · obtain ⟨plan, isPlan, planned, _⟩ := state_progress.of_deleteService removed
    exact ⟨plan, isPlan.of_prefix front, planned⟩
  · obtain ⟨_, _, _, stored, _⟩ := state_progress.of_deleteService removed
    exact stored
  · obtain ⟨plan, isPlan', _, _, gone⟩ := state_progress.of_deleteService removed
    rw [isPlan.unique (isPlan'.of_prefix front)]
    exact gone

/-- A first pass that ends when it has stored a virtual service. -/
theorem make_before_break_in_first_pass :
    let compiled := compile [] [plainRoute "a" "d-0" none]
    ∃ made, runPass (concurrentClient [plainRoute "a" "d-0" none]) [] {} (.error (.cluster none))
        made ∧ made <+: made ∧ (∃ resource, ClusterWrite.applyVirtualService resource ∈ made) ∧
      MakesBeforeBreaking compiled {} made made := by
  intro compiled
  have progress : PassProgress compiled {} _ :=
    .virtualServices (.refl compiled.serviceWrites) (.refl compiled.virtualServiceWrites)
  have course := runPass_of_progress (.cluster none) progress
  obtain ⟨resource, served⟩ := exists_compile_single_plainRoute [] "a" "d-0"
  have mem := (mem_virtualServices_compile_single rfl).2 served
  exact ⟨_, course, List.prefix_rfl, ⟨resource, List.mem_append_right _ (List.mem_map_of_mem mem)⟩,
    make_before_break course List.prefix_rfl⟩

end MeshRoutes
