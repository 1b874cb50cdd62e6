import Mathlib.Data.List.Perm.Subperm
import MeshRoutes.Pass.Basic
import MeshRoutes.Proofs.Pass.Plan

/-!
# Courses of a pass

The changes of one phase of a pass wait for no other, so they take effect in any order. When one of
them fails the pass ends, and any of the others may have taken effect or not. A course of a pass is
one way in which all this may go: from a server, to a result, with the changes that are made, in the
order in which they are.

* `Course`: the ways a computation may go, as a monad; `concurrentClient` is the client in it.
* `PassProgress`: how far a pass may get. Every earlier state of a pass is one in which it might
  have ended as well (`PassProgress.of_prefix`).
* `runPass_cases`, `runPass_of_progress`, `runPass_of_completion`: the courses of a pass.
* `PassProgress.change`: what each change of a pass is, and what has been made before it.
-/

namespace MeshRoutes

/-- The ways a computation may go: from a server, to a result, with the changes made in order. -/
def Course (α : Type) : Type := ApiServer → Except Failure α → List ClusterWrite → Prop

instance : Monad Course where
  pure a := fun _ result made => result = .ok a ∧ made = []
  bind x f := fun server result made =>
    (∃ failure, x server (.error failure) made ∧ result = .error failure) ∨
      ∃ a earlier later, x server (.ok a) earlier ∧ f a (server.makeAll earlier) result later ∧
        made = earlier ++ later

/-- The client of a server, for a pass over some routes. Changes that are made together take effect
in any order, and when they fail some of them may not have taken effect. Every call may fail. -/
def concurrentClient (routes : List Route) : ClusterClient Course where
  listRoutes := fun _ result made =>
    made = [] ∧ (result = .ok routes ∨ ∃ failure, result = .error failure)
  listManaged kind := fun server result made =>
    made = [] ∧ (result = server.listed kind ∨ ∃ failure, result = .error failure)
  writeAll changes := fun _ result made =>
    match result with
    | .ok () => made.Perm changes
    | .error _ => made.Subperm changes

variable {α β : Type} {routes : List Route} {gateways : List String} {compiled : Compiled}
  {server : ApiServer} {made : List ClusterWrite}

/-! ## Calls -/

section Calls

variable {result : Except Failure β}

theorem course_pure_iff {b : β} :
    (pure b : Course β) server result made ↔ result = .ok b ∧ made = [] := Iff.rfl

theorem listRoutes_bind_iff {f : List Route → Course β} :
    ((concurrentClient routes).listRoutes >>= f) server result made ↔
      (∃ failure, result = .error failure ∧ made = []) ∨ f routes server result made := by
  constructor
  · intro course
    rcases course with ⟨failure, ⟨rfl, _⟩, rfl⟩ | ⟨listed, _, later, ⟨rfl, outcome⟩, rest, rfl⟩
    · exact .inl ⟨failure, rfl, rfl⟩
    · rcases outcome with ok | ⟨failure, error⟩
      · cases ok
        exact .inr rest
      · cases error
  · intro course
    rcases course with ⟨failure, rfl, rfl⟩ | rest
    · exact .inl ⟨failure, ⟨rfl, .inr ⟨failure, rfl⟩⟩, rfl⟩
    · exact .inr ⟨routes, [], made, ⟨rfl, .inl rfl⟩, rest, rfl⟩

theorem listManaged_bind_iff {kind : ResourceKind} {f : List ManagedResource → Course β} :
    ((concurrentClient routes).listManaged kind >>= f) server result made ↔
      (∃ failure, result = .error failure ∧ made = []) ∨
        ∃ resources, server.listed kind = .ok resources ∧ f resources server result made := by
  constructor
  · intro course
    rcases course with ⟨failure, ⟨rfl, _⟩, rfl⟩ | ⟨resources, _, later, ⟨rfl, outcome⟩, rest, rfl⟩
    · exact .inl ⟨failure, rfl, rfl⟩
    · rcases outcome with ok | ⟨failure, error⟩
      · exact .inr ⟨resources, ok.symm, rest⟩
      · cases error
  · intro course
    rcases course with ⟨failure, rfl, rfl⟩ | ⟨resources, ok, rest⟩
    · exact .inl ⟨failure, ⟨rfl, .inr ⟨failure, rfl⟩⟩, rfl⟩
    · exact .inr ⟨resources, [], made, ⟨rfl, .inl ok.symm⟩, rest, rfl⟩

theorem writeAll_bind_iff {changes : List ClusterWrite} {f : Unit → Course β} :
    ((concurrentClient routes).writeAll changes >>= f) server result made ↔
      (∃ failure, result = .error failure ∧ made.Subperm changes) ∨
        ∃ earlier later, earlier.Perm changes ∧ f () (server.makeAll earlier) result later ∧
          made = earlier ++ later := by
  constructor
  · intro course
    rcases course with ⟨failure, some, rfl⟩ | ⟨⟨⟩, earlier, later, all, rest, rfl⟩
    · exact .inl ⟨failure, rfl, some⟩
    · exact .inr ⟨earlier, later, all, rest, rfl⟩
  · intro course
    rcases course with ⟨failure, rfl, some⟩ | ⟨earlier, later, all, rest, rfl⟩
    · exact .inl ⟨failure, some, rfl⟩
    · exact .inr ⟨(), earlier, later, all, rest, rfl⟩

end Calls

/-! ## Phases -/

/-- What a pass has stored when it turns to what is stale: all services and all virtual services,
each in any order. -/
structure Compiled.IsApplied (compiled : Compiled) (services virtualServices : List ClusterWrite) :
    Prop where
  services_perm : services.Perm compiled.serviceWrites
  virtualServices_perm : virtualServices.Perm compiled.virtualServiceWrites

theorem Compiled.IsApplied.perm_writes {services virtualServices : List ClusterWrite}
    (applied : compiled.IsApplied services virtualServices) :
    (services ++ virtualServices).Perm compiled.writes :=
  applied.services_perm.append applied.virtualServices_perm

/-- How far a pass may get from a server: the changes that it has made when it ends, while services
are stored, while virtual services are, or before all is listed, while stale virtual services are
removed, or while stale services are, or thereafter. -/
inductive PassProgress (compiled : Compiled) (server : ApiServer) : List ClusterWrite → Prop
  | services {s : List ClusterWrite} (some_s : s.Subperm compiled.serviceWrites) :
    PassProgress compiled server s
  | virtualServices {s v : List ClusterWrite} (all_s : s.Perm compiled.serviceWrites)
      (some_v : v.Subperm compiled.virtualServiceWrites) : PassProgress compiled server (s ++ v)
  | staleVirtualServices {s v d : List ClusterWrite} {plan : PrunePlan}
      (applied : compiled.IsApplied s v) (drawn : plan.IsDrawnUp compiled (server.makeAll (s ++ v)))
      (some_d : d.Subperm plan.virtualServiceWrites) : PassProgress compiled server (s ++ (v ++ d))
  | staleServices {s v d e : List ClusterWrite} {plan : PrunePlan}
      (applied : compiled.IsApplied s v) (drawn : plan.IsDrawnUp compiled (server.makeAll (s ++ v)))
      (all_d : d.Perm plan.virtualServiceWrites) (some_e : e.Subperm plan.serviceWrites) :
    PassProgress compiled server (s ++ (v ++ (d ++ e)))

/-- Whether a pass with the given plan has made all its changes, phase by phase. -/
def PassCompletion (compiled : Compiled) (server : ApiServer) (plan : PrunePlan)
    (made : List ClusterWrite) : Prop :=
  ∃ s v d e, compiled.IsApplied s v ∧ plan.IsDrawnUp compiled (server.makeAll (s ++ v)) ∧
    d.Perm plan.virtualServiceWrites ∧ e.Perm plan.serviceWrites ∧ made = s ++ (v ++ (d ++ e))

theorem PassCompletion.progress {plan : PrunePlan}
    (completion : PassCompletion compiled server plan made) : PassProgress compiled server made := by
  obtain ⟨s, v, d, e, applied, drawn, all_d, all_e, rfl⟩ := completion
  exact .staleServices applied drawn all_d all_e.subperm

/-- Any one of some changes may be the last. -/
theorem exists_perm_append_singleton {a : α} {as : List α} (mem : a ∈ as) :
    ∃ rest, (rest ++ [a]).Perm as := by
  obtain ⟨front, back, rfl⟩ := List.append_of_mem mem
  exact ⟨front ++ back, (List.perm_append_singleton a _).trans List.perm_middle.symm⟩

/-! ## Courses of a pass -/

/-- A pass that fails has got as far as it may; one that succeeds has made all its changes. -/
theorem runPass_cases {result : Except Failure PassSummary}
    (course : runPass (concurrentClient routes) gateways server result made) :
    (∃ failure, result = .error failure ∧ PassProgress (compile gateways routes) server made) ∨
      ∃ plan, result = .ok (PassSummary.of routes.length (compile gateways routes) plan) ∧
        PassCompletion (compile gateways routes) server plan made := by
  unfold runPass at course
  simp only [listRoutes_bind_iff, listManaged_bind_iff, writeAll_bind_iff, course_pure_iff,
    ← ApiServer.makeAll_append] at course
  rcases course with ⟨failure, rfl, rfl⟩ | ⟨failure, rfl, some_s⟩ | ⟨s, _, all_s, course, rfl⟩
  · exact .inl ⟨failure, rfl, .services List.nil_subperm⟩
  · exact .inl ⟨failure, rfl, .services some_s⟩
  rcases course with ⟨failure, rfl, some_v⟩ | ⟨v, _, all_v, course, rfl⟩
  · exact .inl ⟨failure, rfl, .virtualServices all_s some_v⟩
  -- a pass that cannot list what there is has done no more than store
  have stored : PassProgress (compile gateways routes) server (s ++ (v ++ [])) := by
    rw [List.append_nil]
    exact .virtualServices all_s all_v.subperm
  rcases course with ⟨failure, rfl, rfl⟩ | ⟨virtualServices, listed_v, course⟩
  · exact .inl ⟨failure, rfl, stored⟩
  rcases course with ⟨failure, rfl, rfl⟩ | ⟨services, listed_s, course⟩
  · exact .inl ⟨failure, rfl, stored⟩
  have applied : (compile gateways routes).IsApplied s v := ⟨all_s, all_v⟩
  have drawn : PrunePlan.IsDrawnUp (compile gateways routes) (server.makeAll (s ++ v)) _ :=
    ⟨virtualServices, services, listed_v, listed_s, rfl⟩
  rcases course with ⟨failure, rfl, some_d⟩ | ⟨d, _, all_d, course, rfl⟩
  · exact .inl ⟨failure, rfl, .staleVirtualServices applied drawn some_d⟩
  rcases course with ⟨failure, rfl, some_e⟩ | ⟨e, _, all_e, ⟨rfl, rfl⟩, rfl⟩
  · exact .inl ⟨failure, rfl, .staleServices applied drawn all_d some_e⟩
  · refine .inr ⟨_, rfl, s, v, d, e, applied, drawn, all_d, all_e, ?_⟩
    rw [List.append_nil]

/-- A pass may fail wherever it has got. -/
theorem runPass_of_progress (failure : Failure)
    (progress : PassProgress (compile gateways routes) server made) :
    runPass (concurrentClient routes) gateways server (.error failure) made := by
  unfold runPass
  simp only [listRoutes_bind_iff, listManaged_bind_iff, writeAll_bind_iff, course_pure_iff,
    ← ApiServer.makeAll_append]
  cases progress with
  | services some_s => exact .inr (.inl ⟨failure, rfl, some_s⟩)
  | virtualServices all_s some_v =>
    exact .inr (.inr ⟨_, _, all_s, .inl ⟨failure, rfl, some_v⟩, rfl⟩)
  | staleVirtualServices applied drawn some_d =>
    obtain ⟨virtualServices, services, listed_v, listed_s, rfl⟩ := drawn
    refine .inr (.inr ⟨_, _, applied.services_perm, .inr ⟨_, _, applied.virtualServices_perm,
      .inr ⟨virtualServices, listed_v, .inr ⟨services, listed_s, ?_⟩⟩, rfl⟩, rfl⟩)
    exact .inl ⟨failure, rfl, some_d⟩
  | staleServices applied drawn all_d some_e =>
    obtain ⟨virtualServices, services, listed_v, listed_s, rfl⟩ := drawn
    refine .inr (.inr ⟨_, _, applied.services_perm, .inr ⟨_, _, applied.virtualServices_perm,
      .inr ⟨virtualServices, listed_v, .inr ⟨services, listed_s, ?_⟩⟩, rfl⟩, rfl⟩)
    exact .inr ⟨_, _, all_d, .inl ⟨failure, rfl, some_e⟩, rfl⟩

/-- A pass that has made all its changes may succeed. -/
theorem runPass_of_completion {plan : PrunePlan}
    (completion : PassCompletion (compile gateways routes) server plan made) :
    runPass (concurrentClient routes) gateways server
      (.ok (PassSummary.of routes.length (compile gateways routes) plan)) made := by
  obtain ⟨s, v, d, e, applied, drawn, all_d, all_e, rfl⟩ := completion
  obtain ⟨virtualServices, services, listed_v, listed_s, rfl⟩ := drawn
  unfold runPass
  simp only [listRoutes_bind_iff, listManaged_bind_iff, writeAll_bind_iff, course_pure_iff,
    ← ApiServer.makeAll_append]
  refine .inr (.inr ⟨s, _, applied.services_perm, .inr ⟨v, _, applied.virtualServices_perm,
    .inr ⟨virtualServices, listed_v, .inr ⟨services, listed_s, ?_⟩⟩, rfl⟩, rfl⟩)
  exact .inr ⟨d, _, all_d, .inr ⟨e, [], all_e, ⟨rfl, rfl⟩, by rw [List.append_nil]⟩, rfl⟩

/-- Whatever the result, a pass has got as far as it may. -/
theorem progress_of_runPass {result : Except Failure PassSummary}
    (course : runPass (concurrentClient routes) gateways server result made) :
    PassProgress (compile gateways routes) server made := by
  rcases runPass_cases course with ⟨_, _, progress⟩ | ⟨_, _, completion⟩
  · exact progress
  · exact completion.progress

theorem completion_of_runPass_ok {summary : PassSummary}
    (course : runPass (concurrentClient routes) gateways server (.ok summary) made) :
    ∃ plan, PassCompletion (compile gateways routes) server plan made := by
  rcases runPass_cases course with ⟨_, error, _⟩ | ⟨plan, _, completion⟩
  · cases error
  · exact ⟨plan, completion⟩

/-! ## States on the way -/

/-- A front of two lists ends in the first or goes on into the second. -/
theorem prefix_append_cases {a b front : List α} (h : front <+: a ++ b) :
    front <+: a ∨ ∃ rest, front = a ++ rest ∧ rest <+: b := by
  rcases List.prefix_or_prefix_of_prefix h (List.prefix_append a b) with within | ⟨rest, rfl⟩
  · exact .inl within
  · exact .inr ⟨rest, rfl, (List.prefix_append_right_inj a).1 h⟩

/-- In each state on the way, a pass has got as far as it may: it might have ended there. -/
theorem PassProgress.of_prefix (progress : PassProgress compiled server made)
    {state : List ClusterWrite} (front : state <+: made) : PassProgress compiled server state := by
  cases progress with
  | services some_s => exact .services (front.sublist.subperm.trans some_s)
  | virtualServices all_s some_v =>
    rcases prefix_append_cases front with in_s | ⟨v, rfl, in_v⟩
    · exact .services (in_s.sublist.subperm.trans all_s.subperm)
    · exact .virtualServices all_s (in_v.sublist.subperm.trans some_v)
  | staleVirtualServices applied drawn some_d =>
    rcases prefix_append_cases front with in_s | ⟨_, rfl, after_s⟩
    · exact .services (in_s.sublist.subperm.trans applied.services_perm.subperm)
    rcases prefix_append_cases after_s with in_v | ⟨d, rfl, in_d⟩
    · exact .virtualServices applied.services_perm
        (in_v.sublist.subperm.trans applied.virtualServices_perm.subperm)
    · exact .staleVirtualServices applied drawn (in_d.sublist.subperm.trans some_d)
  | staleServices applied drawn all_d some_e =>
    rcases prefix_append_cases front with in_s | ⟨_, rfl, after_s⟩
    · exact .services (in_s.sublist.subperm.trans applied.services_perm.subperm)
    rcases prefix_append_cases after_s with in_v | ⟨_, rfl, after_v⟩
    · exact .virtualServices applied.services_perm
        (in_v.sublist.subperm.trans applied.virtualServices_perm.subperm)
    rcases prefix_append_cases after_v with in_d | ⟨e, rfl, in_e⟩
    · exact .staleVirtualServices applied drawn (in_d.sublist.subperm.trans all_d.subperm)
    · exact .staleServices applied drawn all_d (in_e.sublist.subperm.trans some_e)

/-! ## Single changes -/

/-- A change among those that a pass makes, with what has been made before it: all services when a
virtual service is stored, everything to be stored when a stale virtual service is removed, and the
removal of all these when a stale service is. -/
inductive PassChange (compiled : Compiled) (server : ApiServer) (made : List ClusterWrite) :
    ClusterWrite → Prop
  | applyService {service : Service} (mem : service ∈ compiled.services) :
    PassChange compiled server made (.applyService service)
  | applyVirtualService {resource : VirtualService} (mem : resource ∈ compiled.virtualServices)
      (services : ∀ service ∈ compiled.services, ClusterWrite.applyService service ∈ made) :
    PassChange compiled server made (.applyVirtualService resource)
  | deleteVirtualService {s v : List ClusterWrite} {plan : PrunePlan} {resource : ManagedResource}
      (applied : compiled.IsApplied s v) (front : s ++ v <+: made)
      (drawn : plan.IsDrawnUp compiled (server.makeAll (s ++ v)))
      (mem : resource ∈ plan.removed .virtualService) :
    PassChange compiled server made (.deleteVirtualService resource.key)
  | deleteService {s v d : List ClusterWrite} {plan : PrunePlan} {resource : ManagedResource}
      (applied : compiled.IsApplied s v) (front : s ++ (v ++ d) <+: made)
      (drawn : plan.IsDrawnUp compiled (server.makeAll (s ++ v)))
      (all_d : d.Perm plan.virtualServiceWrites) (mem : resource ∈ plan.removed .service) :
    PassChange compiled server made (.deleteService resource.key)

namespace PassChange

variable {change : ClusterWrite} {s v d : List ClusterWrite} {plan : PrunePlan}

theorem of_mem_serviceWrites (mem : change ∈ compiled.serviceWrites) :
    PassChange compiled server made change := by
  obtain ⟨service, service_mem, rfl⟩ := List.mem_map.1 mem
  exact .applyService service_mem

theorem of_mem_virtualServiceWrites (all_s : s.Perm compiled.serviceWrites) (front : s <+: made)
    (mem : change ∈ compiled.virtualServiceWrites) : PassChange compiled server made change := by
  obtain ⟨resource, resource_mem, rfl⟩ := List.mem_map.1 mem
  refine .applyVirtualService resource_mem fun service service_mem => front.subset ?_
  exact all_s.symm.subset (List.mem_map_of_mem service_mem)

theorem of_mem_staleVirtualServices (applied : compiled.IsApplied s v) (front : s ++ v <+: made)
    (drawn : plan.IsDrawnUp compiled (server.makeAll (s ++ v)))
    (mem : change ∈ plan.virtualServiceWrites) : PassChange compiled server made change := by
  obtain ⟨resource, resource_mem, rfl⟩ := List.mem_map.1 mem
  exact .deleteVirtualService applied front drawn resource_mem

theorem of_mem_staleServices (applied : compiled.IsApplied s v) (front : s ++ (v ++ d) <+: made)
    (drawn : plan.IsDrawnUp compiled (server.makeAll (s ++ v)))
    (all_d : d.Perm plan.virtualServiceWrites) (mem : change ∈ plan.serviceWrites) :
    PassChange compiled server made change := by
  obtain ⟨resource, resource_mem, rfl⟩ := List.mem_map.1 mem
  exact .deleteService applied front drawn all_d resource_mem

/-- A place is either one to which the routes compile, where only their resources are stored, or one
from which something is only removed. -/
theorem of_concerns (h : PassChange compiled server made change) {kind : ResourceKind}
    {key : ObjectKey} (concerns : change.Concerns kind key) :
    (key ∈ compiled.keys kind ∧ change ∈ compiled.writes) ∨
      (key ∉ compiled.keys kind ∧ change = .delete kind key) := by
  have written (mem : change ∈ compiled.writes) : key ∈ compiled.keys kind :=
    Compiled.mem_keys_iff.2 ⟨change, mem, concerns⟩
  cases h with
  | applyService mem =>
    have mem := Compiled.mem_writes_iff.2 (.inl ⟨_, mem, rfl⟩)
    exact .inl ⟨written mem, mem⟩
  | applyVirtualService mem services =>
    have mem := Compiled.mem_writes_iff.2 (.inr ⟨_, mem, rfl⟩)
    exact .inl ⟨written mem, mem⟩
  | deleteVirtualService applied front drawn mem =>
    obtain ⟨rfl, rfl⟩ := concerns
    exact .inr ⟨(drawn.mem_removed.1 mem).2.1, rfl⟩
  | deleteService applied front drawn all_d mem =>
    obtain ⟨rfl, rfl⟩ := concerns
    exact .inr ⟨(drawn.mem_removed.1 mem).2.1, rfl⟩

end PassChange

/-- Each change of a pass is of one of these kinds. -/
theorem PassProgress.change (progress : PassProgress compiled server made) {change : ClusterWrite}
    (mem : change ∈ made) : PassChange compiled server made change := by
  cases progress with
  | services some_s => exact .of_mem_serviceWrites (some_s.subset mem)
  | virtualServices all_s some_v =>
    rcases List.mem_append.1 mem with mem | mem
    · exact .of_mem_serviceWrites (all_s.subset mem)
    · exact .of_mem_virtualServiceWrites all_s (List.prefix_append _ _) (some_v.subset mem)
  | @staleVirtualServices s v d plan applied drawn some_d =>
    have front : s ++ v <+: s ++ (v ++ d) :=
      (List.prefix_append_right_inj s).2 (List.prefix_append v d)
    rcases List.mem_append.1 mem with mem | mem
    · exact .of_mem_serviceWrites (applied.services_perm.subset mem)
    rcases List.mem_append.1 mem with mem | mem
    · exact .of_mem_virtualServiceWrites applied.services_perm (List.prefix_append _ _)
        (applied.virtualServices_perm.subset mem)
    · exact .of_mem_staleVirtualServices applied front drawn (some_d.subset mem)
  | @staleServices s v d e plan applied drawn all_d some_e =>
    have front_v : s ++ v <+: s ++ (v ++ (d ++ e)) :=
      (List.prefix_append_right_inj s).2 (List.prefix_append v _)
    have front_d : s ++ (v ++ d) <+: s ++ (v ++ (d ++ e)) :=
      (List.prefix_append_right_inj s).2
        ((List.prefix_append_right_inj v).2 (List.prefix_append d e))
    rcases List.mem_append.1 mem with mem | mem
    · exact .of_mem_serviceWrites (applied.services_perm.subset mem)
    rcases List.mem_append.1 mem with mem | mem
    · exact .of_mem_virtualServiceWrites applied.services_perm (List.prefix_append _ _)
        (applied.virtualServices_perm.subset mem)
    rcases List.mem_append.1 mem with mem | mem
    · exact .of_mem_staleVirtualServices applied front_v drawn (all_d.subset mem)
    · exact .of_mem_staleServices applied front_d drawn all_d (some_e.subset mem)

/-! ## Places -/

section Places

variable {kind : ResourceKind} {key : ObjectKey}

/-- What has been removed does not come back. -/
theorem PassProgress.get?_of_delete (progress : PassProgress compiled server made)
    (removed : ClusterWrite.delete kind key ∈ made) :
    (server.makeAll made).get? kind key = none := by
  have absent : key ∉ compiled.keys kind := by
    rcases (progress.change removed).of_concerns ClusterWrite.concerns_delete with
      ⟨_, write⟩ | ⟨absent, _⟩
    · exact (Compiled.delete_not_mem_writes write).elim
    · exact absent
  refine ApiServer.get?_makeAll_of_agree ⟨_, removed, ClusterWrite.concerns_delete⟩
    fun change mem concerns => ?_
  rcases (progress.change mem).of_concerns concerns with ⟨key_mem, _⟩ | ⟨_, rfl⟩
  · exact (absent key_mem).elim
  · exact ClusterWrite.document?_delete

/-- A place to which the routes do not compile stays as it is until something is removed there. -/
theorem PassProgress.get?_of_not_delete (progress : PassProgress compiled server made)
    (absent : key ∉ compiled.keys kind) (kept : ClusterWrite.delete kind key ∉ made) :
    (server.makeAll made).get? kind key = server.get? kind key := by
  refine ApiServer.get?_makeAll_of_unconcerned fun change mem concerns => ?_
  rcases (progress.change mem).of_concerns concerns with ⟨key_mem, _⟩ | ⟨_, rfl⟩
  · exact absent key_mem
  · exact kept mem

end Places

end MeshRoutes
