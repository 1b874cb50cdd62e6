import MeshRoutes.Proofs.Pass.Script

/-!
# Error paths

The calls of a pass are made kind by kind, and the first kind of which one fails is the last that is
made. What the pass comes to is therefore decided by its calls alone: it succeeds when all of them
do, and fails with the failure of one that failed.

* `Orderly`: whether calls are made in order and come to a result. What comes after orderly calls,
  and is orderly itself, is orderly together with them (`AlwaysOrderly.bind`), and a pass is
  (`alwaysOrderly_runPass`).
* `MadeAll`: whether the calls are all those of a pass and each one succeeds.
* `ErrorPath`: what is said of passes that meet failures; every pass has it (`runPass_error_path`).
-/

namespace MeshRoutes

open Script (client Step)

variable {α β : Type} {exchanges earlier later : List Exchange} {first middle last : Nat}

/-! ## Calls in order -/

/-- Whether calls that have their places between two given ones come to a result in order. There is
no success unless every call succeeds, a failure is that of a call, and no call has its place after
one that fails. -/
structure Orderly (first last : Nat) (exchanges : List Exchange) (result : Except Failure α) :
    Prop where
  within : ∀ exchange ∈ exchanges,
    first ≤ exchange.call.kind.place ∧ exchange.call.kind.place ≤ last
  succeed : ∀ a, result = .ok a → ∀ exchange ∈ exchanges, exchange.Succeeds
  fail : ∀ failure, result = .error failure → ∃ exchange ∈ exchanges, exchange.FailsWith failure
  stop : ∀ exchange ∈ exchanges, ¬exchange.Succeeds →
    ∀ other ∈ exchanges, other.call.kind.place ≤ exchange.call.kind.place

/-- Whether a script comes to its end in order, whatever the answers are. -/
def AlwaysOrderly (first last : Nat) (x : ExceptT Failure Script α) : Prop :=
  ∀ exchanges result, Ends x exchanges result → Orderly first last exchanges result

theorem Orderly.of_place {place : Nat} {result : Except Failure α}
    (within : ∀ exchange ∈ exchanges, exchange.call.kind.place = place)
    (succeed : ∀ a, result = .ok a → ∀ exchange ∈ exchanges, exchange.Succeeds)
    (fail : ∀ failure, result = .error failure →
      ∃ exchange ∈ exchanges, exchange.FailsWith failure) :
    Orderly place place exchanges result where
  within exchange made := ⟨(within exchange made).ge, (within exchange made).le⟩
  succeed := succeed
  fail := fail
  stop exchange made _ other made' := ((within other made').trans (within exchange made).symm).le

/-- Calls that succeed may be followed by others at later places. -/
theorem Orderly.append {a : α} {result : Except Failure β}
    (front : Orderly first middle earlier (.ok a))
    (back : Orderly (middle + 1) last later result) (le : first ≤ middle) (le' : middle ≤ last) :
    Orderly first last (earlier ++ later) result where
  within := List.forall_mem_append.2
    ⟨fun exchange made => ⟨(front.within exchange made).1, (front.within exchange made).2.trans le'⟩,
      fun exchange made => ⟨(le.trans (Nat.le_succ _)).trans (back.within exchange made).1,
        (back.within exchange made).2⟩⟩
  succeed b ok := List.forall_mem_append.2 ⟨front.succeed a rfl, back.succeed b ok⟩
  fail failure error := by
    obtain ⟨exchange, made, fails⟩ := back.fail failure error
    exact ⟨exchange, List.mem_append_right _ made, fails⟩
  stop exchange made fails := by
    -- the calls of the front have succeeded, so that one of the back has failed
    rcases List.mem_append.1 made with made | made
    · exact absurd (front.succeed a rfl exchange made) fails
    · refine List.forall_mem_append.2 ⟨fun other made' => ?_, back.stop exchange made fails⟩
      have before := (front.within other made').2
      have after := (back.within exchange made).1
      omega

theorem Orderly.mono {result : Except Failure α} (orderly : Orderly first middle exchanges result)
    (le : middle ≤ last) : Orderly first last exchanges result :=
  { orderly with
    within := fun exchange made =>
      ⟨(orderly.within exchange made).1, (orderly.within exchange made).2.trans le⟩ }

theorem Orderly.error {failure : Failure}
    (orderly : Orderly first last exchanges (.error failure : Except Failure α)) :
    Orderly first last exchanges (.error failure : Except Failure β) where
  within := orderly.within
  succeed _ ok := nomatch ok
  fail _ error := orderly.fail _ (by cases error; rfl)
  stop := orderly.stop

theorem AlwaysOrderly.bind {x : ExceptT Failure Script α} {f : α → ExceptT Failure Script β}
    (front : AlwaysOrderly first middle x) (back : ∀ a, AlwaysOrderly (middle + 1) last (f a))
    (le : first ≤ middle) (le' : middle ≤ last) : AlwaysOrderly first last (x >>= f) := by
  intro exchanges result ends
  rcases ends.of_bind with ⟨failure, failed, rfl⟩ | ⟨a, earlier, later, ended, rest, rfl⟩
  · exact ((front _ _ failed).mono le').error
  · exact (front _ _ ended).append (back a _ _ rest) le le'

theorem alwaysOrderly_pure (a : α) : AlwaysOrderly first last (pure a) := by
  intro exchanges result ends
  obtain ⟨rfl, rfl⟩ := ends_pure_iff.1 ends
  exact ⟨nofun, fun _ _ => nofun, nofun, nofun⟩

theorem alwaysOrderly_listRoutes : AlwaysOrderly 0 0 client.listRoutes := by
  intro exchanges result ends
  obtain ⟨answer, rfl, rfl⟩ := ends_listRoutes ends
  refine .of_place (List.forall_mem_singleton.2 rfl) (fun routes ok => ?_) fun failure error => ?_
  · exact List.forall_mem_singleton.2 (succeeds_listRoutes_iff.2 ⟨routes, ok⟩)
  · exact ⟨_, List.mem_singleton_self _, failsWith_listRoutes_iff.2 error⟩

theorem alwaysOrderly_listManaged (kind : ResourceKind) :
    AlwaysOrderly (Call.listManaged kind).kind.place (Call.listManaged kind).kind.place
      (client.listManaged kind) := by
  intro exchanges result ends
  obtain ⟨answer, rfl, rfl⟩ := ends_listManaged ends
  refine .of_place (List.forall_mem_singleton.2 rfl) (fun found ok => ?_) fun failure error => ?_
  · exact List.forall_mem_singleton.2 (succeeds_listManaged_iff.2 ⟨found, ok⟩)
  · exact ⟨_, List.mem_singleton_self _, failsWith_listManaged_iff.2 error⟩

theorem BatchEnds.exists_change {changes : List ClusterWrite} {result : Except Failure Unit}
    (ends : BatchEnds changes exchanges result) {exchange : Exchange} (made : exchange ∈ exchanges) :
    ∃ change ∈ changes, exchange.call = .write change := by
  have mem : exchange.call ∈ exchanges.map Exchange.call := List.mem_map_of_mem made
  have planned : exchange.call ∈ changes.map Call.write := by
    cases result with
    | ok => exact ends.1.subset mem
    | error failure => exact ends.1.subset mem
  obtain ⟨change, mem, same⟩ := List.mem_map.1 planned
  exact ⟨change, mem, same.symm⟩

theorem alwaysOrderly_writeAll {changes : List ClusterWrite} {place : Nat}
    (places : ∀ change ∈ changes, (Call.write change).kind.place = place) :
    AlwaysOrderly place place (client.writeAll changes) := by
  intro exchanges result ends
  have ends := ends_writeAll ends
  refine .of_place (fun exchange made => ?_) (fun _ ok => ?_) fun failure error => ?_
  · obtain ⟨change, mem, same⟩ := ends.exists_change made
    rw [same]
    exact places change mem
  · subst ok
    exact ends.2
  · subst error
    exact ends.2

/-- Whatever the answers are, a pass makes its calls in order. -/
theorem alwaysOrderly_runPass (gateways : List String) :
    AlwaysOrderly 0 7 (runPass client gateways) := by
  have same {γ : Type} {resources : List γ} {change : γ → ClusterWrite} {place : Nat}
      (at_ : ∀ resource, (Call.write (change resource)).kind.place = place) :
      AlwaysOrderly place place (client.writeAll (resources.map change)) :=
    alwaysOrderly_writeAll (List.forall_mem_map.2 fun resource _ => at_ resource)
  -- each call or batch is at the place after the one before it
  unfold runPass
  refine alwaysOrderly_listRoutes.bind (fun routes => ?_) (by decide) (by decide)
  refine AlwaysOrderly.bind (same fun _ => rfl) (fun _ => ?_) (by decide) (by decide)
  refine AlwaysOrderly.bind (same fun _ => rfl) (fun _ => ?_) (by decide) (by decide)
  refine (alwaysOrderly_listManaged .virtualService).bind (fun virtualServices => ?_)
    (by decide) (by decide)
  refine (alwaysOrderly_listManaged .service).bind (fun services => ?_) (by decide) (by decide)
  refine AlwaysOrderly.bind (same fun _ => rfl) (fun _ => ?_) (by decide) (by decide)
  refine AlwaysOrderly.bind (same fun _ => rfl) (fun _ => ?_) (by decide) (by decide)
  exact alwaysOrderly_pure _

/-! ## Passes that succeed -/

/-- The calls of a pass that finds these routes and these managed resources. -/
def plannedCalls (gateways : List String) (routes : List Route)
    (virtualServices services : List ManagedResource) : List Call :=
  let compiled := compile gateways routes
  let plan := PrunePlan.of compiled virtualServices services
  .listRoutes :: (compiled.serviceWrites.map .write ++ (compiled.virtualServiceWrites.map .write ++
    (.listManaged .virtualService :: .listManaged .service ::
      (plan.virtualServiceWrites.map .write ++ plan.serviceWrites.map .write))))

/-- Whether these are all calls of a pass that finds the given routes and managed resources, and
each of them succeeds. -/
structure MadeAll (gateways : List String) (routes : List Route)
    (virtualServices services : List ManagedResource) (exchanges : List Exchange) : Prop where
  calls_perm : (exchanges.map Exchange.call).Perm
    (plannedCalls gateways routes virtualServices services)
  routes_listed : ∃ answer, ⟨.listRoutes, answer⟩ ∈ exchanges ∧ heard readRoutes answer = .ok routes
  virtualServices_listed : ∃ answer, ⟨.listManaged .virtualService, answer⟩ ∈ exchanges ∧
    heard (readManaged .virtualService) answer = .ok virtualServices
  services_listed : ∃ answer, ⟨.listManaged .service, answer⟩ ∈ exchanges ∧
    heard (readManaged .service) answer = .ok services
  succeed : ∀ exchange ∈ exchanges, exchange.Succeeds

theorem Ends.of_bind_ok {x : ExceptT Failure Script α} {f : α → ExceptT Failure Script β} {b : β}
    (ends : Ends (x >>= f) exchanges (.ok b)) :
    ∃ a earlier later, Ends x earlier (.ok a) ∧ Ends (f a) later (.ok b) ∧
      exchanges = earlier ++ later := by
  rcases ends.of_bind with ⟨_, _, same⟩ | parts
  · nomatch same
  · exact parts

/-- A pass that succeeds has made all its calls, and says what it did. -/
theorem madeAll_of_ends_ok {gateways : List String} {summary : PassSummary}
    (ends : Ends (runPass client gateways) exchanges (.ok summary)) :
    ∃ routes virtualServices services,
      MadeAll gateways routes virtualServices services exchanges ∧
        summary = PassSummary.of routes.length (compile gateways routes)
          (PrunePlan.of (compile gateways routes) virtualServices services) := by
  have succeed := (alwaysOrderly_runPass gateways _ _ ends).succeed summary rfl
  unfold runPass at ends
  obtain ⟨routes, _, _, listed_r, to_services, rfl⟩ := ends.of_bind_ok
  obtain ⟨⟨⟩, s, _, ends_s, to_virtualServices, rfl⟩ := to_services.of_bind_ok
  obtain ⟨⟨⟩, v, _, ends_v, to_listing, rfl⟩ := to_virtualServices.of_bind_ok
  obtain ⟨virtualServices, _, _, listed_v, to_listing', rfl⟩ := to_listing.of_bind_ok
  obtain ⟨services, _, _, listed_s, to_plan, rfl⟩ := to_listing'.of_bind_ok
  obtain ⟨⟨⟩, d, _, ends_d, to_plan', rfl⟩ := to_plan.of_bind_ok
  obtain ⟨⟨⟩, e, _, ends_e, to_summary, rfl⟩ := to_plan'.of_bind_ok
  obtain ⟨rfl, same⟩ := ends_pure_iff.1 to_summary
  obtain ⟨answer_r, rfl, ok_r⟩ := ends_listRoutes listed_r
  obtain ⟨answer_v, rfl, ok_v⟩ := ends_listManaged listed_v
  obtain ⟨answer_s, rfl, ok_s⟩ := ends_listManaged listed_s
  refine ⟨routes, virtualServices, services, ⟨?_, ?_, ?_, ?_, succeed⟩, Except.ok.inj same⟩
  -- a batch that succeeds has made its changes, in an order of its own
  · simp only [List.map_append, List.map_cons, List.append_nil, List.cons_append, List.nil_append,
      plannedCalls]
    refine .cons _ ((ends_writeAll ends_s).1.append ((ends_writeAll ends_v).1.append ?_))
    exact .cons _ (.cons _ ((ends_writeAll ends_d).1.append (ends_writeAll ends_e).1))
  · exact ⟨answer_r, by simp, ok_r.symm⟩
  · exact ⟨answer_v, by simp, ok_v.symm⟩
  · exact ⟨answer_s, by simp, ok_s.symm⟩

/-! ## Failures -/

/-- The number of calls of a kind. -/
def callCount (kind : CallKind) (exchanges : List Exchange) : Nat :=
  exchanges.countP (·.call.kind = kind)

/-- Whether a call of a kind is made. -/
def Makes (exchanges : List Exchange) (kind : CallKind) : Prop :=
  ∃ exchange ∈ exchanges, exchange.call.kind = kind

/-- Whether a call of a kind is made and fails. -/
def FailsAt (exchanges : List Exchange) (kind : CallKind) : Prop :=
  ∃ exchange ∈ exchanges, exchange.call.kind = kind ∧ ¬exchange.Succeeds

theorem Orderly.not_makes {result : Except Failure α}
    (orderly : Orderly first last exchanges result) {kind later : CallKind}
    (fails : FailsAt exchanges kind) (after : kind.place < later.place) :
    ¬Makes exchanges later := by
  obtain ⟨exchange, made, rfl, fails⟩ := fails
  rintro ⟨other, made', rfl⟩
  exact absurd (orderly.stop exchange made fails other made') (Nat.not_le.2 after)

/-- What becomes of a pass with these calls. It succeeds if and only if all its calls are made and
succeed, and it does not fail, whatever the routes are, when those that it makes succeed. Its
failure is that of a call. When routes cannot be listed, nothing is written; when a service cannot
be stored, no virtual service is, and nothing is removed; nor is anything when a virtual service
cannot be stored or what is managed cannot be listed; and when a virtual service cannot be removed,
no service is. A pass that succeeds counts the routes listed, the calls of each kind that were made,
and what was skipped. -/
structure ErrorPath (gateways : List String) (exchanges : List Exchange)
    (result : Except Failure PassSummary) : Prop where
  ok_iff : (∃ summary, result = .ok summary) ↔
    ∃ routes virtualServices services, MadeAll gateways routes virtualServices services exchanges
  ok_of_succeed : (∀ exchange ∈ exchanges, exchange.Succeeds) → ∃ summary, result = .ok summary
  error_of_call : ∀ failure, result = .error failure →
    ∃ exchange ∈ exchanges, exchange.FailsWith failure
  listRoutes_fails : FailsAt exchanges .listRoutes →
    ∀ exchange ∈ exchanges, ∀ change, exchange.call ≠ .write change
  applyService_fails : FailsAt exchanges .applyService →
    ¬Makes exchanges .applyVirtualService ∧
      ∀ exchange ∈ exchanges, ¬exchange.call.kind.Deletes
  applyVirtualService_fails : FailsAt exchanges .applyVirtualService →
    ∀ exchange ∈ exchanges, ¬exchange.call.kind.Deletes
  listManaged_fails : FailsAt exchanges .listVirtualServices ∨ FailsAt exchanges .listServices →
    ∀ exchange ∈ exchanges, ¬exchange.call.kind.Deletes
  deleteVirtualService_fails : FailsAt exchanges .deleteVirtualService →
    ¬Makes exchanges .deleteService
  counts : ∀ summary, result = .ok summary → ∃ routes virtualServices services,
    MadeAll gateways routes virtualServices services exchanges ∧
      summary =
        { routes := routes.length
          appliedVirtualServices := callCount .applyVirtualService exchanges
          appliedServices := callCount .applyService exchanges
          prunedVirtualServices := callCount .deleteVirtualService exchanges
          prunedServices := callCount .deleteService exchanges
          skippedFqdns := (compile gateways routes).skippedFqdns.length
          skippedDestinations := (compile gateways routes).skippedDestinations.length }

theorem MadeAll.callCount_eq {gateways : List String} {routes : List Route}
    {virtualServices services : List ManagedResource}
    (madeAll : MadeAll gateways routes virtualServices services exchanges) (kind : CallKind) :
    callCount kind exchanges =
      (plannedCalls gateways routes virtualServices services).countP (·.kind = kind) := by
  rw [← madeAll.calls_perm.countP_eq, List.countP_map]
  rfl

theorem MadeAll.summary_eq {gateways : List String} {routes : List Route}
    {virtualServices services : List ManagedResource}
    (madeAll : MadeAll gateways routes virtualServices services exchanges) :
    PassSummary.of routes.length (compile gateways routes)
        (PrunePlan.of (compile gateways routes) virtualServices services) =
      { routes := routes.length
        appliedVirtualServices := callCount .applyVirtualService exchanges
        appliedServices := callCount .applyService exchanges
        prunedVirtualServices := callCount .deleteVirtualService exchanges
        prunedServices := callCount .deleteService exchanges
        skippedFqdns := (compile gateways routes).skippedFqdns.length
        skippedDestinations := (compile gateways routes).skippedDestinations.length } := by
  simp [madeAll.callCount_eq, PassSummary.of, plannedCalls, Compiled.serviceWrites,
    Compiled.virtualServiceWrites, PrunePlan.serviceWrites, PrunePlan.virtualServiceWrites,
    List.countP_append, List.countP_map, Function.comp_def, Call.kind]

/-- Whatever the answers are, and whoever gives them, a pass comes to its end, and so does an
executed pass, call by call with the answers of its server. All calls and their answers decide what
the pass comes to: it succeeds exactly when it made all its calls and each one succeeded, otherwise
it fails with the failure of a call, and what would have come later is not done. -/
theorem runPass_error_path (gateways : List String) :
    (∀ (σ : Type) (respond : σ → Call → Option ApiReply × σ) (cluster : σ),
      ∃ exchanges result after, Ends (runPass client gateways) exchanges result ∧
        Served respond cluster exchanges after) ∧
    (∀ server result after,
      (runPass ApiServer.client gateways).run.run server = (result, after) →
        ∃ exchanges, Ends (runPass client gateways) exchanges result ∧
          Served ApiServer.respond server exchanges after) ∧
    ∀ exchanges result, Ends (runPass client gateways) exchanges result →
      ErrorPath gateways exchanges result := by
  refine ⟨fun _ respond => exists_ends respond _, plays_runPass gateways,
    fun exchanges result ends => ?_⟩
  have orderly := alwaysOrderly_runPass gateways _ _ ends
  have ok_of_succeed (succeed : ∀ exchange ∈ exchanges, exchange.Succeeds) :
      ∃ summary, result = .ok summary := by
    cases result with
    | ok summary => exact ⟨summary, rfl⟩
    | error failure =>
      obtain ⟨exchange, made, fails⟩ := orderly.fail failure rfl
      exact absurd (succeed exchange made) fails.2
  -- both kinds of removals come after the calls at the first five places
  have keeps {kind : CallKind} (fails : FailsAt exchanges kind) (before : kind.place < 5)
      (exchange : Exchange) (made : exchange ∈ exchanges) : ¬exchange.call.kind.Deletes := by
    rintro (same | same)
    · exact orderly.not_makes fails (by rw [same]; exact before) ⟨exchange, made, rfl⟩
    · exact orderly.not_makes fails (by rw [same]; exact before.trans (by decide))
        ⟨exchange, made, rfl⟩
  refine
    { ok_iff := ⟨?_, ?_⟩
      ok_of_succeed := ok_of_succeed
      error_of_call := orderly.fail
      listRoutes_fails := fun fails exchange made change write => ?_
      applyService_fails := fun fails =>
        ⟨orderly.not_makes fails (by decide), keeps fails (by decide)⟩
      applyVirtualService_fails := fun fails => keeps fails (by decide)
      listManaged_fails := fun fails =>
        fails.elim (keeps · (by decide)) (keeps · (by decide))
      deleteVirtualService_fails := fun fails => orderly.not_makes fails (by decide)
      counts := ?_ }
  · rintro ⟨summary, rfl⟩
    obtain ⟨routes, virtualServices, services, madeAll, _⟩ := madeAll_of_ends_ok ends
    exact ⟨routes, virtualServices, services, madeAll⟩
  · rintro ⟨_, _, _, madeAll⟩
    exact ok_of_succeed madeAll.succeed
  · refine orderly.not_makes fails ?_ ⟨exchange, made, rfl⟩
    rw [write]
    cases change <;> exact Nat.zero_lt_succ _
  · rintro summary rfl
    obtain ⟨routes, virtualServices, services, madeAll, same⟩ := madeAll_of_ends_ok ends
    exact ⟨routes, virtualServices, services, madeAll, same.trans madeAll.summary_eq⟩

/-- A resource that an earlier pass has left. -/
def leftover : ManagedResource := { ns := "ns", name := "old", fqdn := "gone.example.com" }

/-- A list of one resource that an earlier pass has left. -/
def leftoverListing (kind : ResourceKind) : ApiReply :=
  ⟨200, some (ApiServer.listDocument [.obj [("metadata", .obj
    [("name", .str leftover.name), ("namespace", .str leftover.ns),
      ("annotations", .obj [(kind.annotationKey, .str leftover.fqdn)])])]])⟩

/-- The calls of a pass without routes that cannot remove a virtual service. -/
def failedRemoval : List Exchange :=
  [⟨.listRoutes, some ⟨200, some (ApiServer.listDocument [])⟩⟩,
    ⟨.listManaged .virtualService, some (leftoverListing .virtualService)⟩,
    ⟨.listManaged .service, some (leftoverListing .service)⟩,
    ⟨.write (.deleteVirtualService leftover.key), some ⟨500, none⟩⟩]

/-- When a virtual service cannot be removed, the service behind it stays. -/
theorem runPass_error_path_failedRemoval :
    Ends (runPass client []) failedRemoval (.error (.cluster (some 500))) ∧
      FailsAt failedRemoval .deleteVirtualService ∧ ¬Makes failedRemoval .deleteService ∧
      ErrorPath [] failedRemoval (.error (.cluster (some 500))) := by
  have nothing : compile [] [] = {} := by cbv
  have planned : PrunePlan.of {} [leftover] [leftover] = ⟨[leftover], [leftover]⟩ := by cbv
  have routes : Ends client.listRoutes
      [⟨.listRoutes, some ⟨200, some (ApiServer.listDocument [])⟩⟩] (.ok []) := (Step.ask _).run
  have listed (kind : ResourceKind) : Ends (client.listManaged kind)
      [⟨.listManaged kind, some (leftoverListing kind)⟩] (.ok [leftover]) := by
    cases kind <;> exact (Step.ask _).run
  have applied : Ends (client.writeAll []) [] (.ok ()) := Step.complete.run
  have not_removed : Ends (client.writeAll [.deleteVirtualService leftover.key])
      [⟨.write (.deleteVirtualService leftover.key), some ⟨500, none⟩⟩]
      (.error (.cluster (some 500))) :=
    (Step.failed List.mem_cons_self rfl).run.tail (.broken List.mem_cons_self)
  have ends : Ends (runPass client []) failedRemoval (.error (.cluster (some 500))) := by
    refine routes.bind_ok ?_
    rw [nothing]
    refine applied.bind_ok (applied.bind_ok ((listed .virtualService).bind_ok
      ((listed .service).bind_ok ?_)))
    rw [planned]
    exact not_removed.bind_error
  have removal_fails : FailsAt failedRemoval .deleteVirtualService :=
    ⟨_, List.mem_of_getLast? rfl, rfl,
      Exchange.exists_failsWith_iff.1 ⟨_, heard_success_eq_error_iff.1 rfl⟩⟩
  have path := (runPass_error_path []).2.2 _ _ ends
  exact ⟨ends, removal_fails, path.deleteVirtualService_fails removal_fails, path⟩

end MeshRoutes
