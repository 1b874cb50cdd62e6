import MeshRoutes.Proofs.Cluster.Exchange
import MeshRoutes.Proofs.Pass.Convergence

/-!
# Executed passes

The client of a server makes its changes one after the other and stops at the first that fails. Each
pass that it makes is therefore one of the courses of a pass, and what holds of all courses holds of
it. The faults of a server have to be failures for this: a server that reports a success without
having done anything leads a pass elsewhere.

* `Mirrors`: a server that keeps what another one does, with faults to come and requests sent.
* `Follows`: whether what a client does is a course. It is so for calls and for what comes after
  one another (`Follows.bind`).
* `exists_course_of_run`: an executed pass is a course, so that one that succeeds settles the server
  (`exists_settles_of_run`).
-/

namespace MeshRoutes

/-- Whether a reply says that nothing was done, and not because there was nothing to remove. -/
def ApiReply.Fails (reply : ApiReply) : Prop :=
  ∃ failure, reply.document = .error failure ∧ failure ≠ .cluster (some 404)

/-- Whether a server keeps under its keys what a model does, lists no other routes than the given
ones, if they can be listed, and has failures among its faults only. -/
structure Mirrors (routes : List Route) (server model : ApiServer) : Prop where
  same : ∀ kind key, server.get? kind key = model.get? kind key
  routes_read : ∀ objects, server.routes.mapM ApiObject.ofJson? = some objects →
    listedRoutes objects = routes
  faults_fail : ∀ fault ∈ server.faults, fault.effect.Fails

variable {routes : List Route} {server model : ApiServer}

/-! ## Faults -/

/-- A fault that takes effect was among those to come, and so are those that are left. -/
theorem Fault.take_cases {α : Type} {holds : α → Prop} {call : String} {resource : Option String}
    {faults : List (Fault α)} (all : ∀ fault ∈ faults, holds fault.effect) :
    (∀ effect, (Fault.take call resource faults).1 = some effect → holds effect) ∧
      ∀ fault ∈ (Fault.take call resource faults).2, holds fault.effect := by
  induction faults with
  | nil => exact ⟨fun _ none => (nomatch none), fun _ mem => absurd mem List.not_mem_nil⟩
  | cons fault faults ih =>
    obtain ⟨first, rest⟩ := List.forall_mem_cons.1 all
    obtain ⟨taken, left⟩ := ih rest
    unfold Fault.take
    split
    · refine ⟨fun effect found => ?_, List.forall_mem_cons.2 ⟨first, rest⟩⟩
      cases found
      exact first
    · exact ⟨taken, List.forall_mem_cons.2 ⟨first, left⟩⟩

/-- A server that is sent a request fails and stays as it is, or does what it is asked for. -/
theorem Mirrors.handle (mirrors : Mirrors routes server model) (request : ApiRequest) :
    (∃ reply after, server.handle request = (reply, after) ∧ reply.Fails ∧
        Mirrors routes after model) ∨
      ∃ ready, server.handle request = ready.perform request ∧ Mirrors routes ready model := by
  obtain ⟨taken, left⟩ := @Fault.take_cases _ ApiReply.Fails request.name
    (request.key?.map (·.name)) _ mirrors.faults_fail
  unfold ApiServer.handle
  generalize Fault.take request.name (request.key?.map (·.name)) server.faults = outcome at *
  obtain ⟨fault, faults⟩ := outcome
  have ready : Mirrors routes { server with faults, requests := server.requests ++ [request.line] }
      model := ⟨mirrors.same, mirrors.routes_read, left⟩
  cases fault with
  | none => exact .inr ⟨_, rfl, ready⟩
  | some reply => exact .inl ⟨reply, _, rfl, taken reply rfl, ready⟩

theorem Mirrors.make (mirrors : Mirrors routes server model) (change : ClusterWrite) :
    Mirrors routes (server.make change) (model.make change) := by
  have besides := server.surroundings_make change
  have routes_eq : (server.make change).routes = server.routes := congrArg Prod.fst besides
  have faults_eq : (server.make change).faults = server.faults :=
    congrArg (fun surroundings => surroundings.2.1) besides
  refine ⟨fun kind key => ?_, ?_, ?_⟩
  · rw [ApiServer.get?_make, ApiServer.get?_make, mirrors.same]
  · rw [routes_eq]
    exact mirrors.routes_read
  · rw [faults_eq]
    exact mirrors.faults_fail

/-- Of a model, the same is listed. -/
theorem Mirrors.listed_eq (mirrors : Mirrors routes server model) (kind : ResourceKind) :
    server.listed kind = model.listed kind := by
  have same : server.resources kind = model.resources kind :=
    SortedMap.ext_get? (mirrors.same kind)
  rw [ApiServer.listed, ApiServer.listed, ApiServer.perform_list, ApiServer.perform_list,
    ApiServer.listedDocuments, ApiServer.listedDocuments, same]

/-! ## Runs -/

section Runs

variable {α β : Type} {result : Except Failure β} {after : ApiServer}

/-- A run in two parts ends with the first of them, if that fails, or goes on with the second. -/
theorem run_bind_cases {run : ApiServer.Run α} {next : α → ApiServer.Run β}
    (ran : (run >>= next).run.run server = (result, after)) :
    (∃ failure, run.run.run server = (.error failure, after) ∧ result = .error failure) ∨
      ∃ a between, run.run.run server = (.ok a, between) ∧
        (next a).run.run between = (result, after) := by
  rw [ExceptT.run_bind, StateT.run_bind] at ran
  generalize run.run.run server = outcome at *
  obtain ⟨first, between⟩ := outcome
  cases first with
  | error failure =>
    cases ran
    exact .inl ⟨failure, rfl, rfl⟩
  | ok a => exact .inr ⟨a, between, rfl, ran⟩

theorem run_liftExcept (outcome : Except Failure β) :
    (ApiServer.liftExcept outcome).run.run server = (outcome, server) := by
  cases outcome <;> rfl

/-- Whether each run of a client on a server is a course on a model of it, after which the server
has the model that results. -/
def Follows (routes : List Route) (run : ApiServer.Run α) (course : Course α) : Prop :=
  ∀ server model result after, Mirrors routes server model →
    run.run.run server = (result, after) →
    ∃ made, course model result made ∧ Mirrors routes after (model.makeAll made)

theorem follows_pure (a : α) : Follows routes (pure a : ApiServer.Run α) (pure a) := by
  intro server model result after mirrors ran
  cases ran
  exact ⟨[], ⟨rfl, rfl⟩, mirrors⟩

/-- What follows courses one after the other follows the one that is made of them. -/
theorem Follows.bind {run : ApiServer.Run α} {course : Course α} {next : α → ApiServer.Run β}
    {rest : α → Course β} (first : Follows routes run course)
    (later : ∀ a, Follows routes (next a) (rest a)) :
    Follows routes (run >>= next) (course >>= rest) := by
  intro server model result after mirrors ran
  rcases run_bind_cases ran with ⟨failure, ran', rfl⟩ | ⟨a, between, ran', ran⟩
  · obtain ⟨made, goes, mirrors⟩ := first _ _ _ _ mirrors ran'
    exact ⟨made, .inl ⟨failure, goes, rfl⟩, mirrors⟩
  · obtain ⟨made, goes, mirrors⟩ := first _ _ _ _ mirrors ran'
    obtain ⟨made', goes', mirrors⟩ := later a _ _ _ _ mirrors ran
    rw [← ApiServer.makeAll_append] at mirrors
    exact ⟨made ++ made', .inr ⟨a, made, made', goes, goes', rfl⟩, mirrors⟩

end Runs

/-! ## Requests -/

/-- A request is not sent, or it is answered by a fault, or it is done as asked. The result is what
is read from the answer. -/
theorem Mirrors.ask {α : Type} (mirrors : Mirrors routes server model) {request : ApiRequest}
    {read : ApiReply → Except Failure α} {result : Except Failure α} {after : ApiServer}
    (ran : (do ApiServer.liftExcept (read (← ApiServer.send request)) :
      ApiServer.Run α).run.run server = (result, after)) :
    ((∃ failure, result = .error failure) ∧ Mirrors routes after model) ∨
      (∃ reply, reply.Fails ∧ result = read reply ∧ Mirrors routes after model) ∨
      ∃ ready, Mirrors routes ready model ∧ result = read (ready.perform request).1 ∧
        after = (ready.perform request).2 := by
  unfold ApiServer.send at ran
  split at ran
  · rcases run_bind_cases ran with ⟨failure, sent, _⟩ | ⟨reply, between, sent, ran⟩
    · cases sent
    have handled : (server.handle request) = (reply, between) := by
      cases sent
      rfl
    rw [run_liftExcept] at ran
    cases ran
    rcases mirrors.handle request with ⟨reply', _, handle, fails, mirrors⟩ | ⟨ready, handle, mirrors⟩
    · cases handled.symm.trans handle
      exact .inr (.inl ⟨reply, fails, rfl, mirrors⟩)
    · rw [handle] at handled
      exact .inr (.inr ⟨ready, mirrors, by rw [handled], by rw [handled]⟩)
  · cases ran
    exact .inl ⟨⟨_, rfl⟩, mirrors⟩

theorem ApiReply.Fails.readReply_eq {α : Type} {reply : ApiReply} (fails : reply.Fails)
    (read : Json → Option α) :
    ∃ failure, readReply read reply = .error failure ∧ failure ≠ .cluster (some 404) := by
  obtain ⟨failure, error, other⟩ := fails
  refine ⟨failure, ?_, other⟩
  rw [readReply, error]
  rfl

/-- A reply that says that nothing was done reports no change. -/
theorem ApiReply.Fails.reported_eq {reply : ApiReply} (fails : reply.Fails)
    (change : ClusterWrite) :
    ∃ failure, change.reported reply = .error failure ∧ failure ≠ .cluster (some 404) := by
  have object (kind : ResourceKind) :
      ∃ failure, (readReply (readObject? kind) reply).map (fun _ => ()) = .error failure ∧
        failure ≠ .cluster (some 404) := by
    obtain ⟨failure, error, other⟩ := fails.readReply_eq (readObject? kind)
    exact ⟨failure, map_eq_error_iff.2 error, other⟩
  have removed (kind : ResourceKind) :=
    fails.readReply_eq fun doc => if isRemoval kind doc then some () else none
  cases change with
  | applyService service => exact object .service
  | applyVirtualService resource => exact object .virtualService
  | deleteVirtualService key => exact removed .virtualService
  | deleteService key => exact removed .service

/-- A change is no success if the reply says that nothing was done. -/
theorem ApiReply.Fails.success_eq {reply : ApiReply} (fails : reply.Fails) (change : ClusterWrite) :
    ∃ failure, change.success reply = .error failure := by
  obtain ⟨failure, reported, other⟩ := fails.reported_eq change
  refine ⟨failure, ?_⟩
  rw [ClusterWrite.success_eq, reported]
  split
  · exact removal_eq_error_iff.2 ⟨rfl, fun missing => other (Except.error.inj missing)⟩
  · rfl

/-! ## Calls -/

/-- The routes of a server are listed as they are. -/
theorem follows_listRoutes :
    Follows routes ApiServer.client.listRoutes (concurrentClient routes).listRoutes := by
  intro server model result after mirrors ran
  have failed {after : ApiServer} (failure : Failure) (mirrors : Mirrors routes after model) :
      ∃ made, (concurrentClient routes).listRoutes model (.error failure) made ∧
        Mirrors routes after (model.makeAll made) :=
    ⟨[], ⟨rfl, .inr ⟨failure, rfl⟩⟩, mirrors⟩
  rw [ApiServer.client_listRoutes] at ran
  rcases mirrors.ask ran with ⟨⟨failure, rfl⟩, mirrors⟩ | ⟨reply, fails, rfl, mirrors⟩ |
    ⟨_, mirrors, rfl, rfl⟩
  · exact failed failure mirrors
  · obtain ⟨failure, error, _⟩ :=
      fails.readReply_eq fun doc => (listItems? doc).bind (List.mapM ApiObject.ofJson?)
    have unread : readRoutes reply = .error failure := map_eq_error_iff.2 error
    rw [unread]
    exact failed failure mirrors
  · cases reads : readRoutes (after.perform .listRoutes).1 with
    | error failure => exact failed failure mirrors
    | ok listed =>
      obtain ⟨objects, read, rfl⟩ := map_eq_ok_iff.1 reads
      have items : after.routes.mapM ApiObject.ofJson? = some objects := readReply_eq_ok_iff.1 read
      exact ⟨[], ⟨rfl, .inl (congrArg Except.ok (mirrors.routes_read objects items))⟩, mirrors⟩

/-- What is managed is listed as it is. -/
theorem follows_listManaged (kind : ResourceKind) :
    Follows routes (ApiServer.client.listManaged kind)
      ((concurrentClient routes).listManaged kind) := by
  intro server model result after mirrors ran
  rcases mirrors.ask ran with ⟨⟨failure, rfl⟩, mirrors⟩ | ⟨reply, fails, rfl, mirrors⟩ |
    ⟨ready, mirrors, rfl, rfl⟩
  · exact ⟨[], ⟨rfl, .inr ⟨failure, rfl⟩⟩, mirrors⟩
  · obtain ⟨failure, error, _⟩ :=
      fails.readReply_eq fun doc => (listItems? doc).bind (List.mapM (readObject? kind))
    refine ⟨[], ⟨rfl, .inr ⟨failure, ?_⟩⟩, mirrors⟩
    rw [readManaged, error]
    rfl
  · refine ⟨[], ⟨rfl, .inl (mirrors.listed_eq kind)⟩, ?_⟩
    cases kind <;> exact mirrors

/-- A change is made, or not; a call that succeeds has made it. -/
theorem follows_write (change : ClusterWrite) :
    Follows routes (ApiServer.write change) ((concurrentClient routes).writeAll [change]) := by
  intro server model result after mirrors ran
  have failed {after : ApiServer} (failure : Failure) (mirrors : Mirrors routes after model) :
      ∃ made, (concurrentClient routes).writeAll [change] model (.error failure) made ∧
        Mirrors routes after (model.makeAll made) :=
    ⟨[], List.nil_subperm, mirrors⟩
  rcases mirrors.ask ran with ⟨⟨failure, rfl⟩, mirrors⟩ | ⟨reply, fails, rfl, mirrors⟩ |
    ⟨ready, mirrors, rfl, rfl⟩
  · exact failed failure mirrors
  · obtain ⟨failure, error⟩ := fails.success_eq change
    rw [error]
    exact failed failure mirrors
  · refine ⟨[change], ?_, mirrors.make change⟩
    cases change.success (ready.perform change.request).1 with
    | error failure => exact List.Subperm.refl [change]
    | ok => exact List.Perm.refl [change]

/-- Changes that are made one after the other are among those that do not wait for each other. -/
theorem follows_writeAll (changes : List ClusterWrite) :
    Follows routes (ApiServer.client.writeAll changes)
      ((concurrentClient routes).writeAll changes) := by
  induction changes with
  | nil =>
    intro server model result after mirrors ran
    cases ran
    exact ⟨[], List.Perm.refl [], mirrors⟩
  | cons change changes ih =>
    intro server model result after mirrors ran
    obtain ⟨made, goes, mirrors⟩ := (follows_write change).bind (fun _ => ih) _ _ _ _ mirrors ran
    refine ⟨made, ?_, mirrors⟩
    rcases writeAll_bind_iff.1 goes with ⟨failure, rfl, some_made⟩ | ⟨first, rest, all, later, rfl⟩
    · exact some_made.trans (List.singleton_subperm_iff.2 List.mem_cons_self)
    · cases List.perm_singleton.1 all
      cases result with
      | error failure => exact (List.subperm_cons change).2 later
      | ok => exact List.Perm.cons change later

/-! ## Passes -/

theorem follows_runPass (gateways : List String) :
    Follows routes (runPass ApiServer.client gateways)
      (runPass (concurrentClient routes) gateways) := by
  unfold runPass
  refine follows_listRoutes.bind fun routes => ?_
  refine (follows_writeAll _).bind fun _ => (follows_writeAll _).bind fun _ => ?_
  refine (follows_listManaged .virtualService).bind fun virtualServices => ?_
  refine (follows_listManaged .service).bind fun services => ?_
  refine (follows_writeAll _).bind fun _ => (follows_writeAll _).bind fun _ => ?_
  exact follows_pure _

/-- An executed pass is a course of a pass over the routes of the server. -/
theorem exists_course_of_run (gateways : List String) (mirrors : Mirrors routes server server)
    {result : Except Failure PassSummary} {after : ApiServer}
    (ran : (runPass ApiServer.client gateways).run.run server = (result, after)) :
    ∃ made, runPass (concurrentClient routes) gateways server result made ∧
      ∀ kind key, after.get? kind key = (server.makeAll made).get? kind key := by
  obtain ⟨made, course, mirrors⟩ := follows_runPass gateways _ _ _ _ mirrors ran
  exact ⟨made, course, mirrors.same⟩

/-- An executed pass that succeeds leaves under the keys of a server what settles it. -/
theorem exists_settles_of_run (guids : (destinationGuids routes).Nodup)
    (digests : ∀ a ∈ routes, ∀ b ∈ routes, Sha256.hex a.fqdn = Sha256.hex b.fqdn → a.fqdn = b.fqdn)
    (wellKeyed : server.WellKeyed) (mirrors : Mirrors routes server server) {gateways : List String}
    {summary : PassSummary} {after : ApiServer}
    (ran : (runPass ApiServer.client gateways).run.run server = (.ok summary, after)) :
    ∃ settled, Settles (compile gateways routes) server settled ∧
      ∀ kind key, after.get? kind key = settled.get? kind key := by
  obtain ⟨made, course, same⟩ := exists_course_of_run gateways mirrors ran
  obtain ⟨plan, completion⟩ := completion_of_runPass_ok course
  exact ⟨_, completion.settles guids digests wellKeyed, same⟩

end MeshRoutes
