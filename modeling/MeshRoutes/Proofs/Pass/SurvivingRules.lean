import MeshRoutes.Proofs.Pass.History
import MeshRoutes.Proofs.Pass.Removal

/-!
# Rules that survive

A rule that is kept because its domain name is skipped may refer to a service that an earlier
snapshot of the routes gave it. The service carries the domain name that the latest snapshot gave
it. Where a destination has moved to another domain name in between, the service is removed with
that name, and the rule that is kept refers to nothing.

* `ApiServer.RoutesTo`: whether a rule on a server refers to a service.
* `Strands`: when a pass may remove a service to which a rule refers that is kept.
* `BreaksNoRule`: whether no pass does so. If something is stranded, one does
  (`Strands.exists_break`), and otherwise none does (`breaksNoRule_of_forall_not_strands`).
* `breaksNoRule_of_destinations_stay`: none does while destinations keep their domain names.
-/

namespace MeshRoutes

/-- Whether a managed virtual service in the namespace of a key has its name as a backend. -/
def ApiServer.RoutesTo (server : ApiServer) (key : ObjectKey) : Prop :=
  ∃ place doc fqdn resource, server.get? .virtualService place = some doc ∧
    doc.owner? .virtualService = some fqdn ∧ place.ns = key.ns ∧
    VirtualService.ofDocument? doc = some resource ∧ key.name ∈ resource.backendHosts

/-- Whether a pass over some routes, after others, may keep a virtual service and remove a service
behind it. Both were compiled from earlier snapshots, so that they may meet, and the service is a
backend in the same namespace. The present routes compile to neither. The domain name of the virtual
service is skipped, and neither that of the service is nor the destination for which the service
stands. -/
structure Strands (gateways : List String) (earlier : List (List Route)) (routes : List Route)
    (resource : VirtualService) (service : Service) : Prop where
  meet : ∃ i j : Nat, ∃ rules services, earlier[i]? = some rules ∧
    resource ∈ (compile gateways rules).virtualServices ∧ earlier[j]? = some services ∧
    service ∈ (compile gateways services).services ∧
    (i ≤ j ∨ service.metadata.key ∉ (compile gateways rules).keys .service)
  namespace_eq : service.metadata.ns = resource.metadata.ns
  host_mem : service.metadata.name ∈ resource.backendHosts
  rule_absent : resource.metadata.key ∉ (compile gateways routes).keys .virtualService
  rule_skipped : ∃ skipped ∈ (compile gateways routes).skippedFqdns,
    resource.fqdn? = some skipped.fqdn
  service_absent : service.metadata.key ∉ (compile gateways routes).keys .service
  service_not_skipped : ∀ skipped ∈ (compile gateways routes).skippedFqdns,
    service.fqdn? ≠ some skipped.fqdn
  destination_not_skipped : ∀ skipped ∈ (compile gateways routes).skippedDestinations,
    serviceName skipped.destination ≠ service.metadata.name

variable {gateways : List String} {earlier : List (List Route)} {routes : List Route}
  {start server : ApiServer} {made : List ClusterWrite} {key : ObjectKey}

/-! ## What is stranded -/

theorem storedBy_virtualService {snapshots : List (List Route)} {i : Nat} {doc : Json}
    (stored : StoredBy gateways snapshots i .virtualService key doc) :
    ∃ routes resource, snapshots[i]? = some routes ∧
      resource ∈ (compile gateways routes).virtualServices ∧ resource.metadata.key = key ∧
      resource.toJson = doc := by
  obtain ⟨routes, at_i, change, write, concerns, left⟩ := stored
  rcases Compiled.mem_writes_iff.1 write with ⟨_, _, rfl⟩ | ⟨resource, mem, rfl⟩
  · cases concerns.1
  · exact ⟨routes, resource, at_i, mem, concerns.2, Option.some.inj left⟩

theorem storedBy_service {snapshots : List (List Route)} {i : Nat} {doc : Json}
    (stored : StoredBy gateways snapshots i .service key doc) :
    ∃ routes service, snapshots[i]? = some routes ∧
      service ∈ (compile gateways routes).services ∧ service.metadata.key = key ∧
      service.toJson = doc := by
  obtain ⟨routes, at_i, change, write, concerns, left⟩ := stored
  rcases Compiled.mem_writes_iff.1 write with ⟨service, mem, rfl⟩ | ⟨_, _, rfl⟩
  · exact ⟨routes, service, at_i, mem, concerns.2, Option.some.inj left⟩
  · cases concerns.1

theorem StoredBy.isAt {snapshots : List (List Route)} {i : Nat} {kind : ResourceKind} {doc : Json}
    (stored : StoredBy gateways snapshots i kind key doc) : doc.IsAt key := by
  obtain ⟨routes, _, change, write, ⟨_, rfl⟩, left⟩ := stored
  obtain ⟨doc', left', at_key, _⟩ := exists_document?_of_mem_writes write
  cases left.symm.trans left'
  exact at_key

/-- A virtual service that a pass stores refers to no service that the pass removes. -/
theorem PassProgress.not_mem_backendHosts
    (progress : PassProgress (compile gateways routes) server made) {resource : VirtualService}
    (written : ClusterWrite.applyVirtualService resource ∈ made)
    (removed : ClusterWrite.deleteService key ∈ made) (same : resource.metadata.ns = key.ns) :
    key.name ∉ resource.backendHosts := by
  intro host_mem
  have gone : (server.makeAll made).get? .service key = none :=
    progress.get?_of_delete (show ClusterWrite.delete .service key ∈ made from removed)
  rcases progress.backs written key.name host_mem with
    ⟨service, _, _, found⟩ | ⟨skipped, skipped_mem, name⟩
  · rw [same, gone] at found
    cases found
  · cases progress.change removed with
    | deleteService applied front drawn all_d mem =>
      have spared : (compile gateways routes).Spares .service _ := Or.inr ⟨skipped, skipped_mem, name⟩
      exact (drawn.mem_removed.1 mem).2.2 spared

/-- When a service is removed, a rule that is left was there before, and its domain name is
skipped. -/
theorem PassProgress.spares_of_survives
    (progress : PassProgress (compile gateways routes) server made)
    (removed : ClusterWrite.deleteService key ∈ made) {place : ObjectKey} {doc : Json}
    {fqdn : String} (found : (server.makeAll made).get? .virtualService place = some doc)
    (at_place : doc.IsAt place) (owner : doc.owner? .virtualService = some fqdn)
    (absent : place ∉ (compile gateways routes).keys .virtualService) :
    server.get? .virtualService place = some doc ∧
      ∃ skipped ∈ (compile gateways routes).skippedFqdns, skipped.fqdn = fqdn := by
  have kept : ClusterWrite.delete .virtualService place ∉ made := by
    intro gone
    rw [progress.get?_of_delete gone] at found
    cases found
  rw [progress.get?_of_not_delete absent kept] at found
  refine ⟨found, ?_⟩
  cases progress.change removed with
  | @deleteService s v d plan resource applied front drawn all_d mem =>
    have stored : PassProgress (compile gateways routes) server (s ++ v) :=
      .virtualServices applied.services_perm applied.virtualServices_perm.subperm
    have listed : (server.makeAll (s ++ v)).get? .virtualService place = some doc := by
      rw [stored.get?_of_not_delete absent fun mem =>
        Compiled.delete_not_mem_writes (applied.perm_writes.subset mem)]
      exact found
    by_contra useless
    have managed := drawn.managed?_of_owner? listed at_place owner
    have planned := drawn.mem_removed.2 ⟨⟨place, doc, listed, managed⟩, absent, useless⟩
    refine kept (front.subset (List.mem_append_right _ (List.mem_append_right _ ?_)))
    exact all_d.symm.subset (List.mem_map_of_mem planned)

/-- When a service is removed to which a rule refers that is left, the rule is not one to which the
routes compile. -/
theorem PassProgress.not_mem_keys_of_refers
    (progress : PassProgress (compile gateways routes) server made)
    (removed : ClusterWrite.deleteService key ∈ made) {place : ObjectKey} {doc : Json}
    {resource : VirtualService}
    (found : (server.makeAll made).get? .virtualService place = some doc)
    (same : place.ns = key.ns) (read : VirtualService.ofDocument? doc = some resource)
    (host_mem : key.name ∈ resource.backendHosts) :
    place ∉ (compile gateways routes).keys .virtualService := by
  intro place_mem
  obtain ⟨_, _, _, written, _⟩ := progress.of_deleteService removed
  obtain ⟨own, own_mem, own_key⟩ := List.mem_map.1 place_mem
  rcases ApiServer.get?_makeAll_cases server made .virtualService place with
    ⟨change, mem, concerns, left⟩ | ⟨none, _⟩
  · rcases (progress.change mem).of_concerns concerns with ⟨_, write⟩ | ⟨absent, _⟩
    · rcases Compiled.mem_writes_iff.1 write with ⟨_, _, rfl⟩ | ⟨stored, _, rfl⟩
      · cases concerns.1
      · rw [found] at left
        cases left
        cases stored.ofDocument?_toJson.symm.trans read
        exact progress.not_mem_backendHosts mem removed
          ((congrArg ObjectKey.ns concerns.2).trans same) host_mem
    · exact absent place_mem
  · exact none _ (written own own_mem) ⟨rfl, own_key⟩

/-- A rule that is left without a service was stranded. -/
theorem exists_strands (traced : Traced gateways earlier server)
    (progress : PassProgress (compile gateways routes) server made)
    (removed : ClusterWrite.deleteService key ∈ made)
    (routesTo : (server.makeAll made).RoutesTo key) :
    ∃ resource service, Strands gateways earlier routes resource service := by
  obtain ⟨place, rule, fqdn, resource, found, owner, same_ns, read, host_mem⟩ := routesTo
  have rule_absent := progress.not_mem_keys_of_refers removed found same_ns read host_mem
  obtain ⟨_, stored, _⟩ := (traced.makeAll progress).rules place rule fqdn found owner
  obtain ⟨before, skipped, skipped_mem, skipped_fqdn⟩ :=
    progress.spares_of_survives removed found stored.isAt owner rule_absent
  -- the rule and the service are from earlier passes, and the service may meet the rule
  obtain ⟨i, stored, meets⟩ := traced.rules place rule fqdn before owner
  obtain ⟨rules, own, at_i, own_mem, rfl, rfl⟩ := storedBy_virtualService stored
  cases own.ofDocument?_toJson.symm.trans read
  obtain ⟨service_absent, doc, fqdn', found', owner', useless⟩ :=
    progress.of_delete (show ClusterWrite.delete .service key ∈ made from removed)
      fun key doc fqdn found owner =>
      (traced.services key doc fqdn found owner).elim fun _ stored => stored.isAt
  obtain ⟨j, stored', meet⟩ := meets key doc fqdn' found' owner'
  obtain ⟨services, service, at_j, service_mem, rfl, rfl⟩ := storedBy_service stored'
  have service_fqdn : service.fqdn? = some fqdn' := by
    obtain ⟨own_fqdn, of_own, own_owner⟩ := owner?_of_mem_services service_mem
    rw [of_own, ← own_owner, owner']
  refine ⟨resource, service, ⟨i, j, rules, services, at_i, own_mem, at_j, service_mem, ?_⟩,
    same_ns.symm, host_mem, rule_absent, ⟨skipped, skipped_mem, ?_⟩, service_absent, ?_, ?_⟩
  · exact meet.imp_right fun apart => apart rules at_i
  · rw [← resource.owner?_toJson, owner, skipped_fqdn]
  · intro other other_mem same
    rw [service_fqdn] at same
    exact useless (.inl ⟨other, other_mem, (Option.some.inj same).symm⟩)
  · intro other other_mem same
    exact useless (.inr ⟨other, other_mem, same⟩)

/-! ## How it is stranded -/

/-- A pass may end when it has stored all services, and a virtual service as the last of its kind.
The services are then those that were stored. -/
theorem exists_progress_storing {compiled : Compiled} {resource : VirtualService}
    (mem : resource ∈ compiled.virtualServices) {s : List ClusterWrite}
    (all_s : s.Perm compiled.serviceWrites) (server : ApiServer) :
    ∃ made, PassProgress compiled server made ∧
      (server.makeAll made).get? .virtualService resource.metadata.key = some resource.toJson ∧
      ∀ key, (server.makeAll made).get? .service key = (server.makeAll s).get? .service key := by
  obtain ⟨rest, all_v⟩ := exists_perm_append_singleton
    (show ClusterWrite.applyVirtualService resource ∈ compiled.virtualServiceWrites from
      List.mem_map_of_mem mem)
  refine ⟨s ++ (rest ++ [.applyVirtualService resource]), .virtualServices all_s all_v.subperm, ?_, ?_⟩
  · rw [← List.append_assoc]
    exact ApiServer.get?_makeAll_append_singleton server _ (.applyVirtualService resource)
  · intro key
    rw [ApiServer.makeAll_append]
    refine ApiServer.get?_makeAll_of_unconcerned fun change change_mem concerns => ?_
    obtain ⟨_, _, rfl⟩ := List.mem_map.1 (all_v.subset change_mem)
    cases concerns.1

/-- What was compiled from two snapshots so that it may meet does meet in some history. -/
theorem Strands.exists_history {resource : VirtualService} {service : Service}
    (strands : Strands gateways earlier routes resource service) (start : ApiServer) :
    ∃ server, History gateways start earlier server ∧
      server.get? .virtualService resource.metadata.key = some resource.toJson ∧
      server.get? .service service.metadata.key = some service.toJson := by
  obtain ⟨i, j, rules, services, at_i, rule_mem, at_j, service_mem, meet⟩ := strands.meet
  have nothing : History gateways start (earlier.take 0) start := .nil
  have service_write : ClusterWrite.applyService service ∈ (compile gateways services).serviceWrites :=
    List.mem_map_of_mem service_mem
  -- a pass that stores the service and nothing else
  have only_service (server : ApiServer) : PassProgress (compile gateways services) server
      [.applyService service] := .services (List.singleton_subperm_iff.2 service_write)
  have service_found (server : ApiServer) : (server.makeAll [.applyService service]).get? .service
      service.metadata.key = some service.toJson :=
    ApiServer.get?_makeAll_append_singleton server [] (.applyService service)
  rcases Nat.lt_trichotomy i j with lt | rfl | gt
  · -- the rule is older
    obtain ⟨made, progress, rule_found, _⟩ := exists_progress_storing rule_mem (.refl _) start
    refine ⟨(start.makeAll made).makeAll [.applyService service], ?_, ?_, service_found _⟩
    · exact ((nothing.extend (Nat.zero_le i) at_i progress).extend lt at_j (only_service _)).finish
    · rw [← rule_found]
      exact ApiServer.get?_make _ _ _ _
  · -- both are from one pass, which stores the service as the last of its kind
    cases at_i.symm.trans at_j
    obtain ⟨rest, all_s⟩ := exists_perm_append_singleton service_write
    obtain ⟨made, progress, rule_found, services_found⟩ :=
      exists_progress_storing rule_mem all_s start
    refine ⟨start.makeAll made, (nothing.extend (Nat.zero_le i) at_i progress).finish, rule_found, ?_⟩
    rw [services_found]
    exact ApiServer.get?_makeAll_append_singleton start rest (.applyService service)
  · -- the service is older, and the pass that stores the rule does not replace it
    have apart := meet.resolve_left (Nat.not_le.2 gt)
    obtain ⟨made, progress, rule_found, services_found⟩ := exists_progress_storing rule_mem (.refl _)
      (start.makeAll [.applyService service])
    refine ⟨(start.makeAll [.applyService service]).makeAll made, ?_, rule_found, ?_⟩
    · exact ((nothing.extend (Nat.zero_le j) at_j (only_service _)).extend gt at_i progress).finish
    · rw [services_found, ApiServer.get?_makeAll_of_unconcerned]
      · exact service_found start
      · intro change mem concerns
        exact apart (Compiled.mem_keys_iff.2 ⟨change, List.mem_append_left _ mem, concerns⟩)

theorem History.readable {start : ApiServer} {snapshots : List (List Route)}
    (history : History gateways start snapshots server) (readable : start.Readable) :
    server.Readable := by
  induction history with
  | nil => exact readable
  | snoc earlier course ih => exact ih.makeAll (progress_of_runPass course)

theorem History.wellKeyed {start : ApiServer} {snapshots : List (List Route)}
    (history : History gateways start snapshots server) (wellKeyed : start.WellKeyed) :
    server.WellKeyed := by
  induction history with
  | nil => exact wellKeyed
  | snoc earlier course ih => exact ih.makeAll (progress_of_runPass course)

/-- What is stranded is left without its service by a pass that succeeds. -/
theorem Strands.exists_break {resource : VirtualService} {service : Service}
    (strands : Strands gateways earlier routes resource service) :
    ∃ server made summary, History gateways {} earlier server ∧
      runPass (concurrentClient routes) gateways server (.ok summary) made ∧
      ClusterWrite.deleteService service.metadata.key ∈ made ∧
      (server.makeAll made).RoutesTo service.metadata.key := by
  obtain ⟨server, history, rule_found, service_found⟩ := strands.exists_history {}
  have readable : server.Readable := history.readable ApiServer.readable_empty
  have wellKeyed : server.WellKeyed := history.wellKeyed ApiServer.wellKeyed_empty
  obtain ⟨plan, made, completion⟩ := readable.exists_completion gateways routes
  obtain ⟨i, j, rules, services, _, rule_mem, _, service_mem, _⟩ := strands.meet
  obtain ⟨rule_fqdn, of_rule, rule_owner⟩ := owner?_of_mem_virtualServices rule_mem
  obtain ⟨service_fqdn, of_service, service_owner⟩ := owner?_of_mem_services service_mem
  refine ⟨server, made, _, history, runPass_of_completion completion, ?_, ?_⟩
  · -- the service is not kept
    refine completion.delete_mem wellKeyed service_found service_owner strands.service_absent ?_
    intro spared
    rcases spared with ⟨skipped, mem, same⟩ | ⟨skipped, mem, same⟩
    · exact strands.service_not_skipped skipped mem (of_service.trans (congrArg some same.symm))
    · exact strands.destination_not_skipped skipped mem same
  · -- the rule is
    obtain ⟨skipped, mem, same⟩ := strands.rule_skipped
    have keeps : (compile gateways routes).Keeps .virtualService resource.metadata.key
        resource.toJson := by
      intro fqdn owner
      rw [resource.owner?_toJson, same] at owner
      exact ⟨skipped, mem, Option.some.inj owner⟩
    have left := (completion.get?_other wellKeyed strands.rule_absent _).2 ⟨rule_found, keeps⟩
    exact ⟨_, _, _, _, left, rule_owner, strands.namespace_eq.symm, resource.ofDocument?_toJson,
      strands.host_mem⟩

/-! ## When no rule is left without a service -/

/-- Whether a pass over some routes, after a history over others, removes no service to which a
managed virtual service refers that is still there. -/
def BreaksNoRule (gateways : List String) (earlier : List (List Route)) (routes : List Route) :
    Prop :=
  ∀ (start server : ApiServer) (result : Except Failure PassSummary) (made : List ClusterWrite),
    start.IsFresh → History gateways start earlier server →
    runPass (concurrentClient routes) gateways server result made →
    ∀ key, ClusterWrite.deleteService key ∈ made → ¬(server.makeAll made).RoutesTo key

/-- Where nothing is stranded, no rule is left without a service. -/
theorem breaksNoRule_of_forall_not_strands
    (none : ∀ resource service, ¬Strands gateways earlier routes resource service) :
    BreaksNoRule gateways earlier routes := by
  intro start server result made fresh history course key removed routesTo
  obtain ⟨resource, service, strands⟩ :=
    exists_strands (history.traced fresh) (progress_of_runPass course) removed routesTo
  exact none resource service strands

/-- A pass removes a service behind a rule that is kept exactly when one of the earlier rules is
stranded with one of the earlier services. -/
theorem breaksNoRule_iff :
    BreaksNoRule gateways earlier routes ↔
      ∀ resource service, ¬Strands gateways earlier routes resource service := by
  constructor
  · intro safe resource service strands
    obtain ⟨server, made, summary, history, course, removed, routesTo⟩ := strands.exists_break
    exact safe {} server _ made ApiServer.isFresh_empty history course _ removed routesTo
  · exact breaksNoRule_of_forall_not_strands

/-- While no destination moves from one domain name to another, no rule is left without a
service. -/
theorem breaksNoRule_of_destinations_stay (fqdnOf : String → String)
    (stay : ∀ snapshot ∈ earlier, ∀ route ∈ snapshot, ∀ destination ∈ route.destinations,
      route.fqdn = fqdnOf destination.guid) : BreaksNoRule gateways earlier routes := by
  refine breaksNoRule_of_forall_not_strands fun resource service strands => ?_
  obtain ⟨i, j, rules, services, at_i, rule_mem, at_j, service_mem, _⟩ := strands.meet
  obtain ⟨group, _, compiled⟩ := mem_virtualServices_compile.1 rule_mem
  have compiles := group.compiles compiled
  obtain ⟨behind, behind_fqdn, _, name⟩ := compiles.exists_endpoint strands.host_mem
  obtain ⟨endpoint, compiled'⟩ := mem_services_compile.1 service_mem
  have own_name := congrArg ObjectKey.name (key_of_serviceFor_eq_ok compiled')
  have guid : endpoint.destination.guid = behind.destination.guid :=
    serviceName_inj (own_name.symm.trans name)
  have same : endpoint.route.fqdn = group.fqdn := by
    rw [stay services (List.mem_of_getElem? at_j) _ endpoint.route_mem _ endpoint.destination_mem,
      guid, ← stay rules (List.mem_of_getElem? at_i) _ behind.route_mem _ behind.destination_mem,
      behind_fqdn]
  obtain ⟨skipped, mem, rule_fqdn⟩ := strands.rule_skipped
  rw [compiles.fqdn?_eq, ← same, ← fqdn?_of_serviceFor_eq_ok compiled'] at rule_fqdn
  exact strands.service_not_skipped skipped mem rule_fqdn

/-! ## A destination that moves -/

section Moves

/-- A route whose only destination has a share that is not the whole is not served. -/
theorem compile_single_plainRoute (host guid : String) :
    (FqdnGroup.single (plainRoute host guid (some 80))).compile gateways =
      .error (.weightSumInvalid ("r-" ++ host) 80) := by
  rw [FqdnGroup.compile_single rfl]
  rfl

theorem guid_of_plainRoute {host guid : String} {weight : Option UInt32}
    (endpoint : Endpoint [plainRoute host guid weight]) : endpoint.destination.guid = guid := by
  have mem := endpoint.destination_mem
  rw [List.mem_singleton.1 endpoint.route_mem] at mem
  exact congrArg Destination.guid (List.mem_singleton.1 mem)

/-- A domain name is served. Then its route is given another destination, with a share that is not
the whole, so that the rule is kept, and the old destination moves to another domain name. When the
route of that domain name is gone, so is the service. -/
theorem exists_strands_of_moved_destination : ∃ resource service, Strands []
    [[plainRoute "a" "d-0" none], [plainRoute "a" "d-1" (some 80), plainRoute "b" "d-0" none]]
    [plainRoute "a" "d-1" (some 80)] resource service := by
  obtain ⟨resource, compiled⟩ := exists_compile_single_plainRoute [] "a" "d-0"
  have hosts : resource.backendHosts = [serviceName "d-0"] := by
    rw [FqdnGroup.compile_single rfl] at compiled
    cases compiled
    rfl
  have compiles := FqdnGroup.compiles compiled
  let moved : Endpoint [plainRoute "a" "d-1" (some 80), plainRoute "b" "d-0" none] :=
    ⟨plainRoute "b" "d-0" none, _, List.mem_cons_of_mem _ List.mem_cons_self, List.mem_cons_self⟩
  obtain ⟨service, stored⟩ : ∃ service, serviceFor moved.route moved.destination = .ok service :=
    ⟨_, rfl⟩
  have key := key_of_serviceFor_eq_ok stored
  have name : service.metadata.name = serviceName "d-0" := congrArg ObjectKey.name key
  have other_name {guid : String} (same : guid = "d-1") : serviceName guid ≠ serviceName "d-0" := by
    rw [same]
    decide
  refine ⟨resource, service, ⟨0, 1, _, _, rfl, (mem_virtualServices_compile_single rfl).2 compiled,
    rfl, mem_services_compile.2 ⟨moved, stored⟩, .inl (Nat.zero_le 1)⟩, ?_, ?_, ?_, ?_, ?_, ?_, ?_⟩
  · exact (congrArg ObjectKey.ns key).trans (congrArg ObjectKey.ns compiles.key_eq).symm
  · rw [hosts, name]
    exact List.mem_singleton_self _
  · intro mem
    obtain ⟨other, other_mem, _⟩ := List.mem_map.1 mem
    rw [mem_virtualServices_compile_single rfl, compile_single_plainRoute] at other_mem
    cases other_mem
  · exact ⟨⟨"a.example.com", _⟩, (mem_skippedFqdns_compile_single rfl).2
      ⟨rfl, compile_single_plainRoute "a" "d-1"⟩, compiles.fqdn?_eq⟩
  · intro mem
    obtain ⟨other, other_mem, same⟩ := List.mem_map.1 mem
    obtain ⟨endpoint, compiled'⟩ := mem_services_compile.1 other_mem
    rw [key_of_serviceFor_eq_ok compiled', key] at same
    exact other_name (guid_of_plainRoute endpoint) (congrArg ObjectKey.name same)
  · intro skipped mem same
    obtain ⟨fqdn, _⟩ := (mem_skippedFqdns_compile_single rfl).1 mem
    rw [fqdn?_of_serviceFor_eq_ok stored, ← fqdn] at same
    exact absurd same (by decide)
  · intro skipped mem same
    obtain ⟨endpoint, guid, _⟩ := mem_skippedDestinations_compile.1 mem
    rw [name] at same
    exact other_name (guid.symm.trans (guid_of_plainRoute endpoint)) same

/-- Guids that are unique within each snapshot do not keep rules from being left without a
service. -/
theorem breaks_rule_despite_unique_guids :
    ¬∀ gateways earlier routes,
      (∀ snapshot ∈ earlier ++ [routes], (destinationGuids snapshot).Nodup) →
        BreaksNoRule gateways earlier routes := by
  intro safe
  obtain ⟨resource, service, strands⟩ := exists_strands_of_moved_destination
  obtain ⟨server, made, summary, history, course, removed, routesTo⟩ := strands.exists_break
  exact safe _ _ _ (by decide) {} server _ made ApiServer.isFresh_empty history course _ removed
    routesTo

end Moves

end MeshRoutes
