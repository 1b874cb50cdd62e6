import Mathlib.Data.Fintype.EquivFin
import MeshRoutes.Proofs.Pass.Removal
import MeshRoutes.Proofs.Pass.Staleness
import MeshRoutes.Route.Listing

/-!
# Routes that can no longer be read

An object that cannot be read as a route is passed over when routes are listed. What is skipped is
recorded of routes only, so nothing is recorded of such an object, and what an earlier version of it
was compiled to is removed by the next pass, unless the other routes make up for it.

* `MakeUpFor`: whether the other routes make up for one that is missing.
* `removesNothingOf_missing_iff`: when two passes remove nothing of the domain name of a route that
  only the first of them finds.
* `SurvivesUpdate`: whether nothing of a domain name is removed when another version of an object is
  listed in its place.
-/

namespace MeshRoutes

/-- Whether a domain name is skipped. -/
def Compiled.SkipsFqdn (compiled : Compiled) (fqdn : String) : Prop :=
  ∃ skipped ∈ compiled.skippedFqdns, skipped.fqdn = fqdn

/-- Whether a destination is skipped. -/
def Compiled.SkipsDestination (compiled : Compiled) (guid : String) : Prop :=
  ∃ skipped ∈ compiled.skippedDestinations, skipped.destination = guid

/-- Whether some routes make up for one that is missing among them, where the domain name is not
skipped with it: everything the route has a part in is compiled without it as well, or skipped. If
the route has destinations, the others compile to a virtual service in the place of its own, and
each destination is skipped without the route, or has a service, and the others compile to one in
the place of it. -/
structure MakeUpFor (gateways : List String) (others : List Route) (route : Route)
    (routes : List Route) : Prop where
  not_skipped : ¬(compile gateways routes).SkipsFqdn route.fqdn
  virtualService : route.destinations ≠ [] →
    ⟨route.metadata.ns.getD "", virtualServiceName route.fqdn⟩ ∈
      (compile gateways others).keys .virtualService
  services : ∀ destination ∈ route.destinations,
    (compile gateways others).SkipsDestination destination.guid ∨
      (∃ service, serviceFor route destination = .ok service) ∧
        ⟨route.metadata.ns.getD "", serviceName destination.guid⟩ ∈
          (compile gateways others).keys .service

variable {gateways : List String} {routes others : List Route} {route : Route} {fqdn : String}
  {compiled : Compiled} {kind : ResourceKind} {key : ObjectKey}

/-! ## Places -/

theorem Compiled.SkipsFqdn.preserves (skips : compiled.SkipsFqdn fqdn) (kind : ResourceKind)
    (key : ObjectKey) : compiled.Preserves fqdn kind key := by
  cases kind with
  | virtualService => exact .inr skips
  | service => exact .inr (.inl skips)

theorem Compiled.SkipsDestination.preserves {guid : String} (skips : compiled.SkipsDestination guid)
    (name : serviceName guid = key.name) : compiled.Preserves fqdn .service key := by
  obtain ⟨skipped, mem, rfl⟩ := skips
  exact .inr (.inr ⟨skipped, mem, name⟩)

theorem Endpoint.skipsDestination (gateways : List String) (endpoint : Endpoint routes)
    {reason : Reason} (failed : serviceFor endpoint.route endpoint.destination = .error reason) :
    (compile gateways routes).SkipsDestination endpoint.destination.guid :=
  ⟨⟨endpoint.destination.guid, reason⟩,
    mem_skippedDestinations_compile.2 ⟨endpoint, rfl, failed⟩, rfl⟩

/-- Routes compile to resources in their own namespaces. -/
theorem exists_route_of_mem_keys (mem : key ∈ (compile gateways routes).keys kind) :
    ∃ route ∈ routes, route.namespaceName = key.ns := by
  cases kind with
  | virtualService =>
    obtain ⟨route, route_mem, _, _, rfl⟩ := mem_keys_virtualService_iff.1 mem
    exact ⟨route, route_mem, rfl⟩
  | service =>
    obtain ⟨route, route_mem, _, _, _, rfl⟩ := mem_keys_service_iff.1 mem
    exact ⟨route, route_mem, rfl⟩

theorem exists_fresh_namespace (routes : List Route) :
    ∃ ns : String, ∀ route ∈ routes, route.namespaceName ≠ ns := by
  obtain ⟨ns, fresh⟩ := Infinite.exists_notMem_finset (routes.map Route.namespaceName).toFinset
  refine ⟨ns, fun route mem same => fresh ?_⟩
  rw [List.mem_toFinset]
  exact List.mem_map.2 ⟨route, mem, same⟩

/-! ## A route that is missing -/

section Missing

variable (missing : routes.Perm (route :: others))

include missing

theorem mem_iff_of_missing {other : Route} : other ∈ routes ↔ other = route ∨ other ∈ others :=
  missing.mem_iff.trans List.mem_cons

theorem mem_routesServing_of_missing : route ∈ routesServing route.fqdn routes :=
  mem_routesServing.2 ⟨(mem_iff_of_missing missing).2 (.inl rfl), rfl⟩

/-- There is a namespace where nothing is compiled with the route, nor without it. -/
theorem exists_namespace_not_mem_keys (gateways : List String) :
    ∃ ns : String, ∀ kind name, ⟨ns, name⟩ ∉ (compile gateways routes).keys kind ∧
      ⟨ns, name⟩ ∉ (compile gateways others).keys kind := by
  obtain ⟨ns, fresh⟩ := exists_fresh_namespace routes
  refine ⟨ns, fun kind name => ⟨fun mem => ?_, fun mem => ?_⟩⟩
  · obtain ⟨other, other_mem, same⟩ := exists_route_of_mem_keys mem
    exact fresh other other_mem same
  · obtain ⟨other, other_mem, same⟩ := exists_route_of_mem_keys mem
    exact fresh other ((mem_iff_of_missing missing).2 (.inr other_mem)) same

/-! ### Others make up for it -/

/-- What may be left of the virtual service of the domain name is stored again. -/
theorem MakeUpFor.preserves_virtualService (makesUp : MakeUpFor gateways others route routes)
    (holds : MayHold gateways routes route.fqdn .virtualService key) :
    (compile gateways others).Preserves route.fqdn .virtualService key := by
  rcases mayHold_virtualService_iff.1 holds with ⟨resource, mem, rfl, serves⟩ | ⟨_, skips⟩
  · by_cases none : route.destinations = []
    · -- the route has no part in the virtual service, another has
      obtain ⟨some_destination, servable⟩ :=
        mem_servedFqdns_compile.1 (List.mem_filterMap.2 ⟨resource, mem, serves⟩)
      obtain ⟨other, other_mem, other_some⟩ := some_destination
      have other_ne : other ≠ route := fun same => other_some (same ▸ none)
      have without_mem : other ∈ routesServing route.fqdn others := by
        obtain ⟨mem, serves⟩ := mem_routesServing.1 other_mem
        have mem := ((mem_iff_of_missing missing).1 mem).resolve_left other_ne
        exact mem_routesServing.2 ⟨mem, serves⟩
      have servable' : Servable (routesServing route.fqdn others) := by
        refine servable.of_subset fun other mem => ?_
        obtain ⟨mem, serves⟩ := mem_routesServing.1 mem
        exact mem_routesServing.2 ⟨(mem_iff_of_missing missing).2 (.inr mem), serves⟩
      obtain ⟨resource', mem', key_eq, _⟩ := exists_virtualService_of_servable gateways without_mem
        ⟨other, without_mem, other_some⟩ servable'
      rw [key_eq_of_serves mem serves other_mem, ← key_eq]
      exact .inl (List.mem_map_of_mem mem')
    · rw [key_eq_of_serves mem serves (mem_routesServing_of_missing missing)]
      exact .inl (makesUp.virtualService none)
  · exact (makesUp.not_skipped skips).elim

/-- What may be left of the services of the domain name is stored again, or spared. -/
theorem MakeUpFor.preserves_service (makesUp : MakeUpFor gateways others route routes)
    (holds : MayHold gateways routes route.fqdn .service key) :
    (compile gateways others).Preserves route.fqdn .service key := by
  rcases mayHold_service_iff.1 holds with ⟨endpoint, _, ⟨service, compiled⟩, rfl⟩ | ⟨_, spared⟩
  · obtain ⟨other, destination, mem, destination_mem⟩ := endpoint
    rcases (mem_iff_of_missing missing).1 mem with rfl | mem
    · rcases makesUp.services destination destination_mem with skips | ⟨_, compiles⟩
      · exact skips.preserves rfl
      · exact .inl compiles
    · exact .inl (Endpoint.mem_keys ⟨other, destination, mem, destination_mem⟩ compiled)
  · rcases spared with skips | ⟨skipped, skipped_mem, name⟩
    · exact (makesUp.not_skipped skips).elim
    · obtain ⟨endpoint, guid, failed⟩ := mem_skippedDestinations_compile.1 skipped_mem
      rw [← guid] at name
      obtain ⟨other, destination, mem, destination_mem⟩ := endpoint
      rcases (mem_iff_of_missing missing).1 mem with rfl | mem
      · rcases makesUp.services destination destination_mem with skips | ⟨⟨service, compiled⟩, _⟩
        · exact skips.preserves name
        · cases failed.symm.trans compiled
      · let endpoint : Endpoint others := ⟨other, destination, mem, destination_mem⟩
        exact (endpoint.skipsDestination gateways failed).preserves name

/-! ### Everything that may be left is preserved -/

section Preserved

variable (unskipped : ¬(compile gateways others).SkipsFqdn route.fqdn)
  (preserved : ∀ kind key, MayHold gateways routes route.fqdn kind key →
    (compile gateways others).Preserves route.fqdn kind key)

include unskipped preserved

/-- If the domain name were skipped with the route, a virtual service might be left anywhere. -/
theorem not_skipsFqdn_of_preserved : ¬(compile gateways routes).SkipsFqdn route.fqdn := by
  intro skips
  obtain ⟨ns, nothing⟩ := exists_namespace_not_mem_keys missing gateways
  have absent := nothing .virtualService (virtualServiceName route.fqdn)
  have holds : MayHold gateways routes route.fqdn .virtualService _ := .inr ⟨absent.1, skips⟩
  rcases preserved _ _ holds with compiled | spared
  · exact absent.2 compiled
  · exact unskipped spared

/-- The virtual service to which a route with destinations belongs may be left. -/
theorem mem_keys_virtualService_of_preserved (some_destination : route.destinations ≠ []) :
    ⟨route.namespaceName, virtualServiceName route.fqdn⟩ ∈
      (compile gateways others).keys .virtualService := by
  have serving := mem_routesServing_of_missing missing
  have have_destination : HaveDestination (routesServing route.fqdn routes) :=
    ⟨route, serving, some_destination⟩
  have servable : Servable (routesServing route.fqdn routes) := by
    by_contra unservable
    have skips : route.fqdn ∈ (compile gateways routes).skippedFqdns.map (·.fqdn) :=
      mem_map_skippedFqdns_compile.2 ⟨have_destination, unservable⟩
    exact not_skipsFqdn_of_preserved missing unskipped preserved (List.mem_map.1 skips)
  have served := exists_virtualService_of_servable gateways serving have_destination servable
  rcases preserved _ _ (mayHold_virtualService_iff.2 (.inl served)) with compiled | spared
  · exact compiled
  · exact (unskipped spared).elim

/-- The service of a destination may be left, and if the destination is skipped with the route, it
may be left anywhere. -/
theorem skips_or_mem_keys_of_preserved {destination : Destination}
    (mem : destination ∈ route.destinations) :
    (compile gateways others).SkipsDestination destination.guid ∨
      (∃ service, serviceFor route destination = .ok service) ∧
        ⟨route.namespaceName, serviceName destination.guid⟩ ∈
          (compile gateways others).keys .service := by
  let endpoint : Endpoint routes :=
    ⟨route, destination, (mem_iff_of_missing missing).2 (.inl rfl), mem⟩
  have by_guid {ns : String} (spared : (compile gateways others).Spares .service
      { ns, name := serviceName destination.guid, fqdn := route.fqdn }) :
      (compile gateways others).SkipsDestination destination.guid := by
    obtain ⟨skipped, skipped_mem, name⟩ := spared.resolve_left unskipped
    exact ⟨skipped, skipped_mem, serviceName_inj name⟩
  cases outcome : serviceFor route destination with
  | ok service =>
    have holds := (@mayHold_service_iff gateways _ _ _).2
      (.inl ⟨endpoint, rfl, ⟨service, outcome⟩, rfl⟩)
    rcases preserved _ _ holds with compiled | spared
    · exact .inr ⟨⟨service, rfl⟩, compiled⟩
    · exact .inl (by_guid spared)
  | error reason =>
    obtain ⟨ns, nothing⟩ := exists_namespace_not_mem_keys missing gateways
    have absent := nothing .service (serviceName destination.guid)
    obtain ⟨skipped, skipped_mem, guid⟩ := endpoint.skipsDestination gateways outcome
    have holds : MayHold gateways routes route.fqdn .service ⟨ns, serviceName destination.guid⟩ :=
      .inr ⟨absent.1, .inr ⟨skipped, skipped_mem, congrArg serviceName guid⟩⟩
    rcases preserved _ _ holds with compiled | spared
    · exact (absent.2 compiled).elim
    · exact .inl (by_guid spared)

end Preserved

/-- A pass that no longer finds a route removes nothing of its domain name exactly when the name is
skipped without the route, or the other routes make up for it. -/
theorem removesNothingOf_missing_iff :
    RemovesNothingOf gateways routes others route.fqdn ↔
      (compile gateways others).SkipsFqdn route.fqdn ∨ MakeUpFor gateways others route routes := by
  rw [removesNothingOf_iff]
  constructor
  · intro preserved
    by_cases skips : (compile gateways others).SkipsFqdn route.fqdn
    · exact .inl skips
    · exact .inr ⟨not_skipsFqdn_of_preserved missing skips preserved,
        mem_keys_virtualService_of_preserved missing skips preserved,
        fun _ => skips_or_mem_keys_of_preserved missing skips preserved⟩
  · intro kept kind key holds
    rcases kept with skips | makesUp
    · exact skips.preserves kind key
    · cases kind with
      | virtualService => exact makesUp.preserves_virtualService missing holds
      | service => exact makesUp.preserves_service missing holds

/-! ### Guids that are not shared -/

section Guids

variable (guids : (destinationGuids routes).Nodup)

include guids

theorem guid_ne_of_nodup {destination : Destination} (mem : destination ∈ route.destinations)
    (endpoint : Endpoint others) : endpoint.destination.guid ≠ destination.guid := by
  have perm : (destinationGuids routes).Perm (destinationGuids (route :: others)) :=
    missing.flatMap_right _
  have apart : ∀ guid ∈ route.destinations.map (·.guid), guid ∉ destinationGuids others :=
    (List.nodup_append'.1 (perm.nodup_iff.1 guids)).2.2
  intro same
  refine apart destination.guid (List.mem_map_of_mem mem) ?_
  rw [← same]
  exact List.mem_flatMap.2
    ⟨endpoint.route, endpoint.route_mem, List.mem_map_of_mem endpoint.destination_mem⟩

/-- Where no two destinations share a guid, nothing makes up for a route with a destination. -/
theorem MakeUpFor.destinations_eq_nil (makesUp : MakeUpFor gateways others route routes) :
    route.destinations = [] := by
  refine List.eq_nil_iff_forall_not_mem.2 fun destination mem => ?_
  have alone := guid_ne_of_nodup missing guids mem
  rcases makesUp.services destination mem with ⟨skipped, skipped_mem, guid⟩ | ⟨_, compiled⟩
  · obtain ⟨endpoint, same, _⟩ := mem_skippedDestinations_compile.1 skipped_mem
    exact alone endpoint (same.trans guid)
  · obtain ⟨service, service_mem, key_eq⟩ := List.mem_map.1 compiled
    obtain ⟨endpoint, compiled⟩ := mem_services_compile.1 service_mem
    have name := congrArg ObjectKey.name ((key_of_serviceFor_eq_ok compiled).symm.trans key_eq)
    exact alone endpoint (serviceName_inj name)

/-- A pass that no longer finds a route with such a destination removes something of its domain
name, unless the name is skipped without the route. -/
theorem removesNothingOf_missing_iff_of_guids :
    RemovesNothingOf gateways routes others route.fqdn ↔
      (compile gateways others).SkipsFqdn route.fqdn ∨
        route.destinations = [] ∧ ¬(compile gateways routes).SkipsFqdn route.fqdn := by
  rw [removesNothingOf_missing_iff missing]
  refine or_congr Iff.rfl
    ⟨fun makesUp => ⟨makesUp.destinations_eq_nil missing guids, makesUp.not_skipped⟩, ?_⟩
  intro idle
  obtain ⟨none, not_skipped⟩ := idle
  refine ⟨not_skipped, fun some_destination => (some_destination none).elim,
    fun destination mem => ?_⟩
  rw [none] at mem
  cases mem

end Guids

end Missing

/-! ## Objects that can no longer be read -/

/-- A field of the intent that an object holds. -/
def ApiObject.specField? (object : ApiObject) (name : String) : Option Json :=
  (object.toJson.field? "spec").bind (Json.field? name)

/-- Whether an object is another version of one, with the same host and domain, and is no route. -/
structure ApiObject.HasUnreadableVersion (object version : ApiObject) : Prop where
  name_eq : version.metadata.name = object.metadata.name
  ns_eq : version.metadata.ns = object.metadata.ns
  host_eq : version.specField? "host" = object.specField? "host"
  domain_eq : version.specField? "domain" = object.specField? "domain"
  route?_eq : version.route? = none

/-- Whether nothing of the domain name of an object is removed when another version of it is listed
in its place: after a pass over all objects that succeeded, the next pass removes no managed
resource that belongs to the name. -/
def SurvivesUpdate (gateways : List String) (front : List ApiObject) (object version : ApiObject)
    (back : List ApiObject) : Prop :=
  ∀ route, object.route? = some route →
    RemovesNothingOf gateways (listedRoutes (front ++ object :: back))
      (listedRoutes (front ++ version :: back)) route.fqdn

section Objects

variable {front back : List ApiObject} {object version : ApiObject}

/-- In place of an object that is a route, one that is none leaves the other routes. -/
theorem perm_listedRoutes (front back : List ApiObject) (reads : object.route? = some route)
    (unreadable : version.route? = none) :
    (listedRoutes (front ++ object :: back)).Perm
      (route :: listedRoutes (front ++ version :: back)) := by
  simp only [listedRoutes, List.filterMap_append, List.filterMap_cons_some reads,
    List.filterMap_cons_none unreadable]
  exact List.perm_middle

/-- When an object can no longer be read, the next pass removes nothing of its domain name exactly
when the name is skipped without it, or the other routes make up for it. -/
theorem survivesUpdate_iff (reads : object.route? = some route)
    (unreadable : object.HasUnreadableVersion version) :
    SurvivesUpdate gateways front object version back ↔
      (compile gateways (listedRoutes (front ++ version :: back))).SkipsFqdn route.fqdn ∨
        MakeUpFor gateways (listedRoutes (front ++ version :: back)) route
          (listedRoutes (front ++ object :: back)) := by
  have missing := perm_listedRoutes front back reads unreadable.route?_eq
  rw [← removesNothingOf_missing_iff missing, SurvivesUpdate, reads]
  simp only [Option.some.injEq, forall_eq']

/-- An object with one destination, which may be meant as a route. -/
def plainObject (host guid : String) (port : Int) : ApiObject where
  metadata := { name := some ("r-" ++ host), ns := some "ns" }
  content := [("spec", .obj [
    ("host", .str host),
    ("url", .str (host ++ ".example.com")),
    ("domain", .obj [("name", .str "example.com")]),
    ("destinations", .arr [.obj [
      ("guid", .str guid),
      ("port", .int port),
      ("app", .obj [("guid", .str "app"), ("process", .obj [("type", .str "web")])])]])])]

theorem route?_plainObject (host guid : String) :
    (plainObject host guid 8080).route? = some (plainRoute host guid none) := rfl

/-- A port that has no sixteen bits makes a route unreadable. -/
theorem hasUnreadableVersion_plainObject (host guid : String) :
    (plainObject host guid 8080).HasUnreadableVersion (plainObject host guid 70000) := by
  have unreadable : (plainObject host guid 70000).route? = none := rfl
  exact ⟨rfl, rfl, rfl, rfl, unreadable⟩

/-- The port of one of two routes gets out of range. -/
theorem survivesUpdate_iff_for_port :
    let object := plainObject "a" "d-0" 8080
    let version := plainObject "a" "d-0" 70000
    let others := [plainObject "b" "d-1" 8080]
    object.route? = some (plainRoute "a" "d-0" none) ∧ object.HasUnreadableVersion version ∧
      (SurvivesUpdate ["gateway"] [] object version others ↔
        (compile ["gateway"] (listedRoutes (version :: others))).SkipsFqdn "a.example.com" ∨
          MakeUpFor ["gateway"] (listedRoutes (version :: others)) (plainRoute "a" "d-0" none)
            (listedRoutes (object :: others))) := by
  intro object version others
  have reads : object.route? = some (plainRoute "a" "d-0" none) := route?_plainObject "a" "d-0"
  have unreadable : object.HasUnreadableVersion version :=
    hasUnreadableVersion_plainObject "a" "d-0"
  exact ⟨reads, unreadable, survivesUpdate_iff reads unreadable⟩

/-- An update after which a route can no longer be read may remove what worked before. -/
theorem unreadable_version_removes_routing :
    ¬∀ (gateways : List String) (front : List ApiObject) (object version : ApiObject)
        (back : List ApiObject),
      (∀ listed ∈ front ++ object :: back, ∃ route, listed.route? = some route) →
        object.HasUnreadableVersion version →
          SurvivesUpdate gateways front object version back := by
  intro survives
  have reads : ∀ listed ∈ [plainObject "a" "d-0" 8080], ∃ route, listed.route? = some route := by
    intro listed mem
    rw [List.mem_singleton.1 mem]
    exact ⟨_, route?_plainObject "a" "d-0"⟩
  have unreadable := hasUnreadableVersion_plainObject "a" "d-0"
  have reads_as := route?_plainObject "a" "d-0"
  have keepsAll : RemovesNothingOf [] [plainRoute "a" "d-0" none] [] _ :=
    survives [] [] _ _ [] reads unreadable _ reads_as
  rcases (removesNothingOf_missing_iff_of_guids (.refl _) (by decide)).1 keepsAll with
    ⟨skipped, mem, _⟩ | ⟨none, _⟩
  · obtain ⟨group, _⟩ := mem_skippedFqdns_compile.1 mem
    exact List.not_mem_nil (FqdnGroup.mem_all.1 group.first_mem).1
  · cases none

end Objects

end MeshRoutes
