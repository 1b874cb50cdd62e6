import MeshRoutes.Proofs.Pass.ErrorPath
import MeshRoutes.Proofs.Pass.Lock

/-!
# Passes one after the other

A pass begins with listing the routes, under the lock, and makes its last call before it gives the
lock back. The calls of all passes are therefore those of whole passes, one pass after the other,
and none of them works with routes that are older than those of a pass before it.

* `run_runPass_cases`: the calls of a pass that may not have come to its end yet.
* `Grouped.pairwise`: calls that are made pass by pass are in the order of the passes.
* `VersionInvariant`: the routes that are listed are those that the server has at that time.
* `Serialized`: what is said of the calls of several passes; it holds after any events
  (`serialized_of_runs`).
-/

namespace MeshRoutes

open Script (client)

variable {α β : Type} {gateways : List String}

/-! ## The calls of one pass -/

/-- Whether a script makes no other calls than some, whatever the answers are. -/
def OnlyMakes (holds : Call → Prop) (x : ExceptT Failure Script α) : Prop :=
  ∀ exchanges result, Ends x exchanges result → ∀ exchange ∈ exchanges, holds exchange.call

section OnlyMakes

variable {holds : Call → Prop}

theorem OnlyMakes.bind {x : ExceptT Failure Script α} {f : α → ExceptT Failure Script β}
    (first : OnlyMakes holds x) (later : ∀ a, OnlyMakes holds (f a)) :
    OnlyMakes holds (x >>= f) := by
  intro exchanges result ends
  rcases ends.of_bind with ⟨_, failed, _⟩ | ⟨a, earlier, rest, ended, ends', rfl⟩
  · exact first _ _ failed
  · exact List.forall_mem_append.2 ⟨first _ _ ended, later a _ _ ends'⟩

theorem onlyMakes_pure (a : α) : OnlyMakes holds (pure a) := by
  intro exchanges result ends
  obtain ⟨rfl, _⟩ := ends_pure_iff.1 ends
  exact nofun

theorem onlyMakes_listManaged {kind : ResourceKind} (may : holds (.listManaged kind)) :
    OnlyMakes holds (client.listManaged kind) := by
  intro exchanges result ends
  obtain ⟨answer, rfl, _⟩ := ends_listManaged ends
  exact List.forall_mem_singleton.2 may

theorem onlyMakes_writeAll {changes : List ClusterWrite}
    (may : ∀ change ∈ changes, holds (.write change)) :
    OnlyMakes holds (client.writeAll changes) := by
  intro exchanges result ends exchange made
  obtain ⟨change, mem, same⟩ := (ends_writeAll ends).exists_change made
  exact same ▸ may change mem

end OnlyMakes

/-- Whether a call comes after the listing of routes that was answered so: it stores nothing but what
these routes compile to. -/
def FollowsListing (gateways : List String) (answer : Option ApiReply) (call : Call) : Prop :=
  call ≠ .listRoutes ∧ ∀ change, call = .write change → ¬call.kind.Deletes →
    ∃ routes, heard readRoutes answer = .ok routes ∧ change ∈ (compile gateways routes).writes

/-- The calls of a whole pass. -/
theorem ends_runPass_cases {exchanges : List Exchange} {result : Except Failure PassSummary}
    (ends : Ends (runPass client gateways) exchanges result) :
    ∃ answer later, exchanges = ⟨.listRoutes, answer⟩ :: later ∧
      ∀ exchange ∈ later, FollowsListing gateways answer exchange.call := by
  unfold runPass at ends
  rcases ends.of_bind with ⟨_, failed, _⟩ | ⟨routes, _, later, listed, rest, rfl⟩
  · obtain ⟨answer, rfl, _⟩ := ends_listRoutes failed
    exact ⟨answer, [], rfl, nofun⟩
  obtain ⟨answer, rfl, ok⟩ := ends_listRoutes listed
  refine ⟨answer, later, rfl, ?_⟩
  have stores {changes : List ClusterWrite} (mem : ∀ change ∈ changes,
      change ∈ (compile gateways routes).writes) :
      OnlyMakes (FollowsListing gateways answer) (client.writeAll changes) := by
    refine onlyMakes_writeAll fun change change_mem => ⟨nofun, fun _ same _ => ?_⟩
    cases same
    exact ⟨routes, ok.symm, mem change change_mem⟩
  have lists (kind : ResourceKind) :
      OnlyMakes (FollowsListing gateways answer) (client.listManaged kind) :=
    onlyMakes_listManaged ⟨nofun, fun _ => nofun⟩
  have removes {resources : List ManagedResource} {change : ManagedResource → ClusterWrite}
      (deletes : ∀ resource, (Call.write (change resource)).kind.Deletes) :
      OnlyMakes (FollowsListing gateways answer) (client.writeAll (resources.map change)) :=
    onlyMakes_writeAll (List.forall_mem_map.2 fun resource _ =>
      ⟨nofun, fun _ _ keeps => absurd (deletes resource) keeps⟩)
  -- two batches that store, two listings and two batches that remove
  refine OnlyMakes.bind (stores fun _ => List.mem_append_left _) (fun _ => ?_) _ _ rest
  refine (stores fun _ => List.mem_append_right _).bind fun _ => ?_
  refine (lists _).bind fun virtualServices => (lists _).bind fun services => ?_
  refine (removes fun _ => .inl rfl).bind fun _ => (removes fun _ => .inr rfl).bind fun _ => ?_
  exact onlyMakes_pure _

/-- The calls of a pass so far: none, or the listing of routes and what follows from it. -/
theorem run_runPass_cases {exchanges : List Exchange} {rest : Script (Except Failure PassSummary)}
    (run : (runPass client gateways).run.Run exchanges rest) :
    exchanges = [] ∨ ∃ answer later, exchanges = ⟨.listRoutes, answer⟩ :: later ∧
      ∀ exchange ∈ later, FollowsListing gateways answer exchange.call := by
  -- the pass might go on to its end, and what it has done is the front of that
  obtain ⟨back, result, _, ends, _⟩ := exists_run_done (fun (_ : Unit) _ => (none, ())) rest ()
  obtain ⟨answer, later, same, follows⟩ := ends_runPass_cases (run.trans ends)
  rcases List.append_eq_cons_iff.1 same with ⟨rfl, _⟩ | ⟨front, rfl, rfl⟩
  · exact .inl rfl
  · exact .inr ⟨answer, front, rfl, fun exchange mem => follows exchange (List.mem_append_left _ mem)⟩

/-! ## Calls pass by pass -/

section Order

variable {order : List Nat} {calls front between back : List MadeCall} {call first last : MadeCall}

theorem forall_of_pairwise_append_cons {R : MadeCall → MadeCall → Prop}
    (pairwise : (front ++ call :: back).Pairwise R) :
    (∀ other ∈ front, R other call) ∧ ∀ other ∈ back, R call other := by
  obtain ⟨_, tail, across⟩ := List.pairwise_append.1 pairwise
  exact ⟨fun other mem => across other mem call List.mem_cons_self, (List.pairwise_cons.1 tail).1⟩

/-- Calls that are made pass by pass are in the order of the passes. -/
theorem Grouped.pairwise (grouped : Grouped order calls) (nodup : order.Nodup) :
    calls.Pairwise fun earlier later => order.idxOf earlier.pass ≤ order.idxOf later.pass := by
  have passes_pairwise : order.Pairwise fun i j => order.idxOf i ≤ order.idxOf j :=
    List.pairwise_iff_getElem.2 fun i j i_lt j_lt lt => by
      rw [nodup.idxOf_getElem, nodup.idxOf_getElem]
      exact lt.le
  have pass_eq {pass : Nat} {call : MadeCall} (mem : call ∈ calls.filter (·.pass = pass)) :
      call.pass = pass := of_decide_eq_true (List.mem_filter.1 mem).2
  rw [grouped]
  refine List.pairwise_flatMap.2 ⟨fun pass _ => ?_, passes_pairwise.imp ?_⟩
  · refine List.pairwise_of_forall_mem_list fun a a_mem b b_mem => ?_
    rw [pass_eq a_mem, pass_eq b_mem]
  · intro i j le a a_mem b b_mem
    rwa [pass_eq a_mem, pass_eq b_mem]

theorem Grouped.pass_eq_of_between (grouped : Grouped order calls) (nodup : order.Nodup)
    (split : calls = front ++ first :: (between ++ last :: back)) (same : first.pass = last.pass)
    (mem : call ∈ between) : call.pass = first.pass := by
  have pairwise := grouped.pairwise nodup
  rw [split] at pairwise
  obtain ⟨_, after_first⟩ := forall_of_pairwise_append_cons pairwise
  have le := after_first call (List.mem_append_left _ mem)
  have rest := (List.pairwise_cons.1 (List.pairwise_append.1 pairwise).2.1).2
  have le' := (forall_of_pairwise_append_cons rest).1 call mem
  rw [← same] at le'
  have call_mem : call ∈ calls := by
    rw [split]
    exact List.mem_append_right _ (List.mem_cons_of_mem _ (List.mem_append_left _ mem))
  exact (List.idxOf_inj (grouped.pass_mem call_mem)).1 (le'.antisymm le)

end Order

/-! ## Versions of the routes -/

/-- The routes at the start and after each edit. -/
def versions (routes : List Json) (events : List PassEvent) : List (List Json) :=
  routes :: events.flatMap PassEvent.edits

section Versions

variable {routes : List Json} {events : List PassEvent} {event : PassEvent}
  {system after : PassSystem}

theorem versions_concat :
    versions routes (events ++ [event]) = versions routes events ++ event.edits := by
  simp [versions]

theorem editCount_concat :
    editCount (events ++ [event]) = editCount events + event.edits.length := by
  simp [editCount]

theorem versions_concat_getElem? {version : Nat} {docs : List Json}
    (at_ : (versions routes events)[version]? = some docs) :
    (versions routes (events ++ [event]))[version]? = some docs := by
  rw [versions_concat, List.getElem?_append_left (List.getElem?_eq_some_iff.1 at_).1]
  exact at_

/-- Later calls are made when at least as much was edited. -/
theorem pairwise_version (version : Nat) (events : List PassEvent) :
    (∀ call ∈ madeFrom version events, version ≤ call.version) ∧
      (madeFrom version events).Pairwise (·.version ≤ ·.version) := by
  induction events generalizing version with
  | nil => exact ⟨nofun, .nil⟩
  | cons event events ih =>
    obtain ⟨later, pairwise⟩ := ih (version + event.edits.length)
    have now : ∀ call ∈ event.calls version, call.version = version := by
      unfold PassEvent.calls
      split
      · exact List.forall_mem_singleton.2 rfl
      · exact nofun
    refine ⟨List.forall_mem_append.2 ⟨fun call mem => (now call mem).ge, fun call mem =>
      (Nat.le_add_right _ _).trans (later call mem)⟩, List.pairwise_append.2 ⟨?_, pairwise, ?_⟩⟩
    · refine List.pairwise_of_forall_mem_list fun a a_mem b b_mem => ?_
      rw [now a a_mem, now b b_mem]
    · intro a a_mem b b_mem
      rw [now a a_mem]
      exact (Nat.le_add_right _ _).trans (later b b_mem)

theorem ApiServer.routes_perform (server : ApiServer) (request : ApiRequest) :
    (server.perform request).2.routes = server.routes := by
  cases request with
  | listRoutes => rfl
  | list kind => cases kind <;> rfl
  | apply kind key doc => cases kind <;> rfl
  | delete kind key =>
    unfold perform
    dsimp only
    split
    · cases kind <;> rfl
    · rfl

theorem ApiServer.Answers.routes_eq {server after : ApiServer} {call : Call}
    {answer : Option ApiReply} (answers : server.Answers call answer after) :
    after.routes = server.routes := by
  cases answers with
  | performed => exact server.routes_perform _
  | refused => rfl
  | unsent => rfl
  | lost => exact server.routes_perform _
  | misreported => exact server.routes_perform _

/-- Routes that are read from an answer are those of the server. -/
theorem ApiServer.Answers.exists_listed {server after : ApiServer} {answer : Option ApiReply}
    (answers : server.Answers .listRoutes answer after) {listed : List Route}
    (ok : heard readRoutes answer = .ok listed) :
    ∃ objects, server.routes.mapM ApiObject.ofJson? = some objects ∧
      listed = listedRoutes objects := by
  cases answers with
  | performed =>
    obtain ⟨objects, read, rfl⟩ := map_eq_ok_iff.1 ok
    exact ⟨objects, readReply_eq_ok_iff.1 read, rfl⟩
  | refused error =>
    rw [heard, readRoutes, readReply, error] at ok
    cases ok
  | unsent => cases ok
  | lost => cases ok
  | misreported error =>
    rw [heard, readRoutes, readReply, error] at ok
    cases ok

/-- What is listed is what there is: the server has the routes of the last edit, and each pass has
listed routes as they were at the time. -/
structure VersionInvariant (routes : List Json) (events : List PassEvent) (system : PassSystem) :
    Prop where
  latest : (versions routes events)[editCount events]? = some system.server.routes
  current : ∀ call ∈ made events, call.exchange.call = .listRoutes → ∀ listed,
    heard readRoutes call.exchange.answer = .ok listed → ∃ docs objects,
      (versions routes events)[call.version]? = some docs ∧
        docs.mapM ApiObject.ofJson? = some objects ∧ listed = listedRoutes objects

/-- The versions that were listed stay what they were. -/
theorem VersionInvariant.current_concat (invariant : VersionInvariant routes events system)
    (event : PassEvent) (call : MadeCall) (mem : call ∈ made events)
    (lists : call.exchange.call = .listRoutes) (listed : List Route)
    (ok : heard readRoutes call.exchange.answer = .ok listed) : ∃ docs objects,
    (versions routes (events ++ [event]))[call.version]? = some docs ∧
      docs.mapM ApiObject.ofJson? = some objects ∧ listed = listedRoutes objects := by
  obtain ⟨docs, objects, at_, rest⟩ := invariant.current call mem lists listed ok
  exact ⟨docs, objects, versions_concat_getElem? at_, rest⟩

/-- An event without calls and edits, after which the server has the same routes. -/
theorem VersionInvariant.silent (invariant : VersionInvariant routes events system)
    (no_edits : event.edits = []) (no_calls : ∀ version, event.calls version = [])
    (same : after.server.routes = system.server.routes) :
    VersionInvariant routes (events ++ [event]) after where
  latest := by
    rw [editCount_concat, no_edits, same]
    exact versions_concat_getElem? invariant.latest
  current := by
    rw [made_concat, no_calls, List.append_nil]
    exact invariant.current_concat event

theorem VersionInvariant.step (invariant : VersionInvariant routes events system)
    (step : system.Step gateways event after) :
    VersionInvariant routes (events ++ [event]) after := by
  cases step with
  | start => exact invariant.silent rfl (fun _ => rfl) rfl
  | acquire => exact invariant.silent rfl (fun _ => rfl) rfl
  | release => exact invariant.silent rfl (fun _ => rfl) rfl
  | turn => exact invariant.silent rfl (fun _ => rfl) rfl
  | edit docs =>
    have same : made (events ++ [.edit docs]) = made events :=
      made_concat.trans (List.append_nil _)
    refine ⟨?_, ?_⟩
    · rw [versions_concat, editCount_concat]
      exact List.getElem?_concat_length
    · rw [same]
      exact invariant.current_concat _
  | @exchange pass script after exchange server at_ inner answers =>
    refine ⟨?_, ?_⟩
    · rw [editCount_concat]
      exact versions_concat_getElem? (invariant.latest.trans (congrArg some answers.routes_eq.symm))
    · rw [made_concat]
      refine List.forall_mem_append.2 ⟨invariant.current_concat _,
        List.forall_mem_singleton.2 fun lists listed ok => ?_⟩
      rw [show exchange.call = .listRoutes from lists] at answers
      obtain ⟨objects, read, same⟩ := answers.exists_listed ok
      exact ⟨_, objects, versions_concat_getElem? invariant.latest, read, same⟩

theorem versionInvariant_of_runs {server : ApiServer}
    (runs : PassSystem.Runs gateways (.init server) events system) :
    VersionInvariant server.routes events system := by
  induction runs with
  | refl => exact ⟨rfl, nofun⟩
  | tail _ step ih => exact ih.step step

end Versions

/-! ## Serialization -/

section Serialized

variable {events : List PassEvent} {system : PassSystem} {front back : List MadeCall}
  {call : MadeCall}

/-- A pass that took the lock has come to its end, or still holds it as the last one that took it. -/
theorem LockInvariant.ended_or_last (invariant : LockInvariant gateways events system) {pass : Nat}
    (present : pass ∈ entered events) :
    (∃ result, system.passes[pass]? = some (.done result) ∧
        Ends (runPass client gateways) (callsBy pass (made events)) result) ∨
      ((entered events).getLast? = some pass ∧ system.holder = some pass ∧
        ∃ rest, (runPass client gateways).run.Run (callsBy pass (made events)) rest) := by
  obtain ⟨script, at_⟩ : ∃ script, system.passes[pass]? = some script :=
    ⟨_, List.getElem?_eq_getElem (invariant.started pass present)⟩
  cases invariant.standing pass script at_ with
  | waiting absent => exact absurd present absent
  | @inside rest holds run => exact .inr ⟨invariant.holder_last pass holds, holds, rest, run⟩
  | @ended result _ _ ends => exact .inl ⟨result, at_, ends⟩

theorem LockInvariant.exists_run (invariant : LockInvariant gateways events system) {pass : Nat}
    (present : pass ∈ entered events) :
    ∃ rest, (runPass client gateways).run.Run (callsBy pass (made events)) rest := by
  rcases invariant.ended_or_last present with ⟨_, _, ends⟩ | ⟨_, _, unfinished⟩
  · exact ⟨_, ends⟩
  · exact unfinished

theorem callsBy_split (front back : List MadeCall) (call : MadeCall) :
    callsBy call.pass (front ++ call :: back) =
      callsBy call.pass front ++ call.exchange :: callsBy call.pass back := by
  simp [callsBy]

theorem callsBy_eq_nil_iff {pass : Nat} {calls : List MadeCall} :
    callsBy pass calls = [] ↔ ∀ call ∈ calls, call.pass ≠ pass := by
  simp [callsBy]

/-- A call is the first of its pass if and only if it lists the routes; what follows it in the pass
follows from the answer. -/
theorem LockInvariant.first_iff (invariant : LockInvariant gateways events system)
    (split : made events = front ++ call :: back) :
    (call.exchange.call = .listRoutes ↔ ∀ other ∈ front, other.pass ≠ call.pass) := by
  have mem : call ∈ made events := by
    rw [split]
    exact List.mem_append_right _ List.mem_cons_self
  obtain ⟨rest, run⟩ := invariant.exists_run (invariant.grouped.pass_mem mem)
  rw [split, callsBy_split] at run
  -- the calls of its pass so far are the listing and what follows, so that it is either of these
  rw [← callsBy_eq_nil_iff]
  rcases run_runPass_cases run with none | ⟨answer, later, same, follows⟩
  · exact absurd none (List.append_ne_nil_of_right_ne_nil _ (List.cons_ne_nil _ _))
  rcases List.append_eq_cons_iff.1 same with ⟨none, same⟩ | ⟨between, some, rfl⟩
  · refine iff_of_true ?_ none
    rw [(List.cons.inj same).1]
  · refine iff_of_false ?_ (some ▸ List.cons_ne_nil _ _)
    exact (follows _ (List.mem_append_right _ List.mem_cons_self)).1

/-- A pass stores what the routes that it has listed compile to. -/
theorem LockInvariant.exists_listing (invariant : LockInvariant gateways events system)
    (mem : call ∈ made events) {change : ClusterWrite} (writes : call.exchange.call = .write change)
    (stores : ¬call.exchange.call.kind.Deletes) :
    ∃ listing ∈ made events, listing.pass = call.pass ∧ listing.exchange.call = .listRoutes ∧
      ∃ listed, heard readRoutes listing.exchange.answer = .ok listed ∧
        change ∈ (compile gateways listed).writes := by
  obtain ⟨rest, run⟩ := invariant.exists_run (invariant.grouped.pass_mem mem)
  have made_by {exchange : Exchange} : exchange ∈ callsBy call.pass (made events) ↔
      ∃ other ∈ made events, other.pass = call.pass ∧ other.exchange = exchange := by
    simp [callsBy, and_assoc]
  have own : call.exchange ∈ callsBy call.pass (made events) := made_by.2 ⟨call, mem, rfl, rfl⟩
  rcases run_runPass_cases run with none | ⟨answer, later, same, follows⟩
  · rw [none] at own
    cases own
  obtain ⟨listing, listing_mem, pass_eq, exchange_eq⟩ :=
    made_by.1 (same ▸ List.mem_cons_self : ⟨.listRoutes, answer⟩ ∈ _)
  refine ⟨listing, listing_mem, pass_eq, exchange_eq ▸ rfl, ?_⟩
  rw [same] at own
  rcases List.mem_cons.1 own with first | after
  · rw [first] at writes
    cases writes
  · rw [exchange_eq]
    exact (follows _ after).2 change writes stores

theorem LockInvariant.holder_ne (invariant : LockInvariant gateways events system) {pass : Nat}
    {result : Except Failure PassSummary} (at_ : system.passes[pass]? = some (.done result)) :
    system.holder ≠ some pass := by
  have standing := invariant.standing pass _ at_
  generalize done : Script.done result = script at standing
  cases standing with
  | waiting => nomatch done
  | @inside rest => cases rest <;> nomatch done
  | ended _ gone => exact gone

/-- When a pass lists the routes, no pass before it makes a call any more. -/
theorem LockInvariant.pass_ne_of_listing (invariant : LockInvariant gateways events system)
    (split : made events = front ++ call :: back) (lists : call.exchange.call = .listRoutes)
    {earlier later : MadeCall} (earlier_mem : earlier ∈ front) (later_mem : later ∈ call :: back) :
    later.pass ≠ earlier.pass := by
  intro same
  have first := (invariant.first_iff split).1 lists
  rcases List.mem_cons.1 later_mem with rfl | later_mem
  · exact first earlier earlier_mem same.symm
  · -- the listing would interrupt the pass before it
    obtain ⟨a, b, rfl⟩ := List.append_of_mem earlier_mem
    obtain ⟨c, d, rfl⟩ := List.append_of_mem later_mem
    have interrupted : made events = a ++ earlier :: ((b ++ call :: c) ++ later :: d) := by
      simp [split]
    exact first earlier earlier_mem (invariant.grouped.pass_eq_of_between invariant.nodup
      interrupted same.symm (List.mem_append_right _ List.mem_cons_self)).symm

/-- The pass of a later call has listed no older routes. -/
theorem LockInvariant.version_le (invariant : LockInvariant gateways events system)
    {between : List MadeCall} {earlier later : MadeCall}
    (split : made events = front ++ earlier :: (between ++ later :: back))
    {listing listing' : MadeCall} (mem : listing ∈ made events) (mem' : listing' ∈ made events)
    (pass_eq : listing.pass = earlier.pass) (pass_eq' : listing'.pass = later.pass)
    (lists : listing.exchange.call = .listRoutes) : listing.version ≤ listing'.version := by
  have pairwise := invariant.grouped.pairwise invariant.nodup
  obtain ⟨front', back', split'⟩ := List.append_of_mem mem
  rw [split'] at mem'
  rcases List.mem_append.1 mem' with before | here_or_after
  · -- then both calls are of one pass, which has not listed the routes first
    have order : (entered events).idxOf earlier.pass ≤ (entered events).idxOf later.pass := by
      rw [split] at pairwise
      exact (forall_of_pairwise_append_cons pairwise).2 later
        (List.mem_append_right _ List.mem_cons_self)
    have order' : (entered events).idxOf later.pass ≤ (entered events).idxOf earlier.pass := by
      rw [split'] at pairwise
      rw [← pass_eq, ← pass_eq']
      exact (forall_of_pairwise_append_cons pairwise).1 listing' before
    have present : listing.pass ∈ entered events := invariant.grouped.pass_mem mem
    rw [← pass_eq, ← pass_eq'] at order order'
    have same := (List.idxOf_inj present).1 (order.antisymm order')
    exact absurd same.symm ((invariant.first_iff split').1 lists listing' before)
  · rcases List.mem_cons.1 here_or_after with rfl | after
    · exact le_rfl
    · have versions_pairwise := (pairwise_version 0 events).2
      rw [show madeFrom 0 events = _ from split'] at versions_pairwise
      exact (forall_of_pairwise_append_cons versions_pairwise).2 listing' after

/-- What is said of the calls of several passes, made while others edit routes. They are those of
whole passes, one pass after the other, of which only the last may not have come to its end and
holds the lock; between two calls of a pass no other pass makes any. A pass lists the routes first,
when the passes before it have made all their calls, and finds those that there are then. It stores
what they compile to, and never over what a pass with newer routes has made. A pass that has come to
its end, with a failure or not, does not hold the lock, and one that holds the lock can go on by
itself to its end, where it gives the lock back. -/
structure Serialized (gateways : List String) (routes : List Json) (events : List PassEvent)
    (system : PassSystem) : Prop where
  whole_passes : ∃ order : List Nat, order.Nodup ∧ Grouped order (made events) ∧
    ∀ pass ∈ order,
      (∃ result, system.passes[pass]? = some (.done result) ∧
        Ends (runPass client gateways) (callsBy pass (made events)) result) ∨
      (order.getLast? = some pass ∧ system.holder = some pass ∧
        ∃ rest, (runPass client gateways).run.Run (callsBy pass (made events)) rest)
  uninterrupted : ∀ front first between last back,
    made events = front ++ first :: (between ++ last :: back) → first.pass = last.pass →
      ∀ call ∈ between, call.pass = first.pass
  listed_first : ∀ front call back, made events = front ++ call :: back →
    (call.exchange.call = .listRoutes ↔ ∀ other ∈ front, other.pass ≠ call.pass)
  listed_after : ∀ front call back, made events = front ++ call :: back →
    call.exchange.call = .listRoutes →
      ∀ earlier ∈ front, ∀ later ∈ call :: back, later.pass ≠ earlier.pass
  listed_current : ∀ call ∈ made events, call.exchange.call = .listRoutes → ∀ listed,
    heard readRoutes call.exchange.answer = .ok listed → ∃ docs objects,
      (versions routes events)[call.version]? = some docs ∧
        docs.mapM ApiObject.ofJson? = some objects ∧ listed = listedRoutes objects
  stored_listed : ∀ call ∈ made events, ∀ change, call.exchange.call = .write change →
    ¬call.exchange.call.kind.Deletes → ∃ listing ∈ made events,
      listing.pass = call.pass ∧ listing.exchange.call = .listRoutes ∧
        ∃ listed, heard readRoutes listing.exchange.answer = .ok listed ∧
          change ∈ (compile gateways listed).writes
  never_older : ∀ front earlier between later back,
    made events = front ++ earlier :: (between ++ later :: back) →
      ∀ listing ∈ made events, listing.pass = earlier.pass → listing.exchange.call = .listRoutes →
        ∀ listing' ∈ made events, listing'.pass = later.pass →
          listing'.exchange.call = .listRoutes → listing.version ≤ listing'.version
  released : ∀ pass result, system.passes[pass]? = some (.done result) →
    system.holder ≠ some pass
  can_release : ∀ pass, system.holder = some pass → ∃ later after,
    system.Runs gateways later after ∧ (∀ event ∈ later, event.IsBy pass) ∧
      after.holder = none ∧ ∃ result, after.passes[pass]? = some (.done result)

/-- Whatever happens, and in whatever order, passes make their calls one pass after the other, each
with routes listed after all calls of the passes before it, and give the lock back. -/
theorem serialized_of_runs {server : ApiServer}
    (runs : PassSystem.Runs gateways (.init server) events system) :
    Serialized gateways server.routes events system := by
  have invariant := lockInvariant_of_runs runs
  refine
    { whole_passes := ⟨entered events, invariant.nodup, invariant.grouped,
        fun pass => invariant.ended_or_last⟩
      uninterrupted := ?_
      listed_first := fun front call back => invariant.first_iff
      listed_after := ?_
      listed_current := (versionInvariant_of_runs runs).current
      stored_listed := ?_
      never_older := ?_
      released := fun pass result => invariant.holder_ne
      can_release := fun pass => invariant.exists_release }
  · intro front first between last back split same call mem
    exact invariant.grouped.pass_eq_of_between invariant.nodup split same mem
  · intro front call back split lists earlier earlier_mem later later_mem
    exact invariant.pass_ne_of_listing split lists earlier_mem later_mem
  · intro call mem change writes stores
    exact invariant.exists_listing mem writes stores
  · intro front earlier between later back split listing mem pass_eq lists listing' mem' pass_eq' _
    exact invariant.version_le split mem mem' pass_eq pass_eq' lists

/-- A list of no routes, in answer to a call. -/
def emptyListing : Exchange := ⟨.listRoutes, some ⟨200, some (ApiServer.listDocument [])⟩⟩

/-- Two passes over a route that is removed meanwhile. The second one takes the lock first and
fails, since its listing is not answered; the first one then lists what is left. -/
def passesAroundEdit : List PassEvent :=
  [.start, .start, .deed 1 .acquire, .deed 1 (.exchange ⟨.listRoutes, none⟩), .edit [],
    .deed 1 .release, .deed 0 .acquire, .deed 0 (.exchange emptyListing)]

/-- A pass that fails leaves the lock to another one, which lists the routes anew. -/
theorem serialized_passesAroundEdit :
    let server : ApiServer := { routes := [.obj []] }
    ∃ system, PassSystem.Runs [] (.init server) passesAroundEdit system ∧
      system.holder = some 0 ∧ system.passes[1]? = some (.done (.error (.cluster none))) ∧
      Serialized [] server.routes passesAroundEdit system := by
  intro server
  let waiting := guardedPass []
  let inside := (runPass client []).run.bind Script.leave
  let failed : Script (Except Failure PassSummary) := .done (.error (.cluster none))
  have fails : inside.Step (.exchange ⟨.listRoutes, none⟩) (.release failed) := .ask none
  have lists : inside.Step (.exchange emptyListing) _ := .ask emptyListing.answer
  let Goes := PassSystem.Step []
  have starts : Goes (.init server) .start ⟨server, none, [waiting]⟩ := .start
  have starts' : Goes ⟨server, none, [waiting]⟩ .start ⟨server, none, [waiting, waiting]⟩ := .start
  have takes : Goes ⟨server, none, [waiting, waiting]⟩ (.deed 1 .acquire)
      ⟨server, some 1, [waiting, inside]⟩ := .acquire rfl .acquire rfl
  have asks : Goes ⟨server, some 1, [waiting, inside]⟩ (.deed 1 (.exchange ⟨.listRoutes, none⟩))
      ⟨server, some 1, [waiting, .release failed]⟩ := .exchange rfl fails .unsent
  have edits : Goes ⟨server, some 1, [waiting, .release failed]⟩ (.edit [])
      ⟨{}, some 1, [waiting, .release failed]⟩ := .edit []
  have leaves : Goes ⟨{}, some 1, [waiting, .release failed]⟩ (.deed 1 .release)
      ⟨{}, none, [waiting, failed]⟩ := .release rfl .release
  have takes' : Goes ⟨{}, none, [waiting, failed]⟩ (.deed 0 .acquire)
      ⟨{}, some 0, [inside, failed]⟩ := .acquire rfl .acquire rfl
  have asks' : Goes ⟨{}, some 0, [inside, failed]⟩ (.deed 0 (.exchange emptyListing)) _ :=
    .exchange rfl lists .performed
  have started := ((PassSystem.Runs.refl _).tail starts).tail starts'
  have left := (((started.tail takes).tail asks).tail edits).tail leaves
  have listed := (left.tail takes').tail asks'
  exact ⟨_, listed, rfl, rfl, serialized_of_runs listed⟩

end Serialized

end MeshRoutes
