import MeshRoutes.Proofs.Pass.MakeBeforeBreak
import MeshRoutes.Proofs.Pass.Managed

/-!
# Histories of passes

Passes follow one another, each over the routes that it finds, and each succeeds or fails at any
call. What a server keeps then was stored by passes of different ages: a rule may be older than the
services that it refers to, and it may also be younger than some of them, but only if its own pass
did not store these.

* `History`: where passes over some snapshots may lead.
* `Traced`: by which pass everything was stored, an invariant of histories (`History.traced`).
-/

namespace MeshRoutes

/-- Where passes over snapshots of the routes may lead, one after the other, each in one of its
ways. -/
inductive History (gateways : List String) (start : ApiServer) :
    List (List Route) → ApiServer → Prop
  | nil : History gateways start [] start
  | snoc {snapshots : List (List Route)} {routes : List Route} {server : ApiServer}
      {result : Except Failure PassSummary} {made : List ClusterWrite}
      (earlier : History gateways start snapshots server)
      (course : runPass (concurrentClient routes) gateways server result made) :
    History gateways start (snapshots ++ [routes]) (server.makeAll made)

/-- Whether nothing on a server belongs to a domain name. -/
def ApiServer.IsFresh (server : ApiServer) : Prop :=
  ∀ kind key doc, server.get? kind key = some doc → doc.owner? kind = none

theorem ApiServer.isFresh_empty : ({} : ApiServer).IsFresh := by
  intro kind key doc found
  rw [get?_empty] at found
  cases found

/-- Whether the routes of a snapshot compile to a document under a key. -/
def StoredBy (gateways : List String) (snapshots : List (List Route)) (i : Nat)
    (kind : ResourceKind) (key : ObjectKey) (doc : Json) : Prop :=
  ∃ routes, snapshots[i]? = some routes ∧ ∃ change ∈ (compile gateways routes).writes,
    change.Concerns kind key ∧ change.document? = some doc

/-- Whether a service of one snapshot may be found with a rule of another: it is no older, or the
pass that stored the rule did not replace it. -/
def MayMeet (gateways : List String) (snapshots : List (List Route)) (rule service : Nat)
    (key : ObjectKey) : Prop :=
  rule ≤ service ∨ ∀ routes, snapshots[rule]? = some routes →
    key ∉ (compile gateways routes).keys .service

/-- By which passes over some snapshots it was stored what a server keeps for domain names. Each
rule was stored by a pass that all services may meet. -/
structure Traced (gateways : List String) (snapshots : List (List Route)) (server : ApiServer) :
    Prop where
  services : ∀ key doc fqdn, server.get? .service key = some doc →
    doc.owner? .service = some fqdn → ∃ j, StoredBy gateways snapshots j .service key doc
  rules : ∀ place rule fqdn, server.get? .virtualService place = some rule →
    rule.owner? .virtualService = some fqdn →
    ∃ i, StoredBy gateways snapshots i .virtualService place rule ∧
      ∀ key doc fqdn, server.get? .service key = some doc → doc.owner? .service = some fqdn →
        ∃ j, StoredBy gateways snapshots j .service key doc ∧ MayMeet gateways snapshots i j key

variable {gateways : List String} {snapshots : List (List Route)} {routes : List Route}
  {start server : ApiServer} {made : List ClusterWrite} {i j : Nat} {kind : ResourceKind}
  {key : ObjectKey} {doc : Json}

/-! ## One more snapshot -/

theorem StoredBy.lt_length (stored : StoredBy gateways snapshots i kind key doc) :
    i < snapshots.length := by
  obtain ⟨routes, at_i, _⟩ := stored
  exact (List.getElem?_eq_some_iff.1 at_i).1

theorem StoredBy.append (stored : StoredBy gateways snapshots i kind key doc)
    (later : List (List Route)) : StoredBy gateways (snapshots ++ later) i kind key doc := by
  have lt := stored.lt_length
  obtain ⟨routes, at_i, change⟩ := stored
  exact ⟨routes, (List.getElem?_append_left lt).trans at_i, change⟩

theorem MayMeet.append (meet : MayMeet gateways snapshots i j key) (lt : i < snapshots.length)
    (later : List (List Route)) : MayMeet gateways (snapshots ++ later) i j key := by
  refine meet.imp_right fun apart routes at_i => apart routes ?_
  exact (List.getElem?_append_left lt).symm.trans at_i

/-- What the last pass has stored, it has stored. -/
theorem storedBy_last {change : ClusterWrite} (write : change ∈ (compile gateways routes).writes)
    (concerns : change.Concerns kind key) (left : change.document? = some doc) :
    StoredBy gateways (snapshots ++ [routes]) snapshots.length kind key doc :=
  ⟨routes, List.getElem?_concat_length, change, write, concerns, left⟩

/-! ## The invariant -/

theorem ApiServer.IsFresh.traced (fresh : start.IsFresh) : Traced gateways [] start where
  services key doc fqdn found owner := by
    cases (fresh _ _ _ found).symm.trans owner
  rules place rule fqdn found owner := by
    cases (fresh _ _ _ found).symm.trans owner

/-- A pass that has stored a rule has replaced all services to which its routes compile. -/
theorem PassProgress.service_cases
    (progress : PassProgress (compile gateways routes) server made) {resource : VirtualService}
    (written : ClusterWrite.applyVirtualService resource ∈ made)
    (found : (server.makeAll made).get? .service key = some doc) :
    (∃ change ∈ (compile gateways routes).writes, change.Concerns .service key ∧
      change.document? = some doc) ∨
      server.get? .service key = some doc ∧ key ∉ (compile gateways routes).keys .service := by
  by_cases absent : key ∈ (compile gateways routes).keys .service
  · cases progress.change written with
    | applyVirtualService mem services =>
      obtain ⟨service, service_mem, rfl⟩ := List.mem_map.1 absent
      obtain ⟨stored, stored_mem, stored_key, left⟩ :=
        progress.exists_get?_service (services service service_mem)
      rw [found] at left
      exact .inl ⟨_, Compiled.mem_writes_iff.2 (.inl ⟨stored, stored_mem, rfl⟩), ⟨rfl, stored_key⟩,
        left.symm⟩
  · rcases progress.get?_eq_some_cases found with ⟨change, _, write, concerns, left⟩ | before
    · exact .inl ⟨change, write, concerns, left⟩
    · exact .inr ⟨before, absent⟩

/-- One more pass, however far it gets, keeps the invariant. -/
theorem Traced.makeAll (traced : Traced gateways snapshots server)
    (progress : PassProgress (compile gateways routes) server made) :
    Traced gateways (snapshots ++ [routes]) (server.makeAll made) where
  services key doc fqdn found owner := by
    rcases progress.get?_eq_some_cases found with ⟨change, _, write, concerns, left⟩ | before
    · exact ⟨_, storedBy_last write concerns left⟩
    · obtain ⟨j, stored⟩ := traced.services key doc fqdn before owner
      exact ⟨j, stored.append _⟩
  rules place rule fqdn found owner := by
    rcases progress.get?_eq_some_cases found with ⟨change, mem, write, concerns, left⟩ | before
    · -- the rule is new, and so are all services that its pass has made
      refine ⟨_, storedBy_last write concerns left, fun key doc fqdn found' owner' => ?_⟩
      rcases Compiled.mem_writes_iff.1 write with ⟨_, _, rfl⟩ | ⟨resource, _, rfl⟩
      · cases concerns.1
      rcases progress.service_cases mem found' with ⟨change, write, concerns, left⟩ | ⟨before, absent⟩
      · exact ⟨_, storedBy_last write concerns left, .inl le_rfl⟩
      · obtain ⟨j, stored⟩ := traced.services key doc fqdn before owner'
        refine ⟨j, stored.append _, .inr fun routes' at_last => ?_⟩
        cases List.getElem?_concat_length.symm.trans at_last
        exact absent
    · -- the rule is old, and no new service is older
      obtain ⟨i, stored, meets⟩ := traced.rules place rule fqdn before owner
      have lt := stored.lt_length
      refine ⟨i, stored.append _, fun key doc fqdn found' owner' => ?_⟩
      rcases progress.get?_eq_some_cases found' with ⟨change, _, write, concerns, left⟩ | before
      · exact ⟨_, storedBy_last write concerns left, .inl lt.le⟩
      · obtain ⟨j, stored', meet⟩ := meets key doc fqdn before owner'
        exact ⟨j, stored'.append _, meet.append lt _⟩

/-- What a server keeps after a history from a fresh one can be traced to its passes. -/
theorem History.traced (history : History gateways start snapshots server)
    (fresh : start.IsFresh) : Traced gateways snapshots server := by
  induction history with
  | nil => exact fresh.traced
  | snoc earlier course ih => exact ih.makeAll (progress_of_runPass course)

/-! ## Histories with few changes -/

namespace History

/-- Further passes may end before they have done anything. -/
theorem idle (history : History gateways start snapshots server) (later : List (List Route)) :
    History gateways start (snapshots ++ later) server := by
  induction later generalizing snapshots with
  | nil => rwa [List.append_nil]
  | cons routes later ih =>
    rw [List.append_cons]
    have progress : PassProgress (compile gateways routes) server [] := .services List.nil_subperm
    exact ih (.snoc history (runPass_of_progress (.cluster none) progress))

/-- The passes up to a later one may have done nothing. -/
theorem extend {n : Nat} (history : History gateways start (snapshots.take n) server) (le : n ≤ i)
    (at_i : snapshots[i]? = some routes)
    (progress : PassProgress (compile gateways routes) server made) :
    History gateways start (snapshots.take (i + 1)) (server.makeAll made) := by
  have split : snapshots.take n ++ (snapshots.take i).drop n = snapshots.take i := by
    have split := List.take_append_drop n (snapshots.take i)
    rwa [List.take_take, Nat.min_eq_left le] at split
  have idle := history.idle ((snapshots.take i).drop n)
  rw [split] at idle
  rw [List.take_add_one, at_i]
  exact .snoc idle (runPass_of_progress (.cluster none) progress)

/-- The remaining passes may have done nothing. -/
theorem finish {n : Nat} (history : History gateways start (snapshots.take n) server) :
    History gateways start snapshots server := by
  have idle := history.idle (snapshots.drop n)
  rwa [List.take_append_drop] at idle

end History

end MeshRoutes
