import MeshRoutes.Cluster.Remote
import MeshRoutes.Proofs.SortedMap

/-!
# What changes leave behind

A change concerns one place of a server, the key of a resource of some kind, and leaves a document
or nothing there. All other places stay as they are. After many changes a place therefore holds what
one of those that concern it has left there, or what it held before.

* `ApiServer.make`, `ApiServer.makeAll`: the server after changes that are made as asked.
* `get?_makeAll_cases`: what a place holds after some changes.
* `ApiServer.ext_get?`: what is kept under the keys decides which server it is.
-/

namespace MeshRoutes

namespace ClusterWrite

/-- The kind of the resource that is changed. -/
def kind : ClusterWrite → ResourceKind
  | applyService _ => .service
  | applyVirtualService _ => .virtualService
  | deleteVirtualService _ => .virtualService
  | deleteService _ => .service

/-- What is left under the key. -/
def document? : ClusterWrite → Option Json
  | applyService service => some service.toJson
  | applyVirtualService resource => some resource.toJson
  | deleteVirtualService _ => none
  | deleteService _ => none

/-- Whether the resource that is changed has the given kind and key. -/
def Concerns (change : ClusterWrite) (kind : ResourceKind) (key : ObjectKey) : Prop :=
  change.kind = kind ∧ change.key = key

instance (change : ClusterWrite) (kind : ResourceKind) (key : ObjectKey) :
    Decidable (change.Concerns kind key) := inferInstanceAs (Decidable (_ ∧ _))

end ClusterWrite

namespace ApiServer

/-- The server after a change that is made as asked. -/
def make (server : ApiServer) (change : ClusterWrite) : ApiServer :=
  (server.perform change.request).2

/-- The server after some changes, one after the other. -/
def makeAll (server : ApiServer) (changes : List ClusterWrite) : ApiServer :=
  changes.foldl make server

/-- What a server has besides its resources. -/
def surroundings (server : ApiServer) : List Json × List (Fault ApiReply) × List String :=
  (server.routes, server.faults, server.requests)

/-- What is kept under a key. -/
def get? (server : ApiServer) (kind : ResourceKind) (key : ObjectKey) : Option Json :=
  (server.resources kind).get? key

variable {server : ApiServer} {changes : List ClusterWrite} {kind : ResourceKind} {key : ObjectKey}

@[simp] theorem makeAll_nil : server.makeAll [] = server := rfl

@[simp] theorem makeAll_cons (change : ClusterWrite) :
    server.makeAll (change :: changes) = (server.make change).makeAll changes := rfl

theorem makeAll_append (earlier later : List ClusterWrite) :
    server.makeAll (earlier ++ later) = (server.makeAll earlier).makeAll later :=
  List.foldl_append

/-! ## One change -/

@[simp] theorem surroundings_make (server : ApiServer) (change : ClusterWrite) :
    (server.make change).surroundings = server.surroundings := by
  cases change with
  | applyService service => rfl
  | applyVirtualService resource => rfl
  | deleteVirtualService key =>
    unfold make ClusterWrite.request perform
    dsimp only
    split <;> rfl
  | deleteService key =>
    unfold make ClusterWrite.request perform
    dsimp only
    split <;> rfl

theorem resources_withResources (server : ApiServer) (changed kind : ResourceKind)
    (map : SortedMap ObjectKey Json) :
    (server.withResources changed map).resources kind =
      if changed = kind then map else server.resources kind := by
  cases changed <;> cases kind <;> rfl

/-- What is stored is found under its key. -/
theorem get?_perform_apply (server : ApiServer) (applied kind : ResourceKind)
    (at_ key : ObjectKey) (doc : Json) :
    (server.perform (.apply applied at_ doc)).2.get? kind key =
      if applied = kind ∧ at_ = key then some doc else server.get? kind key := by
  unfold perform get?
  rw [resources_withResources]
  by_cases same : applied = kind
  · subst same
    rw [if_pos rfl, SortedMap.get?_insert]
    simp only [true_and, eq_comm]
  · rw [if_neg same, if_neg fun both => same both.1]

/-- What is removed is no longer found. -/
theorem get?_perform_delete (server : ApiServer) (removed kind : ResourceKind)
    (at_ key : ObjectKey) :
    (server.perform (.delete removed at_)).2.get? kind key =
      if removed = kind ∧ at_ = key then none else server.get? kind key := by
  unfold perform get?
  dsimp only
  split
  · rw [resources_withResources]
    by_cases same : removed = kind
    · subst same
      rw [if_pos rfl, SortedMap.get?_erase]
      simp only [true_and, eq_comm]
    · rw [if_neg same, if_neg fun both => same both.1]
  · next absent =>
    -- what is not there need not be removed
    split
    · next both =>
      obtain ⟨rfl, rfl⟩ := both
      rw [SortedMap.contains_iff, not_exists] at absent
      exact Option.eq_none_iff_forall_ne_some.2 absent
    · rfl

/-- A change leaves its document where it belongs and nothing else anywhere. -/
theorem get?_make (server : ApiServer) (change : ClusterWrite) (kind : ResourceKind)
    (key : ObjectKey) :
    (server.make change).get? kind key =
      if change.Concerns kind key then change.document? else server.get? kind key := by
  cases change with
  | applyService service => exact get?_perform_apply server .service kind _ key _
  | applyVirtualService resource => exact get?_perform_apply server .virtualService kind _ key _
  | deleteVirtualService at_ => exact get?_perform_delete server .virtualService kind at_ key
  | deleteService at_ => exact get?_perform_delete server .service kind at_ key

/-! ## Many changes -/

@[simp] theorem surroundings_makeAll (server : ApiServer) (changes : List ClusterWrite) :
    (server.makeAll changes).surroundings = server.surroundings := by
  induction changes generalizing server with
  | nil => rfl
  | cons change changes ih => rw [makeAll_cons, ih, surroundings_make]

/-- A place holds what one of the changes that concern it has left there; if none does, it holds
what it held before. -/
theorem get?_makeAll_cases (server : ApiServer) (changes : List ClusterWrite)
    (kind : ResourceKind) (key : ObjectKey) :
    (∃ change ∈ changes, change.Concerns kind key ∧
        (server.makeAll changes).get? kind key = change.document?) ∨
      (∀ change ∈ changes, ¬change.Concerns kind key) ∧
        (server.makeAll changes).get? kind key = server.get? kind key := by
  induction changes generalizing server with
  | nil => exact .inr ⟨fun _ mem => absurd mem List.not_mem_nil, rfl⟩
  | cons change changes ih =>
    rcases ih (server.make change) with ⟨later, mem, concerns, left⟩ | ⟨none, left⟩
    · exact .inl ⟨later, List.mem_cons_of_mem _ mem, concerns, left⟩
    · rw [get?_make] at left
      by_cases concerns : change.Concerns kind key
      · rw [if_pos concerns] at left
        exact .inl ⟨change, List.mem_cons_self, concerns, left⟩
      · rw [if_neg concerns] at left
        exact .inr ⟨List.forall_mem_cons.2 ⟨concerns, none⟩, left⟩

theorem get?_makeAll_of_unconcerned (none : ∀ change ∈ changes, ¬change.Concerns kind key) :
    (server.makeAll changes).get? kind key = server.get? kind key := by
  rcases get?_makeAll_cases server changes kind key with ⟨change, mem, concerns, _⟩ | ⟨_, left⟩
  · exact (none change mem concerns).elim
  · exact left

/-- The last change leaves its document where it belongs. -/
theorem get?_makeAll_append_singleton (server : ApiServer) (changes : List ClusterWrite)
    (change : ClusterWrite) :
    (server.makeAll (changes ++ [change])).get? change.kind change.key = change.document? := by
  rw [makeAll_append, makeAll_cons, makeAll_nil, get?_make, if_pos ⟨rfl, rfl⟩]

/-- Where all changes of a place leave the same there, their order does not matter. -/
theorem get?_makeAll_of_agree {content : Option Json}
    (some : ∃ change ∈ changes, change.Concerns kind key)
    (agree : ∀ change ∈ changes, change.Concerns kind key → change.document? = content) :
    (server.makeAll changes).get? kind key = content := by
  rcases get?_makeAll_cases server changes kind key with ⟨change, mem, concerns, left⟩ | ⟨none, _⟩
  · rw [left, agree change mem concerns]
  · obtain ⟨change, mem, concerns⟩ := some
    exact (none change mem concerns).elim

/-- Servers that keep the same under every key, and have the same besides, are the same. -/
theorem ext_get? {a b : ApiServer} (surroundings : a.surroundings = b.surroundings)
    (same : ∀ kind key, a.get? kind key = b.get? kind key) : a = b := by
  obtain ⟨routes, virtualServices, services, faults, requests⟩ := a
  obtain ⟨routes', virtualServices', services', faults', requests'⟩ := b
  obtain ⟨rfl, rfl, rfl⟩ : routes = routes' ∧ faults = faults' ∧ requests = requests' := by
    simpa [ApiServer.surroundings] using surroundings
  obtain rfl : virtualServices = virtualServices' := SortedMap.ext_get? (same .virtualService)
  obtain rfl : services = services' := SortedMap.ext_get? (same .service)
  rfl

end ApiServer

end MeshRoutes
