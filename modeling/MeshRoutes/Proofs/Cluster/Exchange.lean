import MeshRoutes.Cluster.Remote
import MeshRoutes.Proofs.Traversal

/-!
# Calls and their answers

A call of a pass is a request, and what the pass makes of it depends on nothing but the answer. An
answer may be missing: the request could not be sent, or the server was not heard of.

* `Call`, `CallKind`: the calls of a pass and their kinds, in the order in which a pass comes to
  them.
* `Exchange`: a call with its answer. `Exchange.reported` is what the call comes to by itself.
* `Exchange.Succeeds`, `Exchange.FailsWith`: whether a pass takes it for a success. A removal that is
  answered with the status 404 is one.
* `Served`: whether calls get the answers of someone who answers them one after the other, such as
  an API server (`ApiServer.respond`).
-/

namespace MeshRoutes

/-- A call of a pass. -/
inductive Call where
  | listRoutes
  | listManaged (kind : ResourceKind)
  | write (change : ClusterWrite)
deriving DecidableEq, Repr

/-- The kinds of calls. -/
inductive CallKind where
  | listRoutes
  | applyService
  | applyVirtualService
  | listVirtualServices
  | listServices
  | deleteVirtualService
  | deleteService
deriving DecidableEq, Repr

namespace CallKind

/-- The place of the calls of a kind in a pass. -/
def place : CallKind → Nat
  | listRoutes => 0
  | applyService => 1
  | applyVirtualService => 2
  | listVirtualServices => 3
  | listServices => 4
  | deleteVirtualService => 5
  | deleteService => 6

/-- Whether the calls of a kind remove something. -/
def Deletes (kind : CallKind) : Prop := kind = deleteVirtualService ∨ kind = deleteService

instance (kind : CallKind) : Decidable kind.Deletes := inferInstanceAs (Decidable (_ ∨ _))

end CallKind

namespace Call

/-- The kind of a call. -/
def kind : Call → CallKind
  | listRoutes => .listRoutes
  | listManaged .virtualService => .listVirtualServices
  | listManaged .service => .listServices
  | write (.applyService _) => .applyService
  | write (.applyVirtualService _) => .applyVirtualService
  | write (.deleteVirtualService _) => .deleteVirtualService
  | write (.deleteService _) => .deleteService

/-- The request of a call. -/
def request : Call → ApiRequest
  | listRoutes => .listRoutes
  | listManaged kind => .list kind
  | write change => change.request

end Call

/-! ## What answers come to -/

/-- The routes that a reply lists. -/
def readRoutes (reply : ApiReply) : Except Failure (List Route) :=
  (readReply (fun doc => (listItems? doc).bind (List.mapM ApiObject.ofJson?)) reply).map
    listedRoutes

/-- Listing the routes comes to what is read from one reply. -/
theorem ApiServer.client_listRoutes :
    ApiServer.client.listRoutes =
      (do ApiServer.liftExcept (readRoutes (← ApiServer.send .listRoutes))) := by
  let read (reply : ApiReply) : Except Failure (List ApiObject) :=
    readReply (fun doc => (listItems? doc).bind (List.mapM ApiObject.ofJson?)) reply
  refine congrArg (ApiServer.send .listRoutes >>= ·) (funext fun reply => ?_)
  change (ApiServer.liftExcept (read reply) >>= fun objects => pure (listedRoutes objects)) =
    ApiServer.liftExcept ((read reply).map listedRoutes)
  cases read reply <;> rfl

/-- What is read from an answer. A missing one is a failure. -/
def heard {α : Type} (read : ApiReply → Except Failure α) : Option ApiReply → Except Failure α
  | some reply => read reply
  | none => .error (.cluster none)

/-- What the reply to a change says, whether or not there was something to remove. -/
def ClusterWrite.reported (change : ClusterWrite) (reply : ApiReply) : Except Failure Unit :=
  let object (kind : ResourceKind) : Except Failure Unit :=
    (readReply (readObject? kind) reply).map fun _ => ()
  let removed (kind : ResourceKind) : Except Failure Unit :=
    readReply (fun doc => if isRemoval kind doc then some () else none) reply
  match change with
  | .applyService _ => object .service
  | .applyVirtualService _ => object .virtualService
  | .deleteVirtualService _ => removed .virtualService
  | .deleteService _ => removed .service

/-- A call with what was heard of it. -/
structure Exchange where
  call : Call
  answer : Option ApiReply

namespace Exchange

/-- What a call comes to by itself. -/
def reported (exchange : Exchange) : Except Failure Unit :=
  match exchange.call with
  | .listRoutes => (heard readRoutes exchange.answer).map fun _ => ()
  | .listManaged kind => (heard (readManaged kind) exchange.answer).map fun _ => ()
  | .write change => heard change.reported exchange.answer

/-- Whether a call succeeds. What is not there does not have to be removed. -/
def Succeeds (exchange : Exchange) : Prop :=
  exchange.reported = .ok () ∨
    exchange.call.kind.Deletes ∧ exchange.reported = .error (.cluster (some 404))

/-- Whether a call fails, with the given failure. -/
def FailsWith (exchange : Exchange) (failure : Failure) : Prop :=
  exchange.reported = .error failure ∧ ¬exchange.Succeeds

theorem exists_failsWith_iff {exchange : Exchange} :
    (∃ failure, exchange.FailsWith failure) ↔ ¬exchange.Succeeds := by
  constructor
  · rintro ⟨_, _, fails⟩
    exact fails
  · intro fails
    cases reported : exchange.reported with
    | ok => exact absurd (.inl reported) fails
    | error failure => exact ⟨failure, reported, fails⟩

end Exchange

section Outcomes

variable {α : Type} {answer : Option ApiReply} {failure : Failure}

theorem Exchange.succeeds_iff_of_not_deletes {exchange : Exchange}
    (keeps : ¬exchange.call.kind.Deletes) :
    exchange.Succeeds ↔ exchange.reported = .ok () :=
  or_iff_left fun removal => keeps removal.1

theorem Exchange.failsWith_iff_of_not_deletes {exchange : Exchange}
    (keeps : ¬exchange.call.kind.Deletes) :
    exchange.FailsWith failure ↔ exchange.reported = .error failure := by
  rw [FailsWith, succeeds_iff_of_not_deletes keeps]
  refine and_iff_left_of_imp fun reported ok => ?_
  cases reported.symm.trans ok

theorem map_unit_eq_ok_iff {outcome : Except Failure α} :
    outcome.map (fun _ => ()) = .ok () ↔ ∃ a, outcome = .ok a :=
  map_eq_ok_iff.trans (exists_congr fun _ => and_iff_left rfl)

theorem not_deletes_listRoutes : ¬Call.listRoutes.kind.Deletes := by decide

theorem succeeds_listRoutes_iff :
    (Exchange.mk .listRoutes answer).Succeeds ↔ ∃ routes, heard readRoutes answer = .ok routes :=
  (Exchange.succeeds_iff_of_not_deletes not_deletes_listRoutes).trans map_unit_eq_ok_iff

theorem failsWith_listRoutes_iff :
    (Exchange.mk .listRoutes answer).FailsWith failure ↔
      heard readRoutes answer = .error failure :=
  (Exchange.failsWith_iff_of_not_deletes not_deletes_listRoutes).trans map_eq_error_iff

theorem not_deletes_listManaged (kind : ResourceKind) : ¬(Call.listManaged kind).kind.Deletes := by
  cases kind <;> decide

theorem succeeds_listManaged_iff {kind : ResourceKind} :
    (Exchange.mk (.listManaged kind) answer).Succeeds ↔
      ∃ resources, heard (readManaged kind) answer = .ok resources :=
  (Exchange.succeeds_iff_of_not_deletes (not_deletes_listManaged kind)).trans map_unit_eq_ok_iff

theorem failsWith_listManaged_iff {kind : ResourceKind} :
    (Exchange.mk (.listManaged kind) answer).FailsWith failure ↔
      heard (readManaged kind) answer = .error failure :=
  (Exchange.failsWith_iff_of_not_deletes (not_deletes_listManaged kind)).trans
    map_eq_error_iff

theorem removal_eq_ok_iff {outcome : Except Failure Unit} :
    removal outcome = .ok () ↔ outcome = .ok () ∨ outcome = .error (.cluster (some 404)) := by
  unfold removal
  split
  · exact iff_of_true rfl (.inr rfl)
  · next other => exact (or_iff_left other).symm

theorem removal_eq_error_iff {outcome : Except Failure Unit} :
    removal outcome = .error failure ↔
      outcome = .error failure ∧ outcome ≠ .error (.cluster (some 404)) := by
  unfold removal
  split
  · exact iff_of_false nofun fun both => both.2 rfl
  · next other => exact (and_iff_left other).symm

/-- The success of a change is what its reply says, but for removals of what is not there. -/
theorem ClusterWrite.success_eq (change : ClusterWrite) (reply : ApiReply) :
    change.success reply =
      if (Call.write change).kind.Deletes then removal (change.reported reply)
      else change.reported reply := by
  cases change <;> rfl

theorem heard_success_eq_ok_iff {change : ClusterWrite} :
    heard change.success answer = .ok () ↔ (Exchange.mk (.write change) answer).Succeeds := by
  by_cases deletes : (Call.write change).kind.Deletes
  · cases answer with
    | none => simp [heard, Exchange.Succeeds, Exchange.reported]
    | some reply =>
      rw [heard, ClusterWrite.success_eq, if_pos deletes, removal_eq_ok_iff]
      exact or_congr Iff.rfl (and_iff_right deletes).symm
  · rw [Exchange.succeeds_iff_of_not_deletes deletes]
    cases answer with
    | none => exact Iff.rfl
    | some reply => rw [heard, ClusterWrite.success_eq, if_neg deletes]; exact Iff.rfl

theorem heard_success_eq_error_iff {change : ClusterWrite} :
    heard change.success answer = .error failure ↔
      (Exchange.mk (.write change) answer).FailsWith failure := by
  rw [Exchange.FailsWith, ← heard_success_eq_ok_iff]
  constructor
  · intro error
    refine ⟨?_, by rw [error]; exact nofun⟩
    cases answer with
    | none => exact error
    | some reply =>
      rw [heard, ClusterWrite.success_eq] at error
      split at error
      · exact (removal_eq_error_iff.1 error).1
      · exact error
  · rintro ⟨reported, fails⟩
    cases answer with
    | none => exact reported
    | some reply =>
      rw [heard, ClusterWrite.success_eq] at fails ⊢
      split at fails
      · next deletes =>
        rw [if_pos deletes]
        refine removal_eq_error_iff.2 ⟨reported, fun missing => fails ?_⟩
        exact removal_eq_ok_iff.2 (.inr missing)
      · next keeps =>
        rw [if_neg keeps]
        exact reported

end Outcomes

/-! ## Answering -/

/-- Whether calls get the answers of someone who answers them one after the other, from a state
that each call may change. -/
def Served {σ : Type} (respond : σ → Call → Option ApiReply × σ) :
    σ → List Exchange → σ → Prop
  | before, [], after => after = before
  | before, exchange :: exchanges, after =>
    exchange.answer = (respond before exchange.call).1 ∧
      Served respond (respond before exchange.call).2 exchanges after

theorem Served.append {σ : Type} {respond : σ → Call → Option ApiReply × σ}
    {before between after : σ} {earlier later : List Exchange}
    (first : Served respond before earlier between) (rest : Served respond between later after) :
    Served respond before (earlier ++ later) after := by
  induction earlier generalizing before with
  | nil => exact (show between = before from first) ▸ rest
  | cons exchange exchanges ih => exact ⟨first.1, ih first.2⟩

/-- How an API server answers a call. A request that cannot be sent does not reach it. -/
def ApiServer.respond (server : ApiServer) (call : Call) : Option ApiReply × ApiServer :=
  if call.request.isSendable then
    (some (server.handle call.request).1, (server.handle call.request).2)
  else (none, server)

end MeshRoutes
