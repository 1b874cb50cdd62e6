import MeshRoutes.Pass.Basic
import MeshRoutes.Proofs.Cluster.Exchange
import MeshRoutes.Proofs.Pass.Execution

/-!
# Scripts of passes

A script says call by call what a pass does next, depending on the answers so far. It may be stopped
after any call, which is what others see of a pass that runs at the same time as they do. The calls
of one batch are made in any order. When some of them have failed, the pass may go on with the
failure of any of these, and leave out those calls of the batch that are not made yet.

* `Script`: the scripts, as a monad; `Script.client` is the client whose calls they are made of.
* `Script.Step`, `Script.Run`: what happens in a script. A run of scripts that follow one another is
  a run of the first, or a whole run of the first and one of the second (`Script.Run.of_bind`).
* `Ends`: the calls that are made until a script comes to its end.
* `exists_ends`: every script comes to its end, whatever the calls are answered with.
* `Plays`: whether what a client of an API server does is a run of a script. A pass does
  (`plays_runPass`).

## Implementation notes

A call is one step, in which it is sent and takes effect or does not. One that was sent and given up,
because another one of its batch failed, is a call whose answer nobody looks at; it has taken effect
by the time the script goes on, or never does.
-/

namespace MeshRoutes

variable {α β : Type}

/-- What a pass does, call by call: it waits for the lock and takes it, gives the lock back, makes a
call and goes on with its answer, or makes changes in any order and goes on when none is left, or
with one of the failures. -/
inductive Script (α : Type) : Type where
  | done (a : α)
  | acquire (next : Script α)
  | release (next : Script α)
  | ask (call : Call) (next : Option ApiReply → Script α)
  | batch (left : List ClusterWrite) (failures : List Failure)
    (next : Except Failure Unit → Script α)

namespace Script

/-- A script and what comes after it. -/
def bind : Script α → (α → Script β) → Script β
  | done a, f => f a
  | acquire next, f => acquire (next.bind f)
  | release next, f => release (next.bind f)
  | ask call next, f => ask call fun answer => (next answer).bind f
  | batch left failures next, f => batch left failures fun outcome => (next outcome).bind f

instance : Monad Script where
  pure := done
  bind := bind

/-- The client whose calls scripts are made of. -/
def client : ClusterClient (ExceptT Failure Script) where
  listRoutes := ExceptT.mk (ask .listRoutes fun answer => done (heard readRoutes answer))
  listManaged kind :=
    ExceptT.mk (ask (.listManaged kind) fun answer => done (heard (readManaged kind) answer))
  writeAll changes := ExceptT.mk (batch changes [] done)

end Script

/-! ## Steps -/

/-- What happens in one step of a script. A turn is the end of a batch. -/
inductive Deed where
  | acquire
  | release
  | exchange (exchange : Exchange)
  | turn

/-- The calls that are made in a step. -/
def Deed.exchanges : Deed → List Exchange
  | .exchange made => [made]
  | _ => []

@[simp] theorem Deed.exchanges_turn : turn.exchanges = [] := rfl

namespace Script

/-- A step of a script. -/
inductive Step : Script α → Deed → Script α → Prop
  | acquire {next : Script α} : Step (.acquire next) .acquire next
  | release {next : Script α} : Step (.release next) .release next
  | ask {call : Call} {next : Option ApiReply → Script α} (answer : Option ApiReply) :
    Step (.ask call next) (.exchange ⟨call, answer⟩) (next answer)
  | written {left : List ClusterWrite} {failures : List Failure}
      {next : Except Failure Unit → Script α} {change : ClusterWrite} {answer : Option ApiReply}
      (mem : change ∈ left) (ok : heard change.success answer = .ok ()) :
    Step (.batch left failures next) (.exchange ⟨.write change, answer⟩)
      (.batch (left.erase change) failures next)
  | failed {left : List ClusterWrite} {failures : List Failure}
      {next : Except Failure Unit → Script α} {change : ClusterWrite} {answer : Option ApiReply}
      {failure : Failure} (mem : change ∈ left)
      (error : heard change.success answer = .error failure) :
    Step (.batch left failures next) (.exchange ⟨.write change, answer⟩)
      (.batch (left.erase change) (failure :: failures) next)
  | complete {next : Except Failure Unit → Script α} :
    Step (.batch [] [] next) .turn (next (.ok ()))
  | broken {left : List ClusterWrite} {failures : List Failure}
      {next : Except Failure Unit → Script α} {failure : Failure} (mem : failure ∈ failures) :
    Step (.batch left failures next) .turn (next (.error failure))

/-- Some steps of a script, with the calls that are made in them. -/
inductive Run : Script α → List Exchange → Script α → Prop
  | refl (script : Script α) : Run script [] script
  | tail {script between after : Script α} {exchanges : List Exchange} {deed : Deed}
      (run : Run script exchanges between) (step : between.Step deed after) :
    Run script (exchanges ++ deed.exchanges) after

variable {script between after : Script α} {exchanges earlier later : List Exchange} {deed : Deed}
  {f : α → Script β}

theorem Run.trans (first : Run script earlier between) (rest : Run between later after) :
    Run script (earlier ++ later) after := by
  induction rest with
  | refl => exact (List.append_nil earlier).symm ▸ first
  | tail _ step ih => exact List.append_assoc _ _ _ ▸ ih.tail step

theorem Step.run (step : script.Step deed after) : Run script deed.exchanges after :=
  (Run.refl script).tail step

/-- Nothing has happened yet, or there was a first step. -/
theorem Run.cases_head (run : Run script exchanges after) :
    (exchanges = [] ∧ after = script) ∨
      ∃ deed between later, script.Step deed between ∧ Run between later after ∧
        exchanges = deed.exchanges ++ later := by
  induction run with
  | refl => exact .inl ⟨rfl, rfl⟩
  | tail _ step ih =>
    rcases ih with ⟨rfl, rfl⟩ | ⟨deed, between, later, first, rest, rfl⟩
    · exact .inr ⟨_, _, [], step, .refl _, (List.append_nil _).symm⟩
    · exact .inr ⟨deed, between, _, first, rest.tail step, List.append_assoc _ _ _⟩

theorem Run.of_done {a : α} (run : Run (done a) exchanges after) :
    exchanges = [] ∧ after = done a := by
  rcases run.cases_head with start | ⟨_, _, _, step, _⟩
  · exact start
  · nomatch step

/-! ## Scripts that follow one another -/

theorem Step.bind (step : script.Step deed after) (f : α → Script β) :
    (script.bind f).Step deed (after.bind f) := by
  cases step with
  | acquire => exact .acquire
  | release => exact .release
  | ask answer => exact .ask answer
  | written mem ok => exact .written mem ok
  | failed mem error => exact .failed mem error
  | complete => exact .complete
  | broken mem => exact .broken mem

theorem Run.bind (run : Run script exchanges after) (f : α → Script β) :
    Run (script.bind f) exchanges (after.bind f) := by
  induction run with
  | refl => exact .refl _
  | tail _ step ih => exact ih.tail (step.bind f)

/-- A step is one of the first script, or of the second when the first is at its end. -/
theorem Step.of_bind {after : Script β} (step : (script.bind f).Step deed after) :
    (∃ between, script.Step deed between ∧ after = between.bind f) ∨
      ∃ a, script = done a ∧ (f a).Step deed after := by
  cases script with
  | done a => exact .inr ⟨a, rfl, step⟩
  | acquire next => cases step with | acquire => exact .inl ⟨next, .acquire, rfl⟩
  | release next => cases step with | release => exact .inl ⟨next, .release, rfl⟩
  | ask call next => cases step with | ask answer => exact .inl ⟨next answer, .ask answer, rfl⟩
  | batch left failures next =>
    cases step with
    | written mem ok => exact .inl ⟨_, .written mem ok, rfl⟩
    | failed mem error => exact .inl ⟨_, .failed mem error, rfl⟩
    | complete => exact .inl ⟨_, .complete, rfl⟩
    | broken mem => exact .inl ⟨_, .broken mem, rfl⟩

theorem Run.of_bind {after : Script β} (run : Run (script.bind f) exchanges after) :
    (∃ between, Run script exchanges between ∧ after = between.bind f) ∨
      ∃ a earlier later, Run script earlier (done a) ∧ Run (f a) later after ∧
        exchanges = earlier ++ later := by
  induction run with
  | refl => exact .inl ⟨script, .refl _, rfl⟩
  | tail _ step ih =>
    rcases ih with ⟨between, run, rfl⟩ | ⟨a, earlier, later, first, rest, rfl⟩
    · rcases step.of_bind with ⟨after, inner, rfl⟩ | ⟨a, rfl, first⟩
      · exact .inl ⟨after, run.tail inner, rfl⟩
      · exact .inr ⟨a, _, _, run, first.run, rfl⟩
    · exact .inr ⟨a, earlier, _, first, rest.tail step, List.append_assoc _ _ _⟩

end Script

/-! ## Whole runs -/

section Ends

variable {x : ExceptT Failure Script α} {f : α → ExceptT Failure Script β}
  {exchanges earlier later : List Exchange} {failure : Failure}

/-- Whether a script may make these calls and come to this result. -/
def Ends (x : ExceptT Failure Script α) (exchanges : List Exchange) (result : Except Failure α) :
    Prop :=
  x.run.Run exchanges (.done result)

theorem ends_pure_iff {a : α} {result : Except Failure α} :
    Ends (pure a) exchanges result ↔ exchanges = [] ∧ result = .ok a := by
  constructor
  · intro ends
    obtain ⟨rfl, same⟩ := Script.Run.of_done ends
    cases same
    exact ⟨rfl, rfl⟩
  · rintro ⟨rfl, rfl⟩
    exact .refl _

theorem Ends.bind_error (ends : Ends x exchanges (.error failure)) :
    Ends (x >>= f) exchanges (.error failure) :=
  Script.Run.bind ends _

theorem Ends.bind_ok {a : α} {result : Except Failure β} (ends : Ends x earlier (.ok a))
    (rest : Ends (f a) later result) : Ends (x >>= f) (earlier ++ later) result :=
  (Script.Run.bind ends _).trans rest

/-- What follows one another comes to its end with a failure of the first, or with the second. -/
theorem Ends.of_bind {result : Except Failure β} (ends : Ends (x >>= f) exchanges result) :
    (∃ failure, Ends x exchanges (.error failure) ∧ result = .error failure) ∨
      ∃ a earlier later, Ends x earlier (.ok a) ∧ Ends (f a) later result ∧
        exchanges = earlier ++ later := by
  have parts : ∃ first earlier later, Ends x earlier first ∧ Script.Run
      ((match first with
        | .ok a => (f a).run
        | .error failure => .done (.error failure)) : Script (Except Failure β))
      later (.done result) ∧ exchanges = earlier ++ later := by
    rcases Script.Run.of_bind ends with ⟨between, run, same⟩ |
      ⟨first, earlier, later, run, rest, rfl⟩
    · cases between with
      | done first =>
        refine ⟨first, exchanges, [], run, ?_, (List.append_nil _).symm⟩
        cases first <;> exact same ▸ .refl _
      | _ => nomatch same
    · refine ⟨first, earlier, later, run, ?_, rfl⟩
      cases first <;> exact rest
  obtain ⟨first, earlier, later, first_ends, rest, rfl⟩ := parts
  cases first with
  | ok a => exact .inr ⟨a, earlier, later, first_ends, rest, rfl⟩
  | error failure =>
    obtain ⟨rfl, same⟩ := rest.of_done
    cases same
    exact .inl ⟨failure, (List.append_nil earlier).symm ▸ first_ends, rfl⟩

end Ends

/-! ## Calls -/

section Calls

open Script

variable {exchanges : List Exchange} {changes : List ClusterWrite}

/-- A run that is about to make a call has made none, or goes on from its answer. -/
theorem Script.Run.of_ask {call : Call} {next : Option ApiReply → Script α} {after : Script α}
    (run : Run (.ask call next) exchanges after) :
    (exchanges = [] ∧ after = .ask call next) ∨
      ∃ answer later, Run (next answer) later after ∧ exchanges = ⟨call, answer⟩ :: later := by
  rcases run.cases_head with start | ⟨_, _, later, step, rest, rfl⟩
  · exact .inl start
  · cases step with | ask answer => exact .inr ⟨answer, later, rest, rfl⟩

theorem Script.Run.of_ask_done {call : Call} {read : Option ApiReply → α} {result : α}
    (run : Run (.ask call fun answer => .done (read answer)) exchanges (.done result)) :
    ∃ answer, exchanges = [⟨call, answer⟩] ∧ result = read answer := by
  rcases run.of_ask with ⟨_, same⟩ | ⟨answer, later, rest, rfl⟩
  · nomatch same
  · obtain ⟨rfl, same⟩ := rest.of_done
    cases same
    exact ⟨answer, rfl, rfl⟩

theorem ends_listRoutes {result : Except Failure (List Route)}
    (ends : Ends client.listRoutes exchanges result) :
    ∃ answer, exchanges = [⟨.listRoutes, answer⟩] ∧ result = heard readRoutes answer :=
  Run.of_ask_done ends

theorem ends_listManaged {kind : ResourceKind} {result : Except Failure (List ManagedResource)}
    (ends : Ends (client.listManaged kind) exchanges result) :
    ∃ answer, exchanges = [⟨.listManaged kind, answer⟩] ∧
      result = heard (readManaged kind) answer :=
  Run.of_ask_done ends

/-- How far a batch has got: each change was made or is left, the failures are those of calls, and
without failures every call has succeeded. -/
structure BatchUnderway (changes : List ClusterWrite) (exchanges : List Exchange)
    (left : List ClusterWrite) (failures : List Failure) : Prop where
  all : (exchanges.map Exchange.call ++ left.map Call.write).Perm (changes.map Call.write)
  failed : ∀ failure ∈ failures, ∃ exchange ∈ exchanges, exchange.FailsWith failure
  succeeded : failures = [] → ∀ exchange ∈ exchanges, exchange.Succeeds

/-- Whether the calls of a batch were made that comes to this result. -/
def BatchEnds (changes : List ClusterWrite) (exchanges : List Exchange) :
    Except Failure Unit → Prop
  | .ok () => (exchanges.map Exchange.call).Perm (changes.map Call.write) ∧
      ∀ exchange ∈ exchanges, exchange.Succeeds
  | .error failure => (exchanges.map Exchange.call).Subperm (changes.map Call.write) ∧
      ∃ exchange ∈ exchanges, exchange.FailsWith failure

theorem BatchUnderway.start (changes : List ClusterWrite) :
    BatchUnderway changes [] changes [] :=
  ⟨.refl _, nofun, fun _ => nofun⟩

theorem BatchUnderway.made {left : List ClusterWrite} {failures : List Failure}
    (underway : BatchUnderway changes exchanges left failures) {change : ClusterWrite}
    (mem : change ∈ left) (answer : Option ApiReply) :
    ((exchanges ++ [Exchange.mk (.write change) answer]).map Exchange.call ++
      (left.erase change).map Call.write).Perm (changes.map Call.write) := by
  rw [List.map_append, List.append_assoc]
  have front : (left.map Call.write).Perm (.write change :: (left.erase change).map .write) :=
    (List.perm_cons_erase mem).map Call.write
  exact (front.symm.append_left _).trans underway.all

/-- A batch is underway or has ended. -/
theorem Script.Run.of_batch {after : Script (Except Failure Unit)}
    (run : Run (.batch changes [] .done) exchanges after) :
    (∃ left failures, after = .batch left failures .done ∧
        BatchUnderway changes exchanges left failures) ∨
      ∃ result, after = .done result ∧ BatchEnds changes exchanges result := by
  induction run with
  | refl => exact .inl ⟨changes, [], rfl, .start changes⟩
  | tail _ step ih =>
    rcases ih with ⟨left, failures, rfl, underway⟩ | ⟨_, rfl, _⟩
    · cases step with
      | written mem ok =>
        have succeeds := heard_success_eq_ok_iff.1 ok
        refine .inl ⟨_, _, rfl, underway.made mem _, fun failure failed => ?_, fun none => ?_⟩
        · obtain ⟨exchange, made, fails⟩ := underway.failed failure failed
          exact ⟨exchange, List.mem_append_left _ made, fails⟩
        · exact List.forall_mem_append.2
            ⟨underway.succeeded none, List.forall_mem_singleton.2 succeeds⟩
      | failed mem error =>
        have fails := heard_success_eq_error_iff.1 error
        refine .inl ⟨_, _, rfl, underway.made mem _, List.forall_mem_cons.2 ⟨?_, ?_⟩, nofun⟩
        · exact ⟨_, List.mem_append_right _ (List.mem_singleton_self _), fails⟩
        · intro failure failed
          obtain ⟨exchange, made, fails⟩ := underway.failed failure failed
          exact ⟨exchange, List.mem_append_left _ made, fails⟩
      | complete =>
        -- nothing is left, so that all changes were made
        have all := underway.all
        rw [List.map_nil, List.append_nil] at all
        refine .inr ⟨_, rfl, ?_⟩
        rw [Deed.exchanges_turn, List.append_nil]
        exact ⟨all, underway.succeeded rfl⟩
      | broken mem =>
        -- whatever is left is given up
        refine .inr ⟨_, rfl, ?_⟩
        rw [Deed.exchanges_turn, List.append_nil]
        exact ⟨(List.sublist_append_left _ _).subperm.trans underway.all.subperm,
          underway.failed _ mem⟩
    · nomatch step

theorem ends_writeAll {result : Except Failure Unit}
    (ends : Ends (client.writeAll changes) exchanges result) :
    BatchEnds changes exchanges result := by
  rcases Run.of_batch ends with ⟨_, _, same, _⟩ | ⟨_, same, batchEnds⟩
  · nomatch same
  · cases same
    exact batchEnds

end Calls

/-! ## Answers from somewhere -/

section Served

open Script

variable {σ : Type} (respond : σ → Call → Option ApiReply × σ)

/-- A batch comes to its end, whatever its calls are answered with. -/
theorem exists_run_batch (left : List ClusterWrite) (failures : List Failure)
    (next : Except Failure Unit → Script α) (cluster : σ) :
    ∃ exchanges outcome after, Run (.batch left failures next) exchanges (next outcome) ∧
      Served respond cluster exchanges after := by
  induction left generalizing failures cluster with
  | nil =>
    cases failures with
    | nil => exact ⟨[], _, cluster, Step.complete.run, rfl⟩
    | cons failure failures =>
      exact ⟨[], _, cluster, (Step.broken List.mem_cons_self).run, rfl⟩
  | cons change left ih =>
    -- the first of the changes that are left is made next
    have made (failures' : List Failure)
        (step : Step (.batch (change :: left) failures next)
          (.exchange ⟨.write change, (respond cluster (.write change)).1⟩)
          (.batch ((change :: left).erase change) failures' next)) :
        ∃ exchanges outcome after,
          Run (.batch (change :: left) failures next) exchanges (next outcome) ∧
            Served respond cluster exchanges after := by
      rw [List.erase_cons_head] at step
      obtain ⟨exchanges, outcome, after, run, served⟩ :=
        ih failures' (respond cluster (.write change)).2
      exact ⟨_, outcome, after, step.run.trans run, rfl, served⟩
    cases outcome : heard change.success (respond cluster (.write change)).1 with
    | ok => exact made _ (.written List.mem_cons_self outcome)
    | error failure => exact made _ (.failed List.mem_cons_self outcome)

/-- Every script comes to its end, whatever its calls are answered with. -/
theorem exists_run_done (script : Script α) (cluster : σ) :
    ∃ exchanges a after, Run script exchanges (.done a) ∧
      Served respond cluster exchanges after := by
  induction script generalizing cluster with
  | done a => exact ⟨[], a, cluster, .refl _, rfl⟩
  | acquire next ih =>
    obtain ⟨exchanges, a, after, run, served⟩ := ih cluster
    exact ⟨exchanges, a, after, Step.acquire.run.trans run, served⟩
  | release next ih =>
    obtain ⟨exchanges, a, after, run, served⟩ := ih cluster
    exact ⟨exchanges, a, after, Step.release.run.trans run, served⟩
  | ask call next ih =>
    obtain ⟨exchanges, a, after, run, served⟩ :=
      ih (respond cluster call).1 (respond cluster call).2
    exact ⟨_, a, after, (Step.ask _).run.trans run, rfl, served⟩
  | batch left failures next ih =>
    obtain ⟨earlier, outcome, between, first, served⟩ :=
      exists_run_batch respond left failures next cluster
    obtain ⟨later, a, after, rest, served'⟩ := ih outcome between
    exact ⟨_, a, after, first.trans rest, served.append served'⟩

theorem exists_ends (x : ExceptT Failure Script α) (cluster : σ) :
    ∃ exchanges result after, Ends x exchanges result ∧ Served respond cluster exchanges after :=
  exists_run_done respond x.run cluster

end Served

/-! ## Executed scripts -/

section Plays

open Script

variable {server : ApiServer}

/-- Whether what a client does on a server is a run of a script, the calls of which the server
answers one after the other. -/
def Plays (run : ApiServer.Run α) (x : ExceptT Failure Script α) : Prop :=
  ∀ server result after, run.run.run server = (result, after) →
    ∃ exchanges, Ends x exchanges result ∧ Served ApiServer.respond server exchanges after

theorem plays_pure (a : α) : Plays (pure a) (pure a) := by
  intro server result after ran
  cases ran
  exact ⟨[], .refl _, rfl⟩

theorem Plays.bind {run : ApiServer.Run α} {x : ExceptT Failure Script α}
    {next : α → ApiServer.Run β} {f : α → ExceptT Failure Script β} (first : Plays run x)
    (later : ∀ a, Plays (next a) (f a)) : Plays (run >>= next) (x >>= f) := by
  intro server result after ran
  rcases run_bind_cases ran with ⟨failure, ran', rfl⟩ | ⟨a, between, ran', ran⟩
  · obtain ⟨exchanges, ends, served⟩ := first _ _ _ ran'
    exact ⟨exchanges, ends.bind_error, served⟩
  · obtain ⟨exchanges, ends, served⟩ := first _ _ _ ran'
    obtain ⟨exchanges', rest, served'⟩ := later a _ _ _ ran
    exact ⟨_, ends.bind_ok rest, served.append served'⟩

/-- A call comes to what is read from the answer of the server. -/
theorem run_send (call : Call) (read : ApiReply → Except Failure α) :
    (do ApiServer.liftExcept (read (← ApiServer.send call.request)) :
      ApiServer.Run α).run.run server =
      (heard read (server.respond call).1, (server.respond call).2) := by
  unfold ApiServer.respond ApiServer.send
  split
  · exact run_liftExcept _
  · rfl

theorem plays_ask (call : Call) (read : ApiReply → Except Failure α) :
    Plays (do ApiServer.liftExcept (read (← ApiServer.send call.request)))
      (ExceptT.mk (.ask call fun answer => .done (heard read answer))) := by
  intro server result after ran
  rw [run_send] at ran
  cases ran
  exact ⟨_, (Step.ask _).run, rfl, rfl⟩

theorem plays_listRoutes : Plays ApiServer.client.listRoutes client.listRoutes := by
  rw [ApiServer.client_listRoutes]
  exact plays_ask .listRoutes readRoutes

/-- Making the changes of a batch one after the other is one way of making them. -/
theorem plays_writeAll (changes : List ClusterWrite) :
    Plays (ApiServer.client.writeAll changes) (client.writeAll changes) := by
  induction changes with
  | nil =>
    intro server result after ran
    cases ran
    exact ⟨[], Step.complete.run, rfl⟩
  | cons change changes ih =>
    intro server result after ran
    have front : (change :: changes).erase change = changes := List.erase_cons_head ..
    rcases run_bind_cases ran with ⟨failure, sent, rfl⟩ | ⟨⟨⟩, between, sent, ran⟩
    · rw [ApiServer.write] at sent
      have sent := (run_send (.write change) change.success).symm.trans sent
      obtain ⟨error, rfl⟩ := Prod.mk.inj sent
      have failed : Run (.batch (change :: changes) [] done) _ (.batch changes [failure] done) :=
        front ▸ (Step.failed List.mem_cons_self error).run
      exact ⟨_, failed.tail (.broken List.mem_cons_self), rfl, rfl⟩
    · have sent := (run_send (.write change) change.success).symm.trans sent
      obtain ⟨ok, rfl⟩ := Prod.mk.inj sent
      obtain ⟨exchanges, rest, served⟩ := ih _ _ _ ran
      have written : Run (.batch (change :: changes) [] done) _ (.batch changes [] done) :=
        front ▸ (Step.written List.mem_cons_self ok).run
      exact ⟨_, written.trans rest, rfl, served⟩

/-- An executed pass is a run of the script of a pass. -/
theorem plays_runPass (gateways : List String) :
    Plays (runPass ApiServer.client gateways) (runPass client gateways) := by
  unfold runPass
  refine plays_listRoutes.bind fun routes => ?_
  refine (plays_writeAll _).bind fun _ => (plays_writeAll _).bind fun _ => ?_
  refine (plays_ask (.listManaged .virtualService) _).bind fun virtualServices => ?_
  refine (plays_ask (.listManaged .service) _).bind fun services => ?_
  refine (plays_writeAll _).bind fun _ => (plays_writeAll _).bind fun _ => ?_
  exact plays_pure _

end Plays

end MeshRoutes
