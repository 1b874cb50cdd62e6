import MeshRoutes.Proofs.Pass.Script

/-!
# Passes under a lock

Any number of passes are started at any time, each for a change of a route or at the end of an
interval. They take turns: a pass makes its calls while it holds the lock, and gives the lock back
with its result, be it a failure or not. Meanwhile others edit routes.

* `guardedPass`: a pass under the lock.
* `PassSystem`, `PassSystem.Step`, `PassSystem.Runs`: a server and the passes over it, with the
  events that may happen one after the other.
* `LockInvariant`: where each pass stands. At most one of them is between its first and its last
  call, the one that holds the lock. It is the last of those that took it. Every event keeps this
  (`LockInvariant.step`).
* `exists_release`: whoever holds the lock can go on to give it back.
-/

namespace MeshRoutes

open Script (client)

variable {α β : Type} {gateways : List String}

namespace Script

/-! ## Scripts without the lock -/

/-- Whether a script does nothing with the lock. -/
def LockFree : Script α → Prop
  | done _ => True
  | acquire _ => False
  | release _ => False
  | ask _ next => ∀ answer, (next answer).LockFree
  | batch _ _ next => ∀ outcome, (next outcome).LockFree

variable {script after : Script α} {exchanges : List Exchange} {deed : Deed}

theorem LockFree.bind (lockFree : script.LockFree) {f : α → Script β}
    (later : ∀ a, (f a).LockFree) : (script.bind f).LockFree := by
  induction script with
  | done a => exact later a
  | acquire next => exact lockFree.elim
  | release next => exact lockFree.elim
  | ask call next ih => exact fun answer => ih answer (lockFree answer)
  | batch left failures next ih => exact fun outcome => ih outcome (lockFree outcome)

theorem LockFree.step (lockFree : script.LockFree) (step : script.Step deed after) :
    after.LockFree ∧ deed ≠ .acquire ∧ deed ≠ .release := by
  cases step with
  | acquire => exact lockFree.elim
  | release => exact lockFree.elim
  | ask answer => exact ⟨lockFree answer, nofun, nofun⟩
  | written => exact ⟨lockFree, nofun, nofun⟩
  | failed => exact ⟨lockFree, nofun, nofun⟩
  | complete => exact ⟨lockFree _, nofun, nofun⟩
  | broken => exact ⟨lockFree _, nofun, nofun⟩

theorem LockFree.run (lockFree : script.LockFree) (run : Run script exchanges after) :
    after.LockFree := by
  induction run with
  | refl => exact lockFree
  | tail _ step ih => exact (ih.step step).1

theorem lockFree_bind {x : ExceptT Failure Script α} {f : α → ExceptT Failure Script β}
    (first : x.run.LockFree) (later : ∀ a, (f a).run.LockFree) : (x >>= f).run.LockFree := by
  refine LockFree.bind first fun outcome => ?_
  cases outcome with
  | ok a => exact later a
  | error failure => exact trivial

theorem lockFree_runPass (gateways : List String) : (runPass client gateways).run.LockFree := by
  have batch (changes : List ClusterWrite) : (client.writeAll changes).run.LockFree :=
    fun _ => trivial
  unfold runPass
  refine lockFree_bind (fun _ => trivial) fun routes => ?_
  refine lockFree_bind (batch _) fun _ => lockFree_bind (batch _) fun _ => ?_
  refine lockFree_bind (fun _ => trivial) fun _ => lockFree_bind (fun _ => trivial) fun _ => ?_
  exact lockFree_bind (batch _) fun _ => lockFree_bind (batch _) fun _ => trivial

/-- Gives the lock back with the result. -/
def leave (result : α) : Script α := .release (.done result)

end Script

/-- A pass under the lock. -/
def guardedPass (gateways : List String) : Script (Except Failure PassSummary) :=
  .acquire ((runPass client gateways).run.bind .leave)

/-! ## Servers with passes over them -/

/-- A server and the passes over it: the number of the pass that holds the lock, and what each pass
has left to do, in the order in which they were started. -/
structure PassSystem where
  server : ApiServer
  holder : Option Nat
  passes : List (Script (Except Failure PassSummary))

/-- What happens to a server and the passes over it: a pass is started, a pass goes one step on, or
others edit routes. -/
inductive PassEvent where
  | start
  | deed (pass : Nat) (deed : Deed)
  | edit (routes : List Json)

/-- The pass that takes the lock. -/
def PassEvent.entries : PassEvent → List Nat
  | .deed pass .acquire => [pass]
  | _ => []

/-- What a server may answer to a call, and the server after it. It does what it is asked for, or
says that it does not and does not, or does not hear of the call; or it does what it is asked for,
but the reply is lost or says otherwise. -/
inductive ApiServer.Answers (server : ApiServer) (call : Call) :
    Option ApiReply → ApiServer → Prop
  | performed : Answers server call (some (server.perform call.request).1)
    (server.perform call.request).2
  | refused {reply : ApiReply} {failure : Failure} (error : reply.document = .error failure) :
    Answers server call (some reply) server
  | unsent : Answers server call none server
  | lost : Answers server call none (server.perform call.request).2
  | misreported {reply : ApiReply} {failure : Failure} (error : reply.document = .error failure) :
    Answers server call (some reply) (server.perform call.request).2

namespace PassSystem

/-- A server without passes. -/
def init (server : ApiServer) : PassSystem := ⟨server, none, []⟩

/-- An event. A pass takes the lock only when it is free. -/
inductive Step (gateways : List String) : PassSystem → PassEvent → PassSystem → Prop
  | start {system : PassSystem} :
    Step gateways system .start { system with passes := system.passes ++ [guardedPass gateways] }
  | acquire {system : PassSystem} {pass : Nat} {script after : Script (Except Failure PassSummary)}
      (at_ : system.passes[pass]? = some script) (step : script.Step .acquire after)
      (free : system.holder = none) :
    Step gateways system (.deed pass .acquire)
      { system with holder := some pass, passes := system.passes.set pass after }
  | release {system : PassSystem} {pass : Nat} {script after : Script (Except Failure PassSummary)}
      (at_ : system.passes[pass]? = some script) (step : script.Step .release after) :
    Step gateways system (.deed pass .release)
      { system with holder := none, passes := system.passes.set pass after }
  | exchange {system : PassSystem} {pass : Nat} {script after : Script (Except Failure PassSummary)}
      {made : Exchange} {server : ApiServer} (at_ : system.passes[pass]? = some script)
      (step : script.Step (.exchange made) after)
      (answers : system.server.Answers made.call made.answer server) :
    Step gateways system (.deed pass (.exchange made))
      { system with server, passes := system.passes.set pass after }
  | turn {system : PassSystem} {pass : Nat} {script after : Script (Except Failure PassSummary)}
      (at_ : system.passes[pass]? = some script) (step : script.Step .turn after) :
    Step gateways system (.deed pass .turn)
      { system with passes := system.passes.set pass after }
  | edit {system : PassSystem} (routes : List Json) :
    Step gateways system (.edit routes) { system with server := { system.server with routes } }

/-- Some events, one after the other. -/
inductive Runs (gateways : List String) : PassSystem → List PassEvent → PassSystem → Prop
  | refl (system : PassSystem) : Runs gateways system [] system
  | tail {system between after : PassSystem} {events : List PassEvent} {event : PassEvent}
      (runs : Runs gateways system events between) (step : Step gateways between event after) :
    Runs gateways system (events ++ [event]) after

end PassSystem

/-! ## What has happened -/

/-- A call that a pass made, when routes had been edited some number of times. -/
structure MadeCall where
  pass : Nat
  version : Nat
  exchange : Exchange

namespace PassEvent

/-- The routes that others leave. -/
def edits : PassEvent → List (List Json)
  | .edit routes => [routes]
  | _ => []

/-- The calls that are made when there were some edits before. -/
def calls (version : Nat) : PassEvent → List MadeCall
  | .deed pass (.exchange made) => [⟨pass, version, made⟩]
  | _ => []

end PassEvent

/-- The passes that took the lock, in order. -/
def entered (events : List PassEvent) : List Nat := events.flatMap PassEvent.entries

/-- The number of edits. -/
def editCount (events : List PassEvent) : Nat := (events.flatMap PassEvent.edits).length

/-- The calls that were made when there were some edits before, in order. -/
def madeFrom (version : Nat) : List PassEvent → List MadeCall
  | [] => []
  | event :: events => event.calls version ++ madeFrom (version + event.edits.length) events

/-- The calls that were made, in order. -/
def made (events : List PassEvent) : List MadeCall := madeFrom 0 events

/-- Those calls among some that a pass made. -/
def callsBy (pass : Nat) (calls : List MadeCall) : List Exchange :=
  (calls.filter (·.pass = pass)).map MadeCall.exchange

section Events

variable {events : List PassEvent} {event : PassEvent} {calls : List MadeCall} {pass : Nat}

theorem entered_concat : entered (events ++ [event]) = entered events ++ event.entries := by
  simp [entered]

theorem madeFrom_append (version : Nat) (earlier later : List PassEvent) :
    madeFrom version (earlier ++ later) =
      madeFrom version earlier ++ madeFrom (version + editCount earlier) later := by
  induction earlier generalizing version with
  | nil => rfl
  | cons event events ih =>
    simp only [List.cons_append, madeFrom, ih, List.append_assoc, editCount, List.flatMap_cons,
      List.length_append, Nat.add_assoc]

theorem made_concat : made (events ++ [event]) = made events ++ event.calls (editCount events) := by
  simp [made, madeFrom_append, madeFrom]

theorem callsBy_concat (call : MadeCall) :
    callsBy pass (calls ++ [call]) =
      callsBy pass calls ++ if call.pass = pass then [call.exchange] else [] := by
  by_cases same : call.pass = pass <;> simp [callsBy, same]

end Events

/-! ## Where a pass stands -/

/-- Where a pass stands that has made some calls: it waits for the lock, it holds it, or it has
given it back. -/
inductive Standing (gateways : List String) (order : List Nat) (holder : Option Nat) (pass : Nat)
    (exchanges : List Exchange) : Script (Except Failure PassSummary) → Prop
  | waiting (absent : pass ∉ order) :
    Standing gateways order holder pass exchanges (guardedPass gateways)
  | inside {rest : Script (Except Failure PassSummary)} (holds : holder = some pass)
      (run : (runPass client gateways).run.Run exchanges rest) :
    Standing gateways order holder pass exchanges (rest.bind .leave)
  | ended {result : Except Failure PassSummary} (present : pass ∈ order)
      (gone : holder ≠ some pass) (ends : Ends (runPass client gateways) exchanges result) :
    Standing gateways order holder pass exchanges (.done result)

section Standing

variable {order order' : List Nat} {holder holder' : Option Nat} {pass : Nat}
  {exchanges : List Exchange} {script after : Script (Except Failure PassSummary)} {deed : Deed}

/-- What others do changes nothing about where a pass stands. -/
theorem Standing.congr (standing : Standing gateways order holder pass exchanges script)
    (order_iff : pass ∈ order' ↔ pass ∈ order) (holder_iff : holder' = some pass ↔ holder = some pass) :
    Standing gateways order' holder' pass exchanges script := by
  cases standing with
  | waiting absent => exact .waiting (mt order_iff.1 absent)
  | inside holds run => exact .inside (holder_iff.2 holds) run
  | ended present gone ends => exact .ended (order_iff.2 present) (mt holder_iff.1 gone) ends

/-- Only who has not had the lock takes it, with a whole pass ahead. -/
theorem Standing.of_acquire (standing : Standing gateways order holder pass exchanges script)
    (step : script.Step .acquire after) :
    pass ∉ order ∧ after = (runPass client gateways).run.bind .leave := by
  cases standing with
  | waiting absent => cases step with | acquire => exact ⟨absent, rfl⟩
  | inside _ run =>
    -- a pass does nothing with the lock by itself, and after it the lock is given back
    rcases step.of_bind with ⟨_, inner, _⟩ | ⟨_, _, last⟩
    · exact absurd rfl (((Script.lockFree_runPass gateways).run run).step inner).2.1
    · nomatch last
  | ended => nomatch step

/-- Only who holds the lock gives it back, with the result of a whole pass. -/
theorem Standing.of_release (standing : Standing gateways order holder pass exchanges script)
    (step : script.Step .release after) :
    holder = some pass ∧
      ∃ result, Ends (runPass client gateways) exchanges result ∧ after = .done result := by
  cases standing with
  | waiting => nomatch step
  | inside holds run =>
    rcases step.of_bind with ⟨_, inner, _⟩ | ⟨result, rfl, last⟩
    · exact absurd rfl (((Script.lockFree_runPass gateways).run run).step inner).2.2
    · cases last with | release => exact ⟨holds, result, run, rfl⟩
  | ended => nomatch step

/-- Only who holds the lock does anything else, and goes on with its pass. -/
theorem Standing.of_step (standing : Standing gateways order holder pass exchanges script)
    (step : script.Step deed after) (not_acquire : deed ≠ .acquire)
    (not_release : deed ≠ .release) :
    holder = some pass ∧
      Standing gateways order holder pass (exchanges ++ deed.exchanges) after := by
  cases standing with
  | waiting => cases step with | acquire => exact absurd rfl not_acquire
  | inside holds run =>
    rcases step.of_bind with ⟨rest, inner, rfl⟩ | ⟨_, rfl, last⟩
    · exact ⟨holds, .inside holds (run.tail inner)⟩
    · cases last with | release => exact absurd rfl not_release
  | ended => nomatch step

end Standing

/-! ## The invariant -/

/-- Whether the calls are those of some passes, one pass after the other. -/
def Grouped (order : List Nat) (calls : List MadeCall) : Prop :=
  calls = order.flatMap fun pass => calls.filter (·.pass = pass)

/-- Where all passes stand after some events. Each waits for the lock, or holds it, or has given it
back. Only passes that were started take it, none of them twice, and the last that took it holds it.
They make their calls in the order in which they take it. -/
structure LockInvariant (gateways : List String) (events : List PassEvent) (system : PassSystem) :
    Prop where
  standing : ∀ pass script, system.passes[pass]? = some script →
    Standing gateways (entered events) system.holder pass (callsBy pass (made events)) script
  nodup : (entered events).Nodup
  started : ∀ pass ∈ entered events, pass < system.passes.length
  holder_last : ∀ pass, system.holder = some pass → (entered events).getLast? = some pass
  grouped : Grouped (entered events) (made events)

section Invariant

variable {order : List Nat} {calls : List MadeCall} {events : List PassEvent} {event : PassEvent}
  {system after : PassSystem}

theorem Grouped.pass_mem (grouped : Grouped order calls) {call : MadeCall} (mem : call ∈ calls) :
    call.pass ∈ order := by
  rw [grouped] at mem
  obtain ⟨pass, pass_mem, call_mem⟩ := List.mem_flatMap.1 mem
  rw [of_decide_eq_true (List.mem_filter.1 call_mem).2]
  exact pass_mem

theorem Grouped.filter_eq_nil (grouped : Grouped order calls) {pass : Nat} (absent : pass ∉ order) :
    calls.filter (·.pass = pass) = [] := by
  refine List.filter_eq_nil_iff.2 fun call mem same => absent ?_
  rw [← of_decide_eq_true same]
  exact grouped.pass_mem mem

theorem Grouped.enter (grouped : Grouped order calls) {pass : Nat} (absent : pass ∉ order) :
    Grouped (order ++ [pass]) calls := by
  rw [Grouped, List.flatMap_append, List.flatMap_singleton, grouped.filter_eq_nil absent,
    List.append_nil]
  exact grouped

theorem Grouped.call {call : MadeCall} (grouped : Grouped (order ++ [call.pass]) calls)
    (nodup : (order ++ [call.pass]).Nodup) : Grouped (order ++ [call.pass]) (calls ++ [call]) := by
  have absent : call.pass ∉ order := fun mem =>
    (List.nodup_append.1 nodup).2.2 _ mem _ (List.mem_singleton_self _) rfl
  -- the new call stands at the end, and its pass is the last
  have others : (order.flatMap fun pass => (calls ++ [call]).filter (·.pass = pass)) =
      order.flatMap fun pass => calls.filter (·.pass = pass) := by
    refine List.flatMap_congr fun pass mem => ?_
    have other : call.pass ≠ pass := fun same => absent (same ▸ mem)
    rw [List.filter_append, List.filter_singleton, decide_eq_false other]
    exact List.append_nil _
  rw [Grouped, List.flatMap_append, List.flatMap_singleton] at grouped
  rw [Grouped, List.flatMap_append, List.flatMap_singleton, others, List.filter_append,
    List.filter_singleton, decide_eq_true rfl, ← List.append_assoc, ← grouped]
  rfl

theorem standing_set {order : List Nat} {holder : Option Nat}
    {passes : List (Script (Except Failure PassSummary))} {pass : Nat}
    {script : Script (Except Failure PassSummary)}
    (this : Standing gateways order holder pass (callsBy pass calls) script)
    (others : ∀ other script, other ≠ pass → passes[other]? = some script →
      Standing gateways order holder other (callsBy other calls) script)
    (other : Nat) (script' : Script (Except Failure PassSummary))
    (at_ : (passes.set pass script)[other]? = some script') :
    Standing gateways order holder other (callsBy other calls) script' := by
  by_cases same : other = pass
  · subst same
    rw [List.getElem?_set_self'] at at_
    obtain ⟨_, _, rfl⟩ := Option.map_eq_some_iff.1 at_
    exact this
  · rw [List.getElem?_set_ne (Ne.symm same)] at at_
    exact others other script' same at_

theorem LockInvariant.init (server : ApiServer) : LockInvariant gateways [] (.init server) where
  standing _ _ at_ := nomatch at_
  nodup := .nil
  started _ mem := nomatch mem
  holder_last _ holds := nomatch holds
  grouped := rfl

/-- An event other than taking the lock and making a call. -/
theorem LockInvariant.silent (invariant : LockInvariant gateways events system)
    (no_entries : event.entries = []) (no_calls : ∀ version, event.calls version = [])
    (length_le : system.passes.length ≤ after.passes.length)
    (holder_le : ∀ pass, after.holder = some pass → system.holder = some pass)
    (standing : ∀ pass script, after.passes[pass]? = some script →
      Standing gateways (entered events) after.holder pass (callsBy pass (made events)) script) :
    LockInvariant gateways (events ++ [event]) after := by
  have entered_eq : entered (events ++ [event]) = entered events := by
    rw [entered_concat, no_entries, List.append_nil]
  have made_eq : made (events ++ [event]) = made events := by
    rw [made_concat, no_calls, List.append_nil]
  constructor
  all_goals rw [entered_eq]
  · rw [made_eq]
    exact standing
  · exact invariant.nodup
  · exact fun pass mem => (invariant.started pass mem).trans_le length_le
  · exact fun pass holds => invariant.holder_last pass (holder_le pass holds)
  · rw [made_eq]
    exact invariant.grouped

theorem LockInvariant.acquire (invariant : LockInvariant gateways events system) {pass : Nat}
    {script after : Script (Except Failure PassSummary)}
    (at_ : system.passes[pass]? = some script) (step : script.Step .acquire after)
    (free : system.holder = none) :
    LockInvariant gateways (events ++ [.deed pass .acquire])
      { system with holder := some pass, passes := system.passes.set pass after } := by
  obtain ⟨absent, rfl⟩ := (invariant.standing pass script at_).of_acquire step
  have entered_eq : entered (events ++ [.deed pass .acquire]) = entered events ++ [pass] :=
    entered_concat
  have made_eq : made (events ++ [.deed pass .acquire]) = made events :=
    made_concat.trans (List.append_nil _)
  constructor
  all_goals rw [entered_eq]
  · rw [made_eq]
    refine standing_set ?_ fun other script' ne at_' => ?_
    · refine .inside rfl ?_
      rw [callsBy, invariant.grouped.filter_eq_nil absent]
      exact .refl _
    · refine (invariant.standing other script' at_').congr ?_ ?_
      · rw [List.mem_append, List.mem_singleton, or_iff_left ne]
      · rw [free]
        exact iff_of_false (fun same => ne (Option.some.inj same).symm) nofun
  · exact List.nodup_append.2 ⟨invariant.nodup, List.nodup_singleton pass,
      fun other mem other' mem' same => absent (List.mem_singleton.1 mem' ▸ same ▸ mem)⟩
  · refine List.forall_mem_append.2 ⟨fun other mem => ?_, List.forall_mem_singleton.2 ?_⟩
    · rw [List.length_set]
      exact invariant.started other mem
    · rw [List.length_set]
      exact (List.getElem?_eq_some_iff.1 at_).1
  · exact fun _ holds => List.getLast?_concat.trans holds
  · rw [made_eq]
    exact invariant.grouped.enter absent

theorem LockInvariant.exchange (invariant : LockInvariant gateways events system) {pass : Nat}
    {script after : Script (Except Failure PassSummary)} {exchange : Exchange} {server : ApiServer}
    (at_ : system.passes[pass]? = some script) (step : script.Step (.exchange exchange) after) :
    LockInvariant gateways (events ++ [.deed pass (.exchange exchange)])
      { system with server, passes := system.passes.set pass after } := by
  obtain ⟨holds, standing⟩ := (invariant.standing pass script at_).of_step step nofun nofun
  obtain ⟨front, last⟩ := List.getLast?_eq_some_iff.1 (invariant.holder_last pass holds)
  let call : MadeCall := ⟨pass, editCount events, exchange⟩
  have entered_eq : entered (events ++ [.deed pass (.exchange exchange)]) = entered events :=
    entered_concat.trans (List.append_nil _)
  have made_eq : made (events ++ [.deed pass (.exchange exchange)]) = made events ++ [call] :=
    made_concat
  constructor
  all_goals rw [entered_eq]
  · rw [made_eq]
    refine standing_set ?_ fun other script' ne at_' => ?_
    · rw [callsBy_concat, if_pos rfl]
      exact standing
    · rw [callsBy_concat, if_neg (Ne.symm ne), List.append_nil]
      exact invariant.standing other script' at_'
  · exact invariant.nodup
  · rw [List.length_set]
    exact invariant.started
  · exact invariant.holder_last
  · have nodup := invariant.nodup
    have grouped := invariant.grouped
    rw [last] at nodup grouped ⊢
    rw [made_eq]
    have further : Grouped (front ++ [call.pass]) (made events ++ [call]) := grouped.call nodup
    exact further

theorem LockInvariant.step (invariant : LockInvariant gateways events system)
    (step : system.Step gateways event after) :
    LockInvariant gateways (events ++ [event]) after := by
  cases step with
  | start =>
    -- the passes that were there stand where they stood, and the new one waits
    refine invariant.silent rfl (fun _ => rfl) ?_ (fun _ => id) fun pass script at_ => ?_
    · exact (List.length_append ..).symm ▸ Nat.le_add_right _ _
    · rw [List.getElem?_append] at at_
      split at at_
      · exact invariant.standing pass script at_
      · next new =>
        cases List.mem_singleton.1 (List.mem_of_getElem? at_)
        exact .waiting fun mem => new (invariant.started pass mem)
  | acquire at_ inner free => exact invariant.acquire at_ inner free
  | @release pass script after at_ inner =>
    obtain ⟨holds, result, ends, rfl⟩ := (invariant.standing pass script at_).of_release inner
    have present := List.mem_of_getLast? (invariant.holder_last pass holds)
    refine invariant.silent rfl (fun _ => rfl) List.length_set.ge nofun ?_
    refine standing_set (.ended present nofun ends) fun other script' ne at_' => ?_
    refine (invariant.standing other script' at_').congr Iff.rfl ?_
    rw [holds]
    exact iff_of_false nofun fun same => ne (Option.some.inj same).symm
  | exchange at_ inner answers => exact invariant.exchange at_ inner
  | @turn pass script after at_ inner =>
    obtain ⟨holds, standing⟩ := (invariant.standing pass script at_).of_step inner nofun nofun
    rw [Deed.exchanges_turn, List.append_nil] at standing
    refine invariant.silent rfl (fun _ => rfl) List.length_set.ge (fun _ => id) ?_
    exact standing_set standing fun other script' _ at_' => invariant.standing other script' at_'
  | edit routes =>
    exact invariant.silent rfl (fun _ => rfl) le_rfl (fun _ => id) invariant.standing

theorem lockInvariant_of_runs {server : ApiServer}
    (runs : PassSystem.Runs gateways (.init server) events system) :
    LockInvariant gateways events system := by
  induction runs with
  | refl => exact .init server
  | tail _ step ih => exact ih.step step

end Invariant

/-! ## Giving the lock back -/

section Release

variable {system : PassSystem} {pass : Nat}

/-- Whether an event is a step of a pass. -/
def PassEvent.IsBy (event : PassEvent) (pass : Nat) : Prop := ∃ deed, event = .deed pass deed

/-- The system in which a pass has something else left to do. -/
def PassSystem.goOn (system : PassSystem) (pass : Nat)
    (script : Script (Except Failure PassSummary)) : PassSystem :=
  { system with passes := system.passes.set pass script }

theorem PassSystem.goOn_goOn (script after : Script (Except Failure PassSummary)) :
    (system.goOn pass script).goOn pass after = system.goOn pass after := by
  rw [goOn, goOn, goOn, List.set_set]

/-- Who holds the lock may go on, even when nobody answers. -/
theorem PassSystem.exists_runs_of_run {rest after : Script (Except Failure PassSummary)}
    {exchanges : List Exchange} (lockFree : rest.LockFree) (run : rest.Run exchanges after)
    (unheard : ∀ exchange ∈ exchanges, exchange.answer = none)
    (at_ : system.passes[pass]? = some (rest.bind .leave)) :
    ∃ events, Runs gateways system events (system.goOn pass (after.bind .leave)) ∧
      ∀ event ∈ events, event.IsBy pass := by
  obtain ⟨lt, here⟩ := List.getElem?_eq_some_iff.1 at_
  induction run with
  | refl =>
    refine ⟨[], ?_, nofun⟩
    rw [goOn, ← here, List.set_getElem_self lt]
    exact .refl system
  | @tail between after _ deed inner step ih =>
    obtain ⟨events, runs, by_⟩ :=
      ih fun exchange mem => unheard exchange (List.mem_append_left _ mem)
    have free := lockFree.run inner
    have here : (system.goOn pass (between.bind .leave)).passes[pass]? =
        some (between.bind .leave) := List.getElem?_set_self lt
    have outer := step.bind Script.leave
    have next : Step gateways (system.goOn pass (between.bind .leave)) (.deed pass deed)
        ((system.goOn pass (between.bind .leave)).goOn pass (after.bind .leave)) := by
      cases deed with
      | acquire => exact absurd rfl (free.step step).2.1
      | release => exact absurd rfl (free.step step).2.2
      | exchange made =>
        have none : made.answer = none :=
          unheard made (List.mem_append_right _ (List.mem_singleton_self _))
        exact .exchange here outer (none ▸ .unsent)
      | turn => exact .turn here outer
    rw [goOn_goOn] at next
    exact ⟨_, runs.tail next, List.forall_mem_append.2
      ⟨by_, List.forall_mem_singleton.2 ⟨deed, rfl⟩⟩⟩

theorem answer_eq_none_of_served {exchanges : List Exchange} {before after : Unit}
    (served : Served (fun _ _ => (none, ())) before exchanges after) :
    ∀ exchange ∈ exchanges, exchange.answer = none := by
  induction exchanges generalizing before with
  | nil => exact nofun
  | cons exchange exchanges ih => exact List.forall_mem_cons.2 ⟨served.1, ih served.2⟩

/-- Who holds the lock can go on to give it back. -/
theorem LockInvariant.exists_release {events : List PassEvent}
    (invariant : LockInvariant gateways events system) (holds : system.holder = some pass) :
    ∃ later after, system.Runs gateways later after ∧ (∀ event ∈ later, event.IsBy pass) ∧
      after.holder = none ∧ ∃ result, after.passes[pass]? = some (.done result) := by
  have present := List.mem_of_getLast? (invariant.holder_last pass holds)
  have lt := invariant.started pass present
  have at_ := List.getElem?_eq_getElem lt
  generalize system.passes[pass] = script at at_
  cases invariant.standing pass script at_ with
  | waiting absent => exact absurd present absent
  | ended _ gone => exact absurd holds gone
  | @inside rest _ run =>
    have lockFree := (Script.lockFree_runPass gateways).run run
    -- if no call is answered any more, the pass comes to its end all the same
    obtain ⟨exchanges, result, _, ends, served⟩ :=
      exists_run_done (fun (_ : Unit) _ => (none, ())) rest ()
    have unheard := answer_eq_none_of_served served
    obtain ⟨later, runs, by_⟩ :=
      @PassSystem.exists_runs_of_run gateways _ _ _ _ _ lockFree ends unheard at_
    have last := runs.tail (.release (List.getElem?_set_self lt) .release)
    refine ⟨_, _, last, ?_, rfl, result, ?_⟩
    · exact List.forall_mem_append.2 ⟨by_, List.forall_mem_singleton.2 ⟨_, rfl⟩⟩
    · exact List.getElem?_set_self (lt.trans_eq List.length_set.symm)

end Release

end MeshRoutes
