import MeshRoutes.Cluster.Remote
import MeshRoutes.Pass.Resync

/-!
# Schedules of passes

The program at work on a server. It watches the routes and makes a pass for each that is there at
the start or put later, again after a while if the pass failed and may succeed next time, and
passes at intervals besides. No two passes run at the same time. Time is counted in half seconds,
so that what others do happens between the whole seconds at which intervals end.

## Main definitions

* `Schedule`: the program and its server at a point in time.
* `Schedule.start`, `Schedule.put`, `Schedule.delete`: what others do.
* `Schedule.advance`, `Schedule.wait`, `Schedule.resyncFor`: what happens as time passes.

## Implementation notes

Passes that fall due at the same time are made in turn, the one of the interval first. A watch that
meets an object at the start that is no route makes no passes at all.
-/

namespace MeshRoutes

/-- The program and its server at a point in time, counted in half seconds, with the routes for
which a pass is due at some time and the number of passes made. Before the program is started, no
routes are watched. -/
structure Schedule where
  server : ApiServer := {}
  gateways : List String
  resyncSeconds : Nat
  now : Nat := 0
  startedAt : Option Nat := none
  watching : Bool := false
  due : List (ObjectKey × Nat) := []
  passes : Nat := 0
deriving Repr

namespace Schedule

/-- The schedule after one pass, with the result of the pass. -/
def pass (schedule : Schedule) : Except Failure PassSummary × Schedule :=
  let (result, server) := (runPass ApiServer.client schedule.gateways).run.run schedule.server
  (result, { schedule with server, passes := schedule.passes + 1 })

/-- The number of half seconds in some seconds. -/
def halves (seconds : Nat) : Nat := 2 * seconds

/-- Whether an interval that began at the given time ends now. -/
def intervalEnds (schedule : Schedule) (beginning : Nat) : Bool :=
  let elapsed := schedule.now - beginning
  0 < schedule.resyncSeconds && 0 < elapsed && elapsed % halves schedule.resyncSeconds == 0

/-- The schedule after a pass at the end of an interval, if one that began then ends now. -/
def resyncSince (schedule : Schedule) (beginning : Option Nat) : Schedule :=
  match beginning with
  | none => schedule
  | some beginning => if schedule.intervalEnds beginning then schedule.pass.2 else schedule

/-- The schedule with a pass due for a route, in place of one that was due. -/
def demand (schedule : Schedule) (key : ObjectKey) (time : Nat) : Schedule :=
  { schedule with due := schedule.due.filter (·.1 ≠ key) ++ [(key, time)] }

/-- The schedule after the pass for a route, which is made again later if that may help. -/
def passFor (schedule : Schedule) (key : ObjectKey) : Schedule :=
  let (result, schedule) := schedule.pass
  match result with
  | .ok _ => schedule
  | .error failure =>
    match failure.followUp with
    | .awaitChange => schedule
    | .retryAfter seconds => schedule.demand key (schedule.now + halves seconds)

/-- The schedule after everything that is due now. -/
def settle (schedule : Schedule) (foreground : Option Nat) : Schedule :=
  let schedule := (schedule.resyncSince schedule.startedAt).resyncSince foreground
  let (ready, later) := schedule.due.partition fun entry => entry.2 ≤ schedule.now
  ready.foldl (fun schedule entry => schedule.passFor entry.1) { schedule with due := later }

/-- The schedule after some half seconds. What falls due at their end is left for later. -/
def advance (schedule : Schedule) (foreground : Option Nat) : Nat → Schedule
  | 0 => schedule
  | steps + 1 =>
    let schedule := schedule.settle foreground
    advance { schedule with now := schedule.now + 1 } foreground steps

/-- The schedule after some seconds. -/
def wait (schedule : Schedule) (seconds : Nat) : Schedule :=
  schedule.advance none (halves seconds)

/-- The schedule after the program was started, half a second later. -/
def start (schedule : Schedule) : Schedule :=
  let watching := schedule.server.routes.all fun doc =>
    (Route.ofDocument? doc : Option Route).isSome
  let keys := if watching then schedule.server.routes.map (·.objectKey) else []
  let started := { schedule with
    startedAt := some schedule.now, watching, due := keys.map (·, schedule.now) }
  started.advance none 1

/-- The schedule after passes at intervals alone, made for some seconds and a half. -/
def resyncFor (schedule : Schedule) (seconds : Nat) : Schedule :=
  schedule.advance (some schedule.now) (halves seconds + 1)

/-- The schedule after someone put objects meant as routes. -/
def put (schedule : Schedule) (docs : List Json) : Schedule :=
  let schedule := { schedule with server := schedule.server.put docs }
  if schedule.watching then
    let seen := docs.filter fun doc => (Route.ofDocument? doc : Option Route).isSome
    seen.foldl (fun schedule doc => schedule.demand doc.objectKey schedule.now) schedule
  else schedule

/-- The schedule after someone removed a route, for which no pass is due any more. -/
def delete (schedule : Schedule) (key : ObjectKey) : Schedule :=
  { schedule with
    server := schedule.server.delete key
    due := schedule.due.filter (·.1 ≠ key) }

end Schedule

end MeshRoutes
