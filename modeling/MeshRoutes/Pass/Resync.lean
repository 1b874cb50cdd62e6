import MeshRoutes.Failure
import MeshRoutes.Pass.Basic

/-!
# Passes in time

A pass is made for every change of a route, and besides at fixed intervals, because the removal of
a route is no change of one. A pass at an interval that fails is left at that; the next one makes
up for it.
-/

namespace MeshRoutes

variable {m : Type → Type} [Monad m]

/-- A pass for a change of a route: what comes after it. -/
def reconcile [MonadExceptOf Failure m] (client : ClusterClient m) (gateways : List String) :
    m FollowUp := do
  let _ ← runPass client gateways
  return .awaitChange

/-- A pass at an interval. -/
def resync [MonadExceptOf Failure m] (client : ClusterClient m) (gateways : List String) :
    m Unit := do
  try
    let _ ← runPass client gateways
  catch _ => return

/-- The number of intervals that come to an end within some time. -/
def resyncCount (intervalSeconds seconds : Nat) : Nat := seconds / intervalSeconds

/-- The passes at intervals within some time. -/
def resyncFor [MonadExceptOf Failure m] (client : ClusterClient m) (gateways : List String)
    (intervalSeconds seconds : Nat) : m Unit :=
  (List.range (resyncCount intervalSeconds seconds)).forM fun _ => resync client gateways

end MeshRoutes
