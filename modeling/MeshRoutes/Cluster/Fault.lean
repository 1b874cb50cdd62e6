/-!
# Faults

Failures that a cluster in memory is told to have. A fault waits for calls of one name and is used
up by the calls that it makes fail.
-/

namespace MeshRoutes

/-- A failure to come, with its effect: what the named calls get, so many times. It may be meant for
one resource only. -/
structure Fault (α : Type) where
  call : String
  resource : Option String
  left : Nat
  effect : α
deriving Repr

namespace Fault

variable {α : Type}

/-- Whether a call of the given name for the given resource fails. -/
def isFor (fault : Fault α) (call : String) (resource : Option String) : Bool :=
  0 < fault.left && fault.call == call && (fault.resource.isNone || fault.resource == resource)

/-- The effect of the first fault for a call, with the faults that are left. -/
def take (call : String) (resource : Option String) :
    List (Fault α) → Option α × List (Fault α)
  | [] => (none, [])
  | fault :: faults =>
    if fault.isFor call resource then
      (some fault.effect, { fault with left := fault.left - 1 } :: faults)
    else
      let (effect, faults) := take call resource faults
      (effect, fault :: faults)

end Fault

end MeshRoutes
