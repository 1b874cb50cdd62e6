import MeshRoutes.Text.Numeral

/-!
# Failures

Why a whole pass, or the reading of a whole stream, came to nothing. A `Reason`, in contrast, is
local to one domain name or destination.

## Main definitions

* `Failure`: the causes, with `Failure.message`.
* `Failure.isRetryable`: whether doing the same again may succeed.
* `FollowUp`: what comes after a pass, with `Failure.followUp`.
-/

namespace MeshRoutes

/-- Why an operation as a whole failed. The API server answered with an error status, or could not
be asked or understood; a resource is invalid; or a document does not describe an object of the
kind, and what is wrong with it may be unsaid. -/
inductive Failure where
  | cluster (status : Option UInt16)
  | validation (resource message : String)
  | serialization (kind : String) (detail : Option String)
deriving DecidableEq, Repr

namespace Failure

/-- Whether doing the same again may succeed: not when the input is at fault, and not when the
server refused the request. -/
def isRetryable : Failure → Bool
  | cluster (some status) => !(400 ≤ status && status < 500)
  | cluster none => true
  | validation _ _ => false
  | serialization _ _ => false

/-- The text of a failure. -/
def message : Failure → String
  | cluster _ => "kubernetes error"
  | validation resource message => "validation error for " ++ resource ++ ": " ++ message
  | serialization _ none => "serialization error"
  | serialization _ (some detail) => "serialization error: " ++ detail

end Failure

/-- What comes after a pass that was made for a route: nothing until the route changes, or another
pass after some seconds. -/
inductive FollowUp where
  | awaitChange
  | retryAfter (seconds : Nat)
deriving DecidableEq, Repr

/-- The seconds after which a pass is made again. -/
def retrySeconds : Nat := 30

/-- What comes after a pass that failed. -/
def Failure.followUp (failure : Failure) : FollowUp :=
  if failure.isRetryable then .retryAfter retrySeconds else .awaitChange

end MeshRoutes
