import MeshRoutes.Route.Basic
import MeshRoutes.Compile.Reason

/-!
# Weights of destinations

The weights of a route are percentages. Either no destination has one, and the traffic is split
evenly, or every destination has one, and they make up the whole.

## Main definitions

* `evenWeights`: the even split.
* `resolveWeights`: the weight of each destination, or why there is none.
-/

namespace MeshRoutes

/-- The whole traffic, in percent. -/
def weightTotal : UInt32 := 100

/-- The even split of the whole among a number of destinations: equal shares, to the first of
which what is left over is added. -/
def evenWeights (count : Nat) : List UInt32 :=
  match count with
  | 0 => []
  | others + 1 =>
    let n := UInt32.ofNat (min count 4294967295)
    let share := weightTotal / n
    (share + (weightTotal - share * n)) :: List.replicate others share

/-- The sum of two words, or the largest word when the sum does not fit. -/
def saturatingAdd (x y : UInt32) : UInt32 := if x + y < x then 4294967295 else x + y

/-- The weight of each destination of the named route, in their order. -/
def resolveWeights (route : String) (destinations : List Destination) :
    Except Reason (List UInt32) :=
  let given := destinations.filterMap (·.weight)
  if given.isEmpty then .ok (evenWeights destinations.length)
  else if given.length ≠ destinations.length then .error (.weightPresenceMismatch route)
  else
    let sum := given.foldl saturatingAdd 0
    if sum = weightTotal then .ok given else .error (.weightSumInvalid route sum)

end MeshRoutes
