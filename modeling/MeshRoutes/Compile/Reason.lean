import MeshRoutes.Text.Numeral

/-!
# Why a domain name or a destination is skipped

A `Reason` names the routes or the destination at fault. `Reason.message` is the text an operator
reads.
-/

namespace MeshRoutes

/-- Why something of a route is not compiled. Two routes of a domain name disagree on whether the
domain is internal, or live in different namespaces. The weights of a route are missing in part, or
do not make up the whole traffic, where a sum beyond 32 bits is cut. A destination has no port, or
one that no backend can listen on. -/
inductive Reason where
  | domainMismatch (fqdn route other : String)
  | namespaceMismatch (fqdn route routeNamespace other otherNamespace : String)
  | weightPresenceMismatch (route : String)
  | weightSumInvalid (route : String) (sum : UInt32)
  | missingPort (route destination : String)
  | invalidPort (route destination : String) (port : UInt16)
deriving DecidableEq, Repr

namespace Reason

/-- The route that is at fault, or the first of two that disagree. -/
def route : Reason → String
  | domainMismatch _ route _ => route
  | namespaceMismatch _ route _ _ _ => route
  | weightPresenceMismatch route => route
  | weightSumInvalid route _ => route
  | missingPort route _ => route
  | invalidPort route _ _ => route

/-- The domain name about which routes disagree. -/
def fqdn? : Reason → Option String
  | domainMismatch fqdn _ _ => some fqdn
  | namespaceMismatch fqdn _ _ _ _ => some fqdn
  | _ => none

/-- The text of a reason. -/
def message : Reason → String
  | domainMismatch _ route other =>
    "route " ++ route ++ " and route " ++ other ++
      " disagree on whether or not the domain is internal"
  | namespaceMismatch _ route routeNamespace other otherNamespace =>
    "route " ++ route ++ " in namespace " ++ routeNamespace ++ " and route " ++ other ++
      " in namespace " ++ otherNamespace ++ " share an fqdn"
  | weightPresenceMismatch route =>
    "invalid destinations for route " ++ route ++ ": weights must be set on all or none"
  | weightSumInvalid route sum =>
    "invalid destinations for route " ++ route ++ ": weights must sum up to 100, got " ++
      Text.natText sum.toNat
  | missingPort route destination =>
    "invalid destination " ++ destination ++ " for route " ++ route ++ ": port is required"
  | invalidPort route destination port =>
    "invalid destination " ++ destination ++ " for route " ++ route ++ ": port " ++
      Text.natText port.toNat ++ " is out of range 1-65535"

end Reason

end MeshRoutes
