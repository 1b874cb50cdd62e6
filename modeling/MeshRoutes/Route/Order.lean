import MeshRoutes.Route.Basic

/-!
# Orders of routes

Routes are listed in no particular order. Compilation puts them into one by namespace and name,
and the rules of a domain name into one by URL.

## Main definitions

* `Route.canonicalLe`: by namespace, then by name.
* `Route.urlLe`: by URL from high to low, then by name. Of two paths that match a request the
  longer stands first, as the shorter is at the front of it.
-/

namespace MeshRoutes

/-- Whether a name stands at or before another; an absent name stands before all others. -/
def optionalNameLe : Option String → Option String → Bool
  | none, _ => true
  | some _, none => false
  | some a, some b => decide (a ≤ b)

namespace Route

/-- Whether a route stands at or before another by namespace, then by name. -/
def canonicalLe (a b : Route) : Bool :=
  if a.namespaceName = b.namespaceName then optionalNameLe a.metadata.name b.metadata.name
  else decide (a.namespaceName < b.namespaceName)

/-- Whether a route stands at or before another by URL, from high to low, then by name. -/
def urlLe (a b : Route) : Bool :=
  if a.url = b.url then optionalNameLe a.metadata.name b.metadata.name
  else decide (b.url < a.url)

end Route

end MeshRoutes
