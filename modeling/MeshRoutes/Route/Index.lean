import MeshRoutes.Route.Basic

/-!
# Routes by domain name

Routes that serve one domain name are compiled together, however the name is split into host and
domain. The index lists the names ascending and keeps the routes of a name in the order given.
-/

namespace MeshRoutes

/-- Routes under the fully qualified domain names they serve. -/
abbrev RouteIndex := SortedMap String (List Route)

namespace RouteIndex

/-- The index of a list of routes. -/
def ofRoutes (routes : List Route) : RouteIndex := SortedMap.groupBy Route.fqdn routes

/-- The domain names that have routes, ascending. -/
def fqdns (index : RouteIndex) : List String := index.keys

/-- The routes of a domain name. -/
def routesFor (index : RouteIndex) (fqdn : String) : List Route := (index.get? fqdn).getD []

/-- The destinations of all routes of a domain name. -/
def destinationsFor (index : RouteIndex) (fqdn : String) : List Destination :=
  (index.routesFor fqdn).flatMap (·.destinations)

end RouteIndex

end MeshRoutes
