import MeshRoutes.Object.Basic
import MeshRoutes.Route.Manifest

/-!
# Listed routes

The server may hold objects that were stored before it knew the schema of routes. Those that are
no routes are passed over, so that one of them does not hide the others.
-/

namespace MeshRoutes

/-- The route that an object is, if it is one. -/
def ApiObject.route? (object : ApiObject) : Option Route := Route.ofDocument? object.toJson

/-- The routes among listed objects, in order. -/
def listedRoutes (objects : List ApiObject) : List Route := objects.filterMap ApiObject.route?

end MeshRoutes
