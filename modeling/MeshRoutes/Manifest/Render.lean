import MeshRoutes.Compile.Basic
import MeshRoutes.Yaml.Printer

/-!
# Resources as a stream of manifests

The virtual services first, then the services, one document each.
-/

namespace MeshRoutes.Manifest

/-- The documents of compiled resources. -/
def documents (compiled : Compiled) : List Json :=
  compiled.virtualServices.map VirtualService.toJson ++ compiled.services.map Service.toJson

/-- The stream of compiled resources. -/
def render (compiled : Compiled) : String := Yaml.renderAll (documents compiled)

end MeshRoutes.Manifest
