import MeshRoutes.Yaml.Document
import MeshRoutes.Yaml.Token.Stream
import MeshRoutes.Yaml.Value

/-!
# Reading YAML streams

`Yaml.parse?` reads the value of every document of a stream. A fault anywhere, also in a document
nobody asks for, leaves nothing.
-/

namespace MeshRoutes.Yaml

/-- The values of the documents of a stream. -/
def parse? (stream : String) : Option (List Value) := do
  (← documents? (← tokens? stream.toList)).mapM Value.ofNode?

end MeshRoutes.Yaml
