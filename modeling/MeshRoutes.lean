import MeshRoutes.Cluster.Rehearsal
import MeshRoutes.Json.Parser
import MeshRoutes.Main
import MeshRoutes.Pass.Schedule
import MeshRoutes.Proofs.Compile.LongestPrefix
import MeshRoutes.Proofs.Pass.Execution
import MeshRoutes.Proofs.Pass.SurvivingRules
import MeshRoutes.Proofs.Compile.Partition
import MeshRoutes.Proofs.Compile.Contents
import MeshRoutes.Proofs.Sorting
import MeshRoutes.Proofs.Compile.OrderIndependence
import MeshRoutes.Proofs.Compile.Isolation
import MeshRoutes.Proofs.Pass.InvalidUpdate
import MeshRoutes.Proofs.Compile.References
import MeshRoutes.Proofs.Compile.Exposure
import MeshRoutes.Proofs.Cluster.Exchange
import MeshRoutes.Proofs.Pass.ErrorPath
import MeshRoutes.Proofs.Pass.Lock
import MeshRoutes.Proofs.Pass.Serialization
import MeshRoutes.Proofs.Object.Timestamp
import MeshRoutes.Proofs.Manifest.Agreement
import MeshRoutes.Proofs.RoundTrip
import MeshRoutes.Proofs.Route.Admission
import MeshRoutes.Proofs.Yaml.Lines
import MeshRoutes.Proofs.Yaml.Literal
import MeshRoutes.Proofs.Yaml.Scanning
import MeshRoutes.Proofs.Yaml.Steps
import MeshRoutes.Proofs.Yaml.Texts
import MeshRoutes.Proofs.Manifest.ReadBack
import MeshRoutes.Proofs.Route.EvenSplit
import MeshRoutes.Proofs.Compile.Naming
import MeshRoutes.Proofs.Manifest.Flattening
import MeshRoutes.Proofs.Route.Locality
import MeshRoutes.Proofs.CommandLine.Gateways
import MeshRoutes.Proofs.Mesh.DigestName
