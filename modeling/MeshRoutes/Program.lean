import MeshRoutes.CommandLine.Invocation
import MeshRoutes.Log.Filter
import MeshRoutes.Manifest.Load
import MeshRoutes.Manifest.Render
import MeshRoutes.Route.Definition

/-!
# The program

What the program answers to an invocation. An error in the words of the command comes before
everything else; the definition of routes is printed before the settings are looked at.

## Main definitions

* `Outcome`: what the program writes and how it ends.
* `Program.plan`: what to do, as far as that depends on the words and the environment.
* `Program.compileStream`: the answer for a file to compile.
-/

namespace MeshRoutes

/-- What the program writes and how it ends: with zero if all went well, one after a failure, and
two if the words were wrong. What was skipped is there if it is logged. -/
structure Outcome where
  exitCode : UInt32 := 0
  output : String := ""
  message : Option String := none
  skippedFqdns : List SkippedFqdn := []
  skippedDestinations : List SkippedDestination := []
deriving DecidableEq, Repr

namespace Outcome

/-- The end of a program that failed. -/
def failed (message : String) : Outcome where
  exitCode := 1
  message := some message

/-- The warning about a skipped domain name. -/
def fqdnWarning (skipped : SkippedFqdn) : Json :=
  .obj [("message", .str "fqdn not compiled"), ("fqdn", .str skipped.fqdn),
    ("error", .str skipped.reason.message)]

/-- The warning about a skipped destination. -/
def destinationWarning (skipped : SkippedDestination) : Json :=
  .obj [("message", .str "destination not compiled"), ("destination", .str skipped.destination),
    ("error", .str skipped.reason.message)]

/-- The warnings that are logged, those about domain names first. -/
def warnings (outcome : Outcome) : List Json :=
  outcome.skippedFqdns.map fqdnWarning ++ outcome.skippedDestinations.map destinationWarning

end Outcome

namespace Program

/-- What to do: nothing but an outcome, compile a file, or keep the cluster in step with its routes.
-/
inductive Plan where
  | finish (outcome : Outcome)
  | compileFile (file : String) (logsWarnings : Bool) (settings : Settings)
  | control (settings : Settings)
deriving DecidableEq, Repr

/-- The name of the program, under which it logs. -/
def name : String := "routecontroller"

/-- The version of the program. -/
def version : String := "0.1.0"

/-- The environment variable for the filter of log lines. -/
def filterVariable : String := "RUST_LOG"

/-- What to do for the words behind the name of the program. -/
def plan (environment : String → Option String) (words : List String) : Plan :=
  match Invocation.parse environment words with
  | .error .versionRequested => .finish { output := name ++ " " ++ version ++ "\n" }
  | .error .helpRequested => .finish {}
  | .error _ => .finish { exitCode := 2 }
  | .ok invocation =>
    if invocation.printsDefinition then
      .finish { output := Yaml.render routeDefinition ++ "\n" }
    else
      match invocation.settings.check with
      | .error error => .finish (Outcome.failed error.message)
      | .ok settings =>
        match invocation.task with
        | .control => .control settings
        | .compile file =>
          let filter := LogFilter.resolve none (environment filterVariable)
          .compileFile file (invocation.logFormat == .json && filter.enables name .warn) settings

/-- The answer for the text of a file to compile. -/
def compileStream (logsWarnings : Bool) (settings : Settings) (stream : String) : Outcome :=
  match Manifest.load stream with
  | .error failure => Outcome.failed failure.message
  | .ok routes =>
    let compiled := compile settings.gateways routes
    { output := Manifest.render compiled
      skippedFqdns := if logsWarnings then compiled.skippedFqdns else []
      skippedDestinations := if logsWarnings then compiled.skippedDestinations else [] }

/-- The answer when the file to compile cannot be read. -/
def unreadableFile (file cause : String) : Outcome :=
  Outcome.failed ("Failed to read " ++ file ++ ": " ++ cause)

/-- The answer when no cluster can be reached. -/
def unreachableCluster : Outcome := Outcome.failed "Failed to create Kubernetes client"

end Program

end MeshRoutes
