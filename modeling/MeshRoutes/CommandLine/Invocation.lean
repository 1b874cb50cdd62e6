import MeshRoutes.CommandLine.Options
import MeshRoutes.Log.Format
import MeshRoutes.Settings
import MeshRoutes.Text.Numeral

/-!
# Invocations

What the program is asked to do. The options for gateways and the resync interval are taken on
either side of the subcommand.

## Main definitions

* `Invocation`: a command with its settings; `Invocation.parse`: reading it.
* `RawSettings.parse`: reading the settings alone.
-/

namespace MeshRoutes

open CommandLine

/-- A command of the program: keep the cluster in step with its routes, or compile the routes of a
file. -/
inductive Task where
  | control
  | compile (file : String)
deriving DecidableEq, Repr

/-- What the program is asked to do, with the settings as they are given. Where the definition of
routes is to be printed, nothing else is done. -/
structure Invocation where
  printsDefinition : Bool
  logFormat : LogFormat
  settings : RawSettings
  task : Task
deriving DecidableEq, Repr

/-- The whole number below `2^64` that a text denotes, behind an optional plus sign. -/
def Text.word64? (text : String) : Option Nat :=
  let digits := match text.toList with
    | '+' :: cs => cs
    | cs => cs
  (Text.digitsValue? 10 digits).filter (· < Nat.pow 2 64)

/-! ## Options -/

/-- The option for the gateways. -/
def gatewaysOption : OptionSpec where
  name := "istio-gateways"
  arity := .list
  envVariable := some "ISTIO_GATEWAYS"

/-- The option for the seconds between two passes. -/
def resyncOption : OptionSpec where
  name := "resync-interval-secs"
  arity := .single
  envVariable := some "RESYNC_INTERVAL_SECS"
  accepts := fun text => (Text.word64? text).isSome

/-- The option that asks for the definition of routes. -/
def definitionOption : OptionSpec where
  name := "crd"
  arity := .flag

/-- The option for the log format. -/
def logFormatOption : OptionSpec where
  name := "log-format"
  arity := .single
  envVariable := some "LOG_FORMAT"
  accepts := fun text => (LogFormat.parse text).toOption.isSome

/-- The option for the file to compile. -/
def fileOption : OptionSpec where
  name := "file"
  arity := .single
  accepts := fun text => !text.isEmpty

/-- The options that are taken on either side of the subcommand. -/
def sharedOptions : List OptionSpec := [gatewaysOption, resyncOption]

/-- A command that takes the settings and nothing else. -/
def settingsCommand : CommandSpec where
  options := sharedOptions

/-- The program itself. -/
def programCommand : CommandSpec where
  options := [definitionOption, logFormatOption] ++ sharedOptions
  subcommands := ["controller", "compile", "help"]
  hasVersion := true

/-- The subcommand that compiles a file. -/
def compileCommand : CommandSpec where
  options := fileOption :: sharedOptions

/-! ## Reading -/

/-- The settings of the options that are taken on either side of the subcommand. Gateways need not
be set. -/
structure SharedSettings where
  gateways : Option Setting
  resync : Option Setting
deriving DecidableEq, Repr

namespace SharedSettings

/-- The settings of one command. -/
def ofFound (environment : String → Option String) (found : Found) :
    Except UsageError SharedSettings := do
  return {
    gateways := ← gatewaysOption.setting environment none found
    resync := ← resyncOption.setting environment (some ["60"]) found }

/-- The settings of a command and its subcommand together. -/
def inherit (outer inner : SharedSettings) : SharedSettings where
  gateways := Setting.inherit outer.gateways inner.gateways
  resync := Setting.inherit outer.resync inner.resync

/-- The settings as they were given. -/
def toRaw (shared : SharedSettings) : RawSettings where
  gateways := (shared.gateways.map (·.values)).getD []
  resyncSeconds := ((shared.resync.bind (·.values.head?)).bind Text.word64?).getD 60

end SharedSettings

/-- Reads settings from the words of a command that takes nothing else. -/
def RawSettings.parse (environment : String → Option String) (words : List String) :
    Except UsageError RawSettings := do
  return (← SharedSettings.ofFound environment (← options settingsCommand words)).toRaw

namespace Invocation

/-- What happens when help is asked for about the subcommand that the words name. -/
def helpAbout (words : List String) : UsageError :=
  match words with
  | [] => .helpRequested
  | [name] => if programCommand.subcommands.contains name then .helpRequested else .unknownArgument
  | _ => .unknownArgument

/-- Reads a subcommand: the task and its settings. -/
def parseTask (environment : String → Option String) (name : String) (words : List String) :
    Except UsageError (Task × SharedSettings) := do
  if name == "help" then .error (helpAbout words)
  else if name == "compile" then
    let found ← options compileCommand words
    let shared ← SharedSettings.ofFound environment found
    match (found.lookup fileOption.name).bind List.head? with
    | some file => return (.compile file, shared)
    | none => .error .missingArgument
  else
    return (.control, ← SharedSettings.ofFound environment (← options settingsCommand words))

/-- Reads an invocation from the words behind the name of the program. -/
def parse (environment : String → Option String) (words : List String) :
    Except UsageError Invocation := do
  let scanned ← scan programCommand none [] words
  let inner ← scanned.subcommand.mapM fun (name, words) => parseTask environment name words
  let found ← scanned.options
  let outer ← SharedSettings.ofFound environment found
  let logFormat ← logFormatOption.setting environment (some ["json"]) found
  return {
    printsDefinition := (found.lookup definitionOption.name).isSome
    logFormat := ((logFormat.bind (·.values.head?)).bind fun name =>
      (LogFormat.parse name).toOption).getD .json
    settings := (inner.elim outer fun (_, inner) => outer.inherit inner).toRaw
    task := inner.elim .control (·.1) }

end Invocation

end MeshRoutes
