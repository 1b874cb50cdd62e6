import MeshRoutes.Text.Split

/-!
# Options of a command line

The words behind a command are options, their values and the name of a subcommand. An option is
given by its long name; its value is the next word or stands behind an equals sign. Options that
are not among the words may be set by environment variables.

## Main definitions

* `OptionSpec`, `CommandSpec`: what a command takes.
* `scan`: the options of a command, up to the name of a subcommand.
* `Setting`: the values of an option, with where they come from.
-/

namespace MeshRoutes.CommandLine

/-- Why a command line is not carried out as it stands: a word that is neither an option nor the
value of one, an option whose value is missing, not taken or not allowed, an option that is given
again or not given at all, or a call for help or for the version. -/
inductive UsageError where
  | unknownArgument
  | missingValue
  | invalidValue
  | argumentConflict
  | unexpectedValue
  | missingArgument
  | helpRequested
  | versionRequested
deriving DecidableEq, Repr

/-- How often an option is given, and with how many values: once without a value, once with one, or
any number of times, each with values between commas. -/
inductive Arity where
  | flag
  | single
  | list
deriving DecidableEq, Repr

/-- An option of a command, with the environment variable that sets it when no word does, and the
values that it takes. -/
structure OptionSpec where
  name : String
  arity : Arity
  envVariable : Option String := none
  accepts : String → Bool := fun _ => true

/-- What a command takes: its options besides the one for help, and its subcommands. -/
structure CommandSpec where
  options : List OptionSpec
  subcommands : List String := []
  hasVersion : Bool := false

/-- The options found so far with their values, by name. -/
abbrev Found := List (String × List String)

namespace OptionSpec

/-- Notes an occurrence of the option with the values it was given. -/
def note (spec : OptionSpec) (values : List String) (found : Found) : Except UsageError Found :=
  match spec.arity with
  | .flag =>
    if (found.lookup spec.name).isSome then .error .argumentConflict
    else .ok ((spec.name, []) :: found)
  | .single =>
    if values.isEmpty then .error .missingValue
    else if (found.lookup spec.name).isSome then .error .argumentConflict
    else if !values.all spec.accepts then .error .invalidValue
    else .ok ((spec.name, values) :: found)
  | .list =>
    let pieces := values.flatMap Text.splitAtCommas
    if values.isEmpty then .error .missingValue
    else if !pieces.all spec.accepts then .error .invalidValue
    else
      let earlier := (found.lookup spec.name).getD []
      .ok ((spec.name, earlier ++ pieces) :: found.filter (·.1 != spec.name))

end OptionSpec

/-! ## Words -/

/-- What a word looks like. No word behind the escape is an option. The value of a long name stands
behind an equals sign. A single dash is no option. -/
inductive Word where
  | escape
  | long (name : String) (value : Option String)
  | short (name : Char)
  | other
deriving DecidableEq, Repr

namespace Word

/-- What a word looks like. -/
def of (word : String) : Word :=
  match word.toList with
  | ['-', '-'] => escape
  | '-' :: '-' :: cs =>
    let name := cs.takeWhile (· != '=')
    match cs.drop name.length with
    | [] => long (String.ofList name) none
    | _ :: value => long (String.ofList name) (some (String.ofList value))
  | '-' :: c :: _ => short c
  | _ => other

end Word

/-- An option that was named and whose value is complete only with the next word. -/
abbrev Pending := Option (OptionSpec × List String)

/-- Notes the option that was named last. -/
def settle (pending : Pending) (found : Found) : Except UsageError Found :=
  match pending with
  | none => .ok found
  | some (spec, values) => spec.note values found

/-- Whether the option that was named last still lacks its value. -/
def awaitsValue : Pending → Bool
  | some (_, []) => true
  | _ => false

/-- The option named by a word with its value, if the word has one. -/
def startOption (spec : OptionSpec) (value : Option String) (pending : Pending) (found : Found) :
    Except UsageError (Pending × Found) := do
  match spec.arity, value with
  | .flag, some _ => .error .unexpectedValue
  | .flag, none => return (none, ← spec.note [] (← settle pending found))
  | _, some value => return (none, ← spec.note [value] (← settle pending found))
  | _, none => return (some (spec, []), ← settle pending found)

/-- A request that ends the reading of the words, unless an option lacks its value. -/
def endWith (request : UsageError) (pending : Pending) (found : Found) :
    Except UsageError (Pending × Found) := do
  let _ ← settle pending found
  .error request

/-- Reads one word that is neither two dashes nor the name of a subcommand. -/
def readWord (command : CommandSpec) (word : String) (pending : Pending) (found : Found) :
    Except UsageError (Pending × Found) :=
  match Word.of word with
  | .long name value =>
    match command.options.find? (·.name == name) with
    | some spec => startOption spec value pending found
    | none =>
      if name == "help" || (name == "version" && command.hasVersion) then
        if value.isSome then .error .unexpectedValue
        else endWith (if name == "help" then .helpRequested else .versionRequested) pending found
      else .error .unknownArgument
  | .short name =>
    if name == 'h' then endWith .helpRequested pending found
    else if name == 'V' && command.hasVersion then endWith .versionRequested pending found
    else .error .unknownArgument
  | _ =>
    match pending with
    | some (spec, []) => .ok (some (spec, [word]), found)
    | _ => .error .unknownArgument

/-- What the words of a command hold: the option that was named last, those before it, and the
subcommand with the words behind it. -/
structure Scan where
  pending : Pending := none
  found : Found := []
  subcommand : Option (String × List String) := none

/-- The options of a command. That the last one is complete is checked only here, so that a fault
behind the name of the subcommand comes first. -/
def Scan.options (scan : Scan) : Except UsageError Found := settle scan.pending scan.found

/-- Reads the words of a command up to the name of a subcommand. Behind two dashes no word may
follow. -/
def scan (command : CommandSpec) (pending : Pending) (found : Found) :
    List String → Except UsageError Scan
  | [] => .ok { pending, found }
  | word :: words =>
    if !awaitsValue pending && command.subcommands.contains word then
      .ok { pending, found, subcommand := some (word, words) }
    else if Word.of word == .escape then
      if words.isEmpty then .ok { pending, found } else .error .unknownArgument
    else do
      let (pending, found) ← readWord command word pending found
      scan command pending found words

/-- The options of a command without subcommands. -/
def options (command : CommandSpec) (words : List String) : Except UsageError Found := do
  (← scan command none [] words).options

/-! ## Values -/

/-- Where the values of an option come from, by default from the program itself; a later source
counts more. -/
inductive Source where
  | fallback
  | environment
  | words
deriving DecidableEq, Repr

namespace Source

/-- The place of a source in the order. -/
def rank : Source → Nat
  | fallback => 0
  | environment => 1
  | words => 2

end Source

/-- The values of an option, in order, and where they come from. -/
structure Setting where
  source : Source
  values : List String
deriving DecidableEq, Repr

/-- The values of an option that was found among the words, else those of its environment variable,
else the given ones. -/
def OptionSpec.setting (spec : OptionSpec) (environment : String → Option String)
    (fallback : Option (List String)) (found : Found) : Except UsageError (Option Setting) :=
  match found.lookup spec.name with
  | some values => .ok (some { source := .words, values })
  | none =>
    match spec.envVariable.bind environment with
    | some text => do
      let noted ← spec.note [text] []
      return some { source := .environment, values := (noted.lookup spec.name).getD [] }
    | none => .ok (fallback.map fun values => { source := .fallback, values })

/-- The setting of an option that a command and its subcommand both take. The one of the
subcommand counts, unless the one of the command comes from a higher source. -/
def Setting.inherit (outer inner : Option Setting) : Option Setting :=
  match outer, inner with
  | some outer, some inner =>
    some (if inner.source.rank < outer.source.rank then outer else inner)
  | some outer, none => some outer
  | none, inner => inner

end MeshRoutes.CommandLine
