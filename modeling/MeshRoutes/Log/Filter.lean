import MeshRoutes.Text.Blank
import MeshRoutes.Text.Numeral
import MeshRoutes.Text.Split

/-!
# Log filters

A filter is a list of directives between commas. A directive gives the least severe level that is
logged for the targets that start with its own; the most specific directive counts.

## Main definitions

* `LogDirective.parse?`, `LogDirective.toText`: one directive.
* `LogFilter.ofLossy`, `LogFilter.parse?`, `LogFilter.resolve`: filters of texts.
* `LogFilter.enables`: whether something is logged.
-/

namespace MeshRoutes

/-- How severe a log line is, or how severe it has to be to be logged: from nothing at all to
everything. -/
inductive LogLevel where
  | off
  | error
  | warn
  | info
  | debug
  | trace
deriving DecidableEq, Repr

namespace LogLevel

/-- The levels, in order. -/
def all : List LogLevel := [off, error, warn, info, debug, trace]

/-- The name of a level. -/
def name : LogLevel → String
  | off => "off"
  | error => "error"
  | warn => "warn"
  | info => "info"
  | debug => "debug"
  | trace => "trace"

/-- The place of a level in the order. -/
def rank : LogLevel → Nat
  | off => 0
  | error => 1
  | warn => 2
  | info => 3
  | debug => 4
  | trace => 5

/-- The level of a name in any case, or of its place in the order. -/
def parse? (text : String) : Option LogLevel :=
  let digits := match text.toList with
    | '+' :: cs => cs
    | cs => cs
  match Text.digitsValue? 10 digits with
  | some rank => all[rank]?
  | none => all.find? fun level => level.name == text.map Char.toLower

end LogLevel

/-- The least severe level that is logged for the targets with a common start, or for all targets,
perhaps only within a span. -/
structure LogDirective where
  target : Option String
  span : Option String
  level : LogLevel
deriving DecidableEq, Repr

namespace LogDirective

/-- The level behind an equals sign, which may be left out. -/
def levelOf? (cs : List Char) : Option LogLevel :=
  match cs with
  | [] => some .trace
  | '=' :: [] => some .trace
  | '=' :: level => LogLevel.parse? (String.ofList level)
  | _ => none

/-- Reads a directive. A single word is a level if there is one of that name, and a target
otherwise. -/
def parse? (text : String) : Option LogDirective :=
  let cs := (Text.trim text).toList
  let target := cs.takeWhile fun c => c != '=' && c != '['
  let given := if target.isEmpty then none else some (String.ofList target)
  match target, cs.drop target.length with
  | first :: _, rest =>
    if !(first.isAlphanum || first.toNat ≥ 128 || first == '-' || first == ':' || first == '_') then
      none
    else
      match rest with
      | [] =>
        match LogLevel.parse? (String.ofList target) with
        | some level => some { target := none, span := none, level }
        | none => some { target := given, span := none, level := .trace }
      | '[' :: span => inSpan given span
      | rest => (levelOf? rest).map fun level => { target := given, span := none, level }
  | [], '[' :: span => inSpan none span
  | [], _ => none
where
  /-- A directive with a span, from behind its opening bracket. -/
  inSpan (target : Option String) (cs : List Char) : Option LogDirective :=
    let span := cs.takeWhile (· != ']')
    match cs.drop span.length with
    | [] => none
    | _ :: rest => (levelOf? rest).map fun level =>
      { target, span := some (String.ofList span), level }

/-- The text of a directive. -/
def toText (directive : LogDirective) : String :=
  let span := (directive.span.map fun span => "[" ++ span ++ "]").getD ""
  let subject := directive.target.getD "" ++ span
  if subject.isEmpty then directive.level.name else subject ++ "=" ++ directive.level.name

/-- Whether the directive holds for a target outside all spans. -/
def covers (directive : LogDirective) (target : String) : Bool :=
  directive.span.isNone && (directive.target.getD "").toList.isPrefixOf target.toList

end LogDirective

/-- A list of directives, no two of which are for the same targets and span. -/
abbrev LogFilter := List LogDirective

namespace LogFilter

/-- The filter with one more directive, in place of an earlier one for the same targets. -/
def add (filter : LogFilter) (directive : LogDirective) : LogFilter :=
  filter.filter (fun d => d.target != directive.target || d.span != directive.span) ++ [directive]

/-- The filter of some directives; without any, errors are logged. -/
def ofDirectives (directives : List LogDirective) : LogFilter :=
  if directives.isEmpty then [{ target := none, span := none, level := .error }]
  else directives.foldl add []

/-- The texts of the directives of a filter. -/
def pieces (text : String) : List String := (Text.splitAtCommas text).filter (!·.isEmpty)

/-- The filter of a text, without the directives that cannot be read. -/
def ofLossy (text : String) : LogFilter :=
  ofDirectives ((pieces text).filterMap LogDirective.parse?)

/-- The filter of a text all of whose directives can be read. -/
def parse? (text : String) : Option LogFilter :=
  ((pieces text).mapM LogDirective.parse?).map ofDirectives

/-- The filter that holds when none is given. -/
def fallback : LogFilter :=
  ofLossy "info,routecontroller=debug,kube=info,tower=warn,hyper=warn"

/-- The filter that was asked for, else the readable one of the environment, else the fallback. -/
def resolve (explicit environment : Option String) : LogFilter :=
  match explicit with
  | some text => ofLossy text
  | none => (environment.bind parse?).getD fallback

/-- Whether a line of a level is logged for a target. -/
def enables (filter : LogFilter) (target : String) (level : LogLevel) : Bool :=
  let covering := filter.filter (·.covers target)
  let length (directive : LogDirective) : Nat := (directive.target.getD "").length
  match covering.foldl (fun best d => match best with
      | none => some d
      | some b => if length b < length d then some d else some b) none with
  | some directive => level.rank ≤ directive.level.rank
  | none => false

end LogFilter

end MeshRoutes
