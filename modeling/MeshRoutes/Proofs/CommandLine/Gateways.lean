import Mathlib.Logic.Function.Basic
import MeshRoutes.Proofs.CommandLine.Occurrences
import MeshRoutes.Proofs.Settings
import MeshRoutes.Program

/-!
# Gateways on the command line

The option for gateways is taken on either side of a subcommand, any number of times, and each time
with any number of names between commas. On one side the names of all occurrences are put together
in order. The two sides are not: each of them is a setting of its own, and the one behind the
subcommand counts if it has words of its own. So names in front of the subcommand are lost when
others stand behind it.

* `CompileLine`: a command line that compiles a file, with the gateways it names.
* `CompileLine.parse_words`: what is read from it.
* `gateways_reach_settings`: the gateways of the settings.
* `gateways_of_both_sides_not_joined`: names on both sides are not put together.
-/

namespace MeshRoutes

open CommandLine

/-! ## Settings of options that no word gives -/

/-- The values of an option that its environment variable gives. -/
def CommandLine.OptionSpec.valuesOf (spec : OptionSpec) (text : String) : List String :=
  match spec.arity with
  | .list => Text.splitAtCommas text
  | _ => [text]

/-- The setting of an option that no word gives: from the environment, or else the one to fall back
on. -/
def CommandLine.OptionSpec.unnamed (spec : OptionSpec) (environment : String → Option String)
    (fallback : Option (List String)) : Option Setting :=
  match spec.envVariable.bind environment with
  | some text => some ⟨.environment, spec.valuesOf text⟩
  | none => fallback.map (⟨.fallback, ·⟩)

/-- Whether an option takes what its environment variable holds, if that is set. -/
def CommandLine.OptionSpec.TakesEnvironment (spec : OptionSpec)
    (environment : String → Option String) : Prop :=
  ∀ text, spec.envVariable.bind environment = some text →
    ∀ value ∈ spec.valuesOf text, spec.accepts value = true

theorem CommandLine.OptionSpec.setting_unnamed {spec : OptionSpec}
    {environment : String → Option String} {found : Found} (fallback : Option (List String))
    (valued : spec.arity ≠ .flag) (takes : spec.TakesEnvironment environment)
    (absent : found.lookup spec.name = none) :
    spec.setting environment fallback found = .ok (spec.unnamed environment fallback) := by
  unfold setting unnamed
  rw [absent]
  cases variable_eq : spec.envVariable.bind environment with
  | none => rfl
  | some text =>
    have accepted := takes text variable_eq
    have noted : spec.note [text] [] = .ok [(spec.name, spec.valuesOf text)] := by
      unfold note valuesOf
      unfold valuesOf at accepted
      cases arity : spec.arity with
      | flag => exact absurd arity valued
      | single =>
        rw [arity] at accepted
        simp [accepted text List.mem_cons_self]
      | list =>
        rw [arity] at accepted
        have all : (Text.splitAtCommas text).all spec.accepts = true := List.all_eq_true.2 accepted
        simp [all]
    simp only [noted, bind, Except.bind, pure, Except.pure, SortedMap.lookup_cons, if_pos,
      Option.getD_some]

theorem CommandLine.OptionSpec.setting_named {spec : OptionSpec}
    {environment : String → Option String} {found : Found} {values : List String}
    (fallback : Option (List String)) (named : found.lookup spec.name = some values) :
    spec.setting environment fallback found = .ok (some ⟨.words, values⟩) := by
  unfold setting
  rw [named]

/-! ## Command lines that compile a file -/

theorem programCommand_takes_gateways : programCommand.TakesValued gatewaysOption :=
  ⟨rfl, by decide, by decide, by decide, by decide⟩

theorem compileCommand_takes_gateways : compileCommand.TakesValued gatewaysOption :=
  ⟨rfl, by decide, by decide, by decide, by decide⟩

theorem compileCommand_takes_file : compileCommand.TakesValued fileOption :=
  ⟨rfl, by decide, by decide, by decide, by decide⟩

/-- A command line that compiles a file, with gateways in front of the subcommand, between it and
the option for the file, and behind that, by occurrence of their option. -/
structure CompileLine where
  before : List Occurrence := []
  between : List Occurrence := []
  after : List Occurrence := []
  file : String
  fileJoint : Joint := .blank
deriving DecidableEq, Repr

namespace CompileLine

/-- The occurrences behind the subcommand. -/
def behind (line : CompileLine) : List Occurrence := line.between ++ line.after

/-- All occurrences. -/
def occurrences (line : CompileLine) : List Occurrence := line.before ++ line.behind

/-- The words behind the subcommand. -/
def wordsBehind (line : CompileLine) : List String :=
  line.between.flatMap (·.words gatewaysOption) ++ fileOption.wordsFor line.fileJoint line.file ++
    line.after.flatMap (·.words gatewaysOption)

/-- The words behind the name of the program. -/
def words (line : CompileLine) : List String :=
  line.before.flatMap (·.words gatewaysOption) ++ "compile" :: line.wordsBehind

/-- The gateways, in order. -/
def names (line : CompileLine) : List String := line.occurrences.flatMap (·.pieces)

/-- The gateways that count: those behind the subcommand, or else those in front of it. -/
def rulingNames (line : CompileLine) : List String :=
  if line.behind = [] then line.before.flatMap (·.pieces) else line.behind.flatMap (·.pieces)

/-- The command line without gateways. -/
def bare (line : CompileLine) : CompileLine := { file := line.file, fileJoint := line.fileJoint }

/-- Whether the words of a command line are read as they are meant: each occurrence gives its
gateways as such, and there is a file, which is not taken for an option. -/
structure IsProper (line : CompileLine) : Prop where
  occurrences : ∀ occurrence ∈ line.occurrences, occurrence.IsProper
  some_file : line.file ≠ ""
  file_allowed : line.fileJoint.Allows line.file

instance (line : CompileLine) : Decidable line.IsProper :=
  decidable_of_iff ((∀ occurrence ∈ line.occurrences, occurrence.IsProper) ∧ line.file ≠ "" ∧
      line.fileJoint.Allows line.file)
    ⟨fun all => ⟨all.1, all.2.1, all.2.2⟩,
      fun proper => ⟨proper.occurrences, proper.some_file, proper.file_allowed⟩⟩

variable {line : CompileLine}

theorem bare_isProper (proper : line.IsProper) : line.bare.IsProper :=
  ⟨fun _ mem => (List.not_mem_nil mem).elim, proper.some_file, proper.file_allowed⟩

theorem flatMap_pieces_eq_nil_iff {occurrences : List Occurrence}
    (proper : ∀ occurrence ∈ occurrences, occurrence.IsProper) :
    occurrences.flatMap (·.pieces) = [] ↔ occurrences = [] := by
  rw [List.flatMap_eq_nil_iff]
  constructor
  · intro none
    rw [List.eq_nil_iff_forall_not_mem]
    exact fun occurrence mem => (proper occurrence mem).some_piece (none occurrence mem)
  · rintro rfl occurrence mem
    cases mem

/-- The gateways that count: those of the setting behind the subcommand, if it has any. -/
theorem rulingNames_eq (proper : line.IsProper) :
    line.rulingNames = if line.behind.flatMap (·.pieces) = [] then line.before.flatMap (·.pieces)
      else line.behind.flatMap (·.pieces) := by
  have none_iff := flatMap_pieces_eq_nil_iff fun occurrence mem =>
    proper.occurrences occurrence (List.mem_append_right line.before mem)
  unfold rulingNames
  by_cases none : line.behind = []
  · rw [if_pos none, if_pos (none_iff.2 none)]
  · rw [if_neg none, if_neg (mt none_iff.1 none)]

theorem note_file {file : String} (some_file : file ≠ "") {found : Found}
    (absent : found.lookup fileOption.name = none) :
    fileOption.note [file] found = .ok ((fileOption.name, [file]) :: found) := by
  have accepted : [file].all fileOption.accepts = true := by
    simp [fileOption, some_file]
  unfold OptionSpec.note
  rw [absent, accepted]
  rfl

/-- What the program finds in front of the subcommand. -/
theorem exists_found_before (proper : line.IsProper) :
    ∃ found, Takes programCommand (line.before.flatMap (·.words gatewaysOption)) [] found ∧
      Adds gatewaysOption (line.before.flatMap (·.pieces)) [] found :=
  exists_takes_occurrences programCommand_takes_gateways rfl (fun _ => rfl)
    (fun occurrence mem => proper.occurrences occurrence (List.mem_append_left _ mem)) []

/-- What the subcommand finds behind it. -/
theorem exists_found_behind (proper : line.IsProper) :
    ∃ found, Takes compileCommand line.wordsBehind [] found ∧
      found.lookup gatewaysOption.name = (if line.behind.flatMap (·.pieces) = [] then none
        else some (line.behind.flatMap (·.pieces))) ∧
      found.lookup fileOption.name = some [line.file] ∧
      found.lookup resyncOption.name = none := by
  have each : ∀ occurrence ∈ line.behind, occurrence.IsProper :=
    fun occurrence mem => proper.occurrences occurrence (List.mem_append_right _ mem)
  obtain ⟨first, takes_first, adds_first⟩ := exists_takes_occurrences compileCommand_takes_gateways
    rfl (fun _ => rfl) (fun occurrence mem => each occurrence (List.mem_append_left _ mem)) []
  have noted := note_file proper.some_file (adds_first.others _ (by decide))
  obtain ⟨last, takes_last, adds_last⟩ := exists_takes_occurrences compileCommand_takes_gateways
    rfl (fun _ => rfl) (fun occurrence mem => each occurrence (List.mem_append_right _ mem))
    ((fileOption.name, [line.file]) :: first)
  have takes_file := takes_wordsFor compileCommand_takes_file proper.file_allowed noted
  have kept {name : String} (other : name ≠ fileOption.name) :
      ((fileOption.name, [line.file]) :: first).lookup name = first.lookup name := by
    rw [SortedMap.lookup_cons, if_neg other]
  refine ⟨last, (takes_first.append takes_file).append takes_last, ?_, ?_, ?_⟩
  · rw [adds_last.own, kept (by decide), adds_first.own, behind, List.flatMap_append]
    by_cases none : line.between.flatMap (·.pieces) = [] <;>
      by_cases none' : line.after.flatMap (·.pieces) = [] <;> simp [none, none']
  · rw [adds_last.others _ (by decide), SortedMap.lookup_cons, if_pos rfl]
  · rw [adds_last.others _ (by decide), kept (by decide), adds_first.others _ (by decide)]
    rfl

end CompileLine

/-! ## Settings -/

/-- Whether the program takes what the environment holds besides gateways, and there is some time
between two passes. -/
structure FitsProgram (environment : String → Option String) : Prop where
  resync : ∀ text, environment "RESYNC_INTERVAL_SECS" = some text →
    ∃ seconds, Text.word64? text = some seconds ∧ seconds ≠ 0
  logFormat : ∀ text, environment "LOG_FORMAT" = some text →
    ∃ format, LogFormat.parse text = .ok format

/-- The setting for gateways where some are named, or none. -/
def gatewaySetting (environment : String → Option String) (names : List String) : Option Setting :=
  if names = [] then gatewaysOption.unnamed environment none else some ⟨.words, names⟩

/-- The setting for the seconds between two passes where none are named. -/
def resyncSetting (environment : String → Option String) : Option Setting :=
  resyncOption.unnamed environment (some ["60"])

/-- The log format where none is named. -/
def unnamedLogFormat (environment : String → Option String) : LogFormat :=
  (((logFormatOption.unnamed environment (some ["json"])).bind (·.values.head?)).bind fun name =>
    (LogFormat.parse name).toOption).getD .json

variable {environment : String → Option String}

theorem FitsProgram.takes_resync (fits : FitsProgram environment) :
    resyncOption.TakesEnvironment environment := by
  intro text set value mem
  obtain ⟨seconds, read, _⟩ := fits.resync text set
  obtain rfl := List.mem_singleton.1 mem
  change (Text.word64? value).isSome = true
  rw [read]
  rfl

theorem FitsProgram.takes_logFormat (fits : FitsProgram environment) :
    logFormatOption.TakesEnvironment environment := by
  intro text set value mem
  obtain ⟨format, read⟩ := fits.logFormat text set
  obtain rfl := List.mem_singleton.1 mem
  change (LogFormat.parse value).toOption.isSome = true
  rw [read]
  rfl

theorem SharedSettings.ofFound_eq (fits : FitsProgram environment) {found : Found}
    {names : List String}
    (gateways : found.lookup gatewaysOption.name = if names = [] then none else some names)
    (resync : found.lookup resyncOption.name = none) :
    SharedSettings.ofFound environment found =
      .ok ⟨gatewaySetting environment names, resyncSetting environment⟩ := by
  have gateways_eq : gatewaysOption.setting environment none found =
      .ok (gatewaySetting environment names) := by
    unfold gatewaySetting
    by_cases none : names = []
    · rw [if_pos none] at gateways
      rw [if_pos none, OptionSpec.setting_unnamed _ (by decide) (fun _ _ _ _ => rfl) gateways]
    · rw [if_neg none] at gateways
      rw [if_neg none, OptionSpec.setting_named _ gateways]
  have resync_eq : resyncOption.setting environment (some ["60"]) found =
      .ok (resyncSetting environment) :=
    OptionSpec.setting_unnamed _ (by decide) fits.takes_resync resync
  unfold SharedSettings.ofFound
  rw [gateways_eq, resync_eq]
  rfl

theorem inherit_self (setting : Option Setting) : Setting.inherit setting setting = setting := by
  cases setting with
  | none => rfl
  | some setting => simp [Setting.inherit]

/-- A setting of words is not replaced by an outer one. -/
theorem inherit_words (outer : Option Setting) (values : List String) :
    Setting.inherit outer (some ⟨.words, values⟩) = some ⟨.words, values⟩ := by
  cases outer with
  | none => rfl
  | some outer =>
    have not_above : ¬Source.words.rank < outer.source.rank := by
      cases outer.source <;> decide
    rw [Setting.inherit, if_neg not_above]

/-- A setting of words replaces one that no word gives. -/
theorem inherit_unnamed (spec : OptionSpec) (fallback : Option (List String))
    (values : List String) :
    Setting.inherit (some ⟨.words, values⟩) (spec.unnamed environment fallback) =
      some ⟨.words, values⟩ := by
  unfold OptionSpec.unnamed
  cases spec.envVariable.bind environment with
  | some text => rfl
  | none => cases fallback <;> rfl

/-- The setting behind the subcommand counts, unless no gateway is named there. -/
theorem inherit_gatewaySetting (outer inner : List String) :
    Setting.inherit (gatewaySetting environment outer) (gatewaySetting environment inner) =
      gatewaySetting environment (if inner = [] then outer else inner) := by
  by_cases none : inner = []
  · subst none
    rw [if_pos rfl]
    by_cases none : outer = []
    · rw [none, inherit_self]
    · unfold gatewaySetting
      rw [if_neg none, if_pos rfl, inherit_unnamed]
  · rw [if_neg none]
    unfold gatewaySetting
    rw [if_neg none, inherit_words]

/-- The settings as they are given, where some gateways are named, or none. -/
def rawSettings (environment : String → Option String) (names : List String) : RawSettings :=
  SharedSettings.toRaw ⟨gatewaySetting environment names, resyncSetting environment⟩

/-- What is read from the words behind the subcommand. -/
theorem CompileLine.parseTask_words {line : CompileLine} (proper : line.IsProper)
    (fits : FitsProgram environment) :
    Invocation.parseTask environment "compile" line.wordsBehind =
      .ok (.compile line.file,
        ⟨gatewaySetting environment (line.behind.flatMap (·.pieces)),
          resyncSetting environment⟩) := by
  obtain ⟨found, takes, gateways, file, resync⟩ := line.exists_found_behind proper
  have shared := SharedSettings.ofFound_eq fits gateways resync
  unfold Invocation.parseTask
  rw [if_neg (by decide), if_pos (by decide), takes.options]
  simp only [bind, Except.bind, shared, file, Option.bind_some, List.head?_cons, pure, Except.pure]

/-- What is read from a command line that compiles a file. -/
theorem CompileLine.parse_words {line : CompileLine} (proper : line.IsProper)
    (fits : FitsProgram environment) :
    Invocation.parse environment line.words = .ok {
      printsDefinition := false
      logFormat := unnamedLogFormat environment
      settings := rawSettings environment line.rulingNames
      task := .compile line.file } := by
  obtain ⟨found, takes, adds⟩ := line.exists_found_before proper
  have known : programCommand.subcommands.contains "compile" = true := by decide
  obtain ⟨scanned, scan_eq, options_eq, subcommand_eq⟩ := takes.exists_scan known line.wordsBehind
  have absent (name : String) (other : name ≠ gatewaysOption.name) : found.lookup name = none :=
    adds.others name other
  -- each side is a setting of its own before the one behind the subcommand is preferred
  have shared : SharedSettings.ofFound environment found =
      .ok ⟨gatewaySetting environment (line.before.flatMap (·.pieces)),
        resyncSetting environment⟩ :=
    SharedSettings.ofFound_eq fits adds.own (absent _ (by decide))
  have format : logFormatOption.setting environment (some ["json"]) found =
      .ok (logFormatOption.unnamed environment (some ["json"])) :=
    OptionSpec.setting_unnamed _ (by decide) fits.takes_logFormat (absent _ (by decide))
  have definition : found.lookup definitionOption.name = none := absent _ (by decide)
  have inherited : SharedSettings.inherit
      ⟨gatewaySetting environment (line.before.flatMap (·.pieces)), resyncSetting environment⟩
      ⟨gatewaySetting environment (line.behind.flatMap (·.pieces)), resyncSetting environment⟩ =
      ⟨gatewaySetting environment line.rulingNames, resyncSetting environment⟩ := by
    rw [SharedSettings.inherit, inherit_gatewaySetting, inherit_self, rulingNames_eq proper]
  unfold Invocation.parse words
  rw [scan_eq]
  simp only [bind, Except.bind, subcommand_eq, Option.mapM_some, line.parseTask_words proper fits,
    Functor.map, Except.map, options_eq, shared, format, pure, Except.pure, definition,
    Option.isSome_none, Option.elim_some, inherited]
  rfl

/-! ## The whole way -/

theorem rawSettings_resync (fits : FitsProgram environment) (names : List String) :
    (rawSettings environment names).resyncSeconds ≠ 0 := by
  change ((((resyncSetting environment).bind (·.values.head?)).bind Text.word64?).getD 60) ≠ 0
  unfold resyncSetting OptionSpec.unnamed
  cases set : resyncOption.envVariable.bind environment with
  | none => decide
  | some text =>
    obtain ⟨seconds, read, positive⟩ := fits.resync text set
    change ((some text).bind Text.word64?).getD 60 ≠ 0
    rwa [Option.bind_some, read, Option.getD_some]

theorem rawSettings_gateways (names : List String) (some_name : names ≠ []) :
    (rawSettings environment names).gateways = names := by
  change ((gatewaySetting environment names).map (·.values)).getD [] = names
  rw [gatewaySetting, if_neg some_name]
  rfl

/-- What the program does for a command line that compiles a file. -/
theorem CompileLine.plan_words {line : CompileLine} (proper : line.IsProper)
    (fits : FitsProgram environment) {settings : Settings}
    (accepted : (rawSettings environment line.rulingNames).check = .ok settings) :
    Program.plan environment line.words = .compileFile line.file
      (unnamedLogFormat environment == .json &&
        (LogFilter.resolve none (environment Program.filterVariable)).enables Program.name .warn)
      settings := by
  unfold Program.plan
  rw [line.parse_words proper fits]
  dsimp only
  rw [if_neg Bool.false_ne_true, accepted]

/-- The environment with gateways, joined by commas. -/
def withGateways (environment : String → Option String) (names : List String) :
    String → Option String :=
  Function.update environment "ISTIO_GATEWAYS" (some (",".intercalate names))

theorem withGateways_of_ne {name : String} (other : name ≠ "ISTIO_GATEWAYS")
    (names : List String) : withGateways environment names name = environment name :=
  Function.update_of_ne other _ environment

theorem FitsProgram.withGateways (fits : FitsProgram environment) (names : List String) :
    FitsProgram (withGateways environment names) where
  resync text set := by
    rw [withGateways_of_ne (by decide)] at set
    exact fits.resync text set
  logFormat text set := by
    rw [withGateways_of_ne (by decide)] at set
    exact fits.logFormat text set

theorem unnamedLogFormat_withGateways (names : List String) :
    unnamedLogFormat (withGateways environment names) = unnamedLogFormat environment := by
  have same : logFormatOption.envVariable.bind (withGateways environment names) =
      logFormatOption.envVariable.bind environment := withGateways_of_ne (by decide) names
  unfold unnamedLogFormat OptionSpec.unnamed
  rw [same]

/-- Gateways that are joined by commas in the environment are given as if by words. -/
theorem rawSettings_withGateways {names : List String} (some_name : names ≠ [])
    (no_comma : ∀ name ∈ names, ',' ∉ name.toList) :
    rawSettings (withGateways environment names) [] = rawSettings environment names := by
  have set : gatewaysOption.envVariable.bind (withGateways environment names) =
      some (",".intercalate names) := Function.update_self "ISTIO_GATEWAYS" _ environment
  have kept : resyncOption.envVariable.bind (withGateways environment names) =
      resyncOption.envVariable.bind environment := withGateways_of_ne (by decide) names
  have gateways : gatewaySetting (withGateways environment names) [] =
      some ⟨.environment, names⟩ := by
    have split : gatewaysOption.valuesOf (",".intercalate names) = names :=
      splitAtCommas_intercalate some_name no_comma
    rw [gatewaySetting, if_pos rfl, OptionSpec.unnamed, set]
    dsimp only
    rw [split]
  have resync : resyncSetting (withGateways environment names) = resyncSetting environment := by
    unfold resyncSetting OptionSpec.unnamed
    rw [kept]
  unfold rawSettings
  rw [gateways, resync, gatewaySetting, if_neg some_name]
  rfl

namespace CompileLine

variable {line : CompileLine}

theorem pieces_of_mem_rulingNames {name : String} (mem : name ∈ line.rulingNames) :
    ∃ occurrence ∈ line.occurrences, name ∈ occurrence.pieces := by
  unfold rulingNames at mem
  split at mem
  · obtain ⟨occurrence, there, mem⟩ := List.mem_flatMap.1 mem
    exact ⟨occurrence, List.mem_append_left _ there, mem⟩
  · obtain ⟨occurrence, there, mem⟩ := List.mem_flatMap.1 mem
    exact ⟨occurrence, List.mem_append_right _ there, mem⟩

theorem rulingNames_ne_nil (proper : line.IsProper) (some_one : line.occurrences ≠ []) :
    line.rulingNames ≠ [] := by
  unfold rulingNames
  split
  · next none =>
    have same : line.occurrences = line.before := by
      rw [occurrences, none, List.append_nil]
    rw [← same]
    exact mt (flatMap_pieces_eq_nil_iff proper.occurrences).1 some_one
  · next some_behind =>
    exact mt (flatMap_pieces_eq_nil_iff fun occurrence mem =>
      proper.occurrences occurrence (List.mem_append_right _ mem)).1 some_behind

/-- Gateways on one side of the subcommand all count. -/
theorem rulingNames_of_one_side (one_side : line.before = [] ∨ line.behind = []) :
    line.rulingNames = line.names := by
  unfold rulingNames names occurrences
  rcases one_side with none | none
  · rw [none, List.nil_append]
    split
    · next none_behind => rw [none_behind]
    · rfl
  · rw [none, if_pos rfl, List.append_nil]

/-- The settings that the program accepts. -/
theorem check_rawSettings (proper : line.IsProper) (fits : FitsProgram environment)
    (some_one : line.occurrences ≠ []) (not_blank : ∀ name ∈ line.names, ¬Text.IsBlankText name) :
    (rawSettings environment line.rulingNames).check = .ok
      ⟨line.rulingNames.map Text.trim,
        (rawSettings environment line.rulingNames).resyncSeconds⟩ := by
  have some_name := rulingNames_ne_nil proper some_one
  have gateways : (rawSettings environment line.rulingNames).gateways = line.rulingNames :=
    rawSettings_gateways _ some_name
  rw [RawSettings.check_eq_ok_iff, gateways]
  refine ⟨some_name, fun name mem => ?_, rawSettings_resync fits _, rfl⟩
  obtain ⟨occurrence, there, mem⟩ := pieces_of_mem_rulingNames mem
  exact Text.trim_ne_empty (not_blank name (List.mem_flatMap.2 ⟨occurrence, there, mem⟩))

end CompileLine

/-- Of the gateways on a command line those behind the subcommand reach the settings, in order and
without blanks around them, or else those in front of it: all of them, if they stand on one side. So
it is for every way to cut them into occurrences and to join these to the option, and what the
program does is the same as if they were joined by commas in the environment. -/
theorem gateways_reach_settings {line : CompileLine} (proper : line.IsProper)
    (some_one : line.occurrences ≠ []) (not_blank : ∀ name ∈ line.names, ¬Text.IsBlankText name)
    (fits : FitsProgram environment) :
    ∃ logsWarnings settings,
      Program.plan environment line.words = .compileFile line.file logsWarnings settings ∧
      settings.gateways = line.rulingNames.map Text.trim ∧
      (line.before = [] ∨ line.behind = [] →
        settings.gateways = line.names.map Text.trim) ∧
      Program.plan (withGateways environment line.rulingNames) line.bare.words =
        .compileFile line.file logsWarnings settings := by
  have accepted := CompileLine.check_rawSettings proper fits some_one not_blank
  have some_name := CompileLine.rulingNames_ne_nil proper some_one
  have no_comma : ∀ name ∈ line.rulingNames, ',' ∉ name.toList := by
    intro name mem
    obtain ⟨occurrence, there, mem⟩ := CompileLine.pieces_of_mem_rulingNames mem
    exact (proper.occurrences occurrence there).no_comma name mem
  have same : rawSettings (withGateways environment line.rulingNames) [] =
      rawSettings environment line.rulingNames := rawSettings_withGateways some_name no_comma
  refine ⟨_, _, line.plan_words proper fits accepted, rfl, fun one_side => ?_, ?_⟩
  · rw [CompileLine.rulingNames_of_one_side one_side]
  · rw [line.bare.plan_words (CompileLine.bare_isProper proper) (fits.withGateways _)
      ((congrArg RawSettings.check same).trans accepted), unnamedLogFormat_withGateways,
      withGateways_of_ne (by decide)]
    rfl

/-- An environment in which only gateways are set. -/
theorem fitsProgram_of_gateways (names : List String) :
    FitsProgram (withGateways (fun _ => none) names) where
  resync text set := by
    rw [withGateways_of_ne (by decide)] at set
    cases set
  logFormat text set := by
    rw [withGateways_of_ne (by decide)] at set
    cases set

/-- Three gateways in two occurrences around the option for the file, with other gateways in the
environment. -/
theorem gateways_reach_settings_around_file :
    let line : CompileLine := {
      between := [⟨["gw-a", " ns/gw-b "], .equals⟩]
      file := "routes.yaml"
      after := [⟨["x=y"], .blank⟩] }
    let environment := withGateways (fun _ => none) ["other"]
    line.IsProper ∧ line.occurrences ≠ [] ∧ (∀ name ∈ line.names, ¬Text.IsBlankText name) ∧
      FitsProgram environment ∧
      line.words = ["compile", "--istio-gateways=gw-a, ns/gw-b ", "--file", "routes.yaml",
        "--istio-gateways", "x=y"] ∧
      ∃ logsWarnings settings,
        Program.plan environment line.words = .compileFile "routes.yaml" logsWarnings settings ∧
        settings.gateways = ["gw-a", "ns/gw-b", "x=y"] := by
  intro line environment
  have proper : line.IsProper := by decide
  have some_one : line.occurrences ≠ [] := by decide
  have not_blank : ∀ name ∈ line.names, ¬Text.IsBlankText name := by decide
  have fits : FitsProgram environment := fitsProgram_of_gateways ["other"]
  refine ⟨proper, some_one, not_blank, fits, by decide, ?_⟩
  obtain ⟨logsWarnings, settings, plan_eq, gateways, _⟩ :=
    gateways_reach_settings proper some_one not_blank fits
  exact ⟨logsWarnings, settings, plan_eq, gateways.trans (by decide)⟩

/-- A gateway in front of the subcommand is lost when another one stands behind it. -/
theorem gateways_of_both_sides_not_joined :
    ¬ ∀ (line : CompileLine) (environment : String → Option String), line.IsProper →
      line.occurrences ≠ [] → (∀ name ∈ line.names, ¬Text.IsBlankText name) →
      FitsProgram environment →
      ∃ logsWarnings settings,
        Program.plan environment line.words = .compileFile line.file logsWarnings settings ∧
        settings.gateways = line.names.map Text.trim := by
  intro all_joined
  let line : CompileLine := {
    before := [⟨["gw-a"], .blank⟩]
    file := "routes.yaml"
    after := [⟨["gw-b"], .blank⟩] }
  have proper : line.IsProper := by decide
  have some_one : line.occurrences ≠ [] := by decide
  have not_blank : ∀ name ∈ line.names, ¬Text.IsBlankText name := by decide
  have fits := fitsProgram_of_gateways []
  obtain ⟨logsWarnings, settings, plan_eq, gateways⟩ :=
    all_joined line _ proper some_one not_blank fits
  have accepted := CompileLine.check_rawSettings proper fits some_one not_blank
  rw [line.plan_words proper fits accepted] at plan_eq
  obtain rfl := (Program.Plan.compileFile.inj plan_eq).2.2
  exact absurd gateways (by decide)

end MeshRoutes
