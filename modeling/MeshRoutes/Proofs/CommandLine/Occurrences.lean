import MeshRoutes.CommandLine.Options
import MeshRoutes.Proofs.SortedMap

/-!
# Options among the words of a command

An option is given by one word or by two, and what it was given is noted only with the next word
that is not its value. Between two options nothing of this shows: a piece of a command line takes
the command from the options found in front of it to those found behind it, and pieces are put
together.

* `Takes`: what a piece of a command line adds to the options found.
* `takes_wordsFor`: one option with its value.
* `Takes.options`, `Takes.exists_scan`: a whole command line, and one up to a subcommand.
* `exists_takes_occurrences`: an option for lists, given any number of times.
-/

namespace MeshRoutes.CommandLine

/-! ## Words -/

/-- How a value is joined to the name of its option: by a blank, so that it is the next word, or by
an equals sign, in one word. -/
inductive Joint where
  | blank
  | equals
deriving DecidableEq, Repr

/-- Whether a value can be given so. A word of its own that begins with a dash names an option. -/
def Joint.Allows (joint : Joint) (value : String) : Prop :=
  joint = .blank → value.toList.head? ≠ some '-'

instance (joint : Joint) (value : String) : Decidable (joint.Allows value) :=
  inferInstanceAs (Decidable (joint = .blank → value.toList.head? ≠ some '-'))

/-- The words that give an option a value. -/
def OptionSpec.wordsFor (spec : OptionSpec) (joint : Joint) (value : String) : List String :=
  match joint with
  | .blank => ["--" ++ spec.name, value]
  | .equals => ["--" ++ spec.name ++ "=" ++ value]

theorem takeWhile_name {name : List Char} (plain : '=' ∉ name) (rest : List Char) :
    (name ++ '=' :: rest).takeWhile (· != '=') = name ∧ name.takeWhile (· != '=') = name := by
  have all : ∀ c ∈ name, (c != '=') = true := by
    intro c mem
    rw [bne_iff_ne]
    rintro rfl
    exact plain mem
  have alone := @List.takeWhile_append_of_pos _ _ name [] all
  rw [List.takeWhile_append_of_pos all]
  simpa using alone

theorem Word.of_long {name : String} (some_name : name ≠ "") (plain : '=' ∉ name.toList) :
    Word.of ("--" ++ name) = .long name none := by
  obtain ⟨c, cs, chars⟩ := List.exists_cons_of_ne_nil fun nil =>
    some_name (String.toList_eq_nil_iff.1 nil)
  have word : ("--" ++ name).toList = '-' :: '-' :: c :: cs := by
    rw [String.toList_append, chars]
    rfl
  have whole := (takeWhile_name plain []).2
  rw [chars] at whole
  simp only [Word.of, word, whole, List.drop_length]
  rw [← chars, String.ofList_toList]

theorem Word.of_long_equals {name : String} (value : String) (some_name : name ≠ "")
    (plain : '=' ∉ name.toList) :
    Word.of ("--" ++ name ++ "=" ++ value) = .long name (some value) := by
  obtain ⟨c, cs, chars⟩ := List.exists_cons_of_ne_nil fun nil =>
    some_name (String.toList_eq_nil_iff.1 nil)
  have word : ("--" ++ name ++ "=" ++ value).toList =
      '-' :: '-' :: c :: (cs ++ '=' :: value.toList) := by
    simp [String.toList_append, chars]
  have front : (c :: (cs ++ '=' :: value.toList)).takeWhile (· != '=') = c :: cs := by
    have front := (takeWhile_name plain value.toList).1
    rwa [chars] at front
  have back : (c :: (cs ++ '=' :: value.toList)).drop (c :: cs).length = '=' :: value.toList :=
    List.drop_left
  simp only [Word.of, word, front, back]
  rw [← chars, String.ofList_toList, String.ofList_toList]

theorem Word.of_value {value : String} (plain : value.toList.head? ≠ some '-') :
    Word.of value = .other := by
  unfold Word.of
  cases chars : value.toList with
  | nil => rfl
  | cons c cs =>
    have other : c ≠ '-' := fun dash => plain (by rw [chars, dash]; rfl)
    grind

/-! ## Pieces of command lines -/

/-- Whether a piece of a command line takes a command from some options to others, whatever stands
in front of it and behind it. The option that was named last counts as found if it has its value. -/
def Takes (command : CommandSpec) (words : List String) (before after : Found) : Prop :=
  ∀ pending found rest, awaitsValue pending = false → settle pending found = .ok before →
    ∃ pending' found', awaitsValue pending' = false ∧ settle pending' found' = .ok after ∧
      scan command pending found (words ++ rest) = scan command pending' found' rest

namespace Takes

variable {command : CommandSpec} {words words' : List String} {before between after : Found}

theorem nil : Takes command [] before before :=
  fun pending found _ ready settled => ⟨pending, found, ready, settled, rfl⟩

theorem append (first : Takes command words before between)
    (second : Takes command words' between after) :
    Takes command (words ++ words') before after := by
  intro pending found rest ready settled
  obtain ⟨pending', found', ready', settled', scanned⟩ :=
    first pending found (words' ++ rest) ready settled
  obtain ⟨pending'', found'', ready'', settled'', scanned'⟩ :=
    second pending' found' rest ready' settled'
  refine ⟨pending'', found'', ready'', settled'', ?_⟩
  rw [List.append_assoc, scanned, scanned']

/-- A whole command line. -/
theorem options (takes : Takes command words [] after) :
    CommandLine.options command words = .ok after := by
  obtain ⟨pending, found, _, settled, scanned⟩ := takes none [] [] rfl rfl
  rw [List.append_nil] at scanned
  unfold CommandLine.options
  rw [scanned]
  exact settled

/-- A command line up to the name of a subcommand. -/
theorem exists_scan (takes : Takes command words [] after) {name : String}
    (known : command.subcommands.contains name = true) (rest : List String) :
    ∃ scanned : Scan, scan command none [] (words ++ name :: rest) = .ok scanned ∧
      scanned.options = .ok after ∧ scanned.subcommand = some (name, rest) := by
  obtain ⟨pending, found, ready, settled, scanned⟩ := takes none [] (name :: rest) rfl rfl
  refine ⟨⟨pending, found, some (name, rest)⟩, ?_, settled, rfl⟩
  rw [scanned, scan, ready, known]
  rfl

end Takes

/-- Whether a command takes an option with a value by its long name, which ends where a value
begins, and takes no subcommand for an option. -/
structure CommandSpec.TakesValued (command : CommandSpec) (spec : OptionSpec) : Prop where
  known : command.options.find? (·.name == spec.name) = some spec
  valued : spec.arity ≠ .flag
  some_name : spec.name ≠ ""
  plain : '=' ∉ spec.name.toList
  subcommands : ∀ name ∈ command.subcommands, name.toList.head? ≠ some '-'

theorem startOption_none {spec : OptionSpec} (valued : spec.arity ≠ .flag) {pending : Pending}
    {found before : Found} (settled : settle pending found = .ok before) :
    startOption spec none pending found = .ok (some (spec, []), before) := by
  unfold startOption
  rw [settled]
  cases arity : spec.arity with
  | flag => exact absurd arity valued
  | single => rfl
  | list => rfl

theorem startOption_some {spec : OptionSpec} (valued : spec.arity ≠ .flag) {pending : Pending}
    {found before after : Found} {value : String} (settled : settle pending found = .ok before)
    (noted : spec.note [value] before = .ok after) :
    startOption spec (some value) pending found = .ok (none, after) := by
  unfold startOption
  rw [settled]
  cases arity : spec.arity with
  | flag => exact absurd arity valued
  | single => simp only [bind, Except.bind, noted, pure, Except.pure]
  | list => simp only [bind, Except.bind, noted, pure, Except.pure]

/-- A word that is read as such goes before the others. -/
theorem scan_cons {command : CommandSpec} {word : String} {words : List String}
    {pending pending' : Pending} {found found' : Found}
    (no_subcommand : (!awaitsValue pending && command.subcommands.contains word) = false)
    (no_escape : Word.of word ≠ .escape)
    (read : readWord command word pending found = .ok (pending', found')) :
    scan command pending found (word :: words) = scan command pending' found' words := by
  have not_escape : (Word.of word == .escape) = false := beq_false_of_ne no_escape
  rw [scan, no_subcommand, not_escape, if_neg Bool.false_ne_true, if_neg Bool.false_ne_true, read]
  rfl

/-- An option with a value adds what it notes. -/
theorem takes_wordsFor {command : CommandSpec} {spec : OptionSpec} {joint : Joint} {value : String}
    {before after : Found} (takes : command.TakesValued spec) (allowed : joint.Allows value)
    (noted : spec.note [value] before = .ok after) :
    Takes command (spec.wordsFor joint value) before after := by
  intro pending found rest ready settled
  have no_subcommand (name : String) :
      (!awaitsValue pending && command.subcommands.contains ("--" ++ name)) = false := by
    have absent : "--" ++ name ∉ command.subcommands := fun mem =>
      takes.subcommands _ mem (by rw [String.toList_append]; rfl)
    simp [absent]
  cases joint with
  | blank =>
    -- the option is pending without a value first, and then with its value
    have word := Word.of_long takes.some_name takes.plain
    have named : readWord command ("--" ++ spec.name) pending found =
        .ok (some (spec, []), before) := by
      unfold readWord
      rw [word]
      dsimp only
      rw [takes.known]
      exact startOption_none takes.valued settled
    have given : readWord command value (some (spec, [])) before =
        .ok (some (spec, [value]), before) := by
      unfold readWord
      rw [Word.of_value (allowed rfl)]
    refine ⟨some (spec, [value]), before, rfl, noted, ?_⟩
    change scan command pending found (("--" ++ spec.name) :: value :: rest) = _
    rw [scan_cons (no_subcommand _) (by rw [word]; exact Word.noConfusion) named,
      scan_cons rfl (by rw [Word.of_value (allowed rfl)]; exact Word.noConfusion) given]
  | equals =>
    have word := Word.of_long_equals value takes.some_name takes.plain
    have named : readWord command ("--" ++ spec.name ++ "=" ++ value) pending found =
        .ok (none, after) := by
      unfold readWord
      rw [word]
      dsimp only
      rw [takes.known]
      exact startOption_some takes.valued settled noted
    refine ⟨none, after, rfl, rfl, ?_⟩
    change scan command pending found (("--" ++ spec.name ++ "=" ++ value) :: rest) = _
    have no_name := no_subcommand (spec.name ++ "=" ++ value)
    rw [← String.append_assoc, ← String.append_assoc] at no_name
    rw [scan_cons no_name (by rw [word]; exact Word.noConfusion) named]

/-! ## Lists of values -/

theorem splitAt_of_not_mem {separator : Char} {cs : List Char} (absent : separator ∉ cs) :
    Text.splitAt separator cs = [cs] := by
  induction cs with
  | nil => rfl
  | cons c cs ih =>
    obtain ⟨here, there⟩ := not_or.1 (mt List.mem_cons.2 absent)
    have other : (c == separator) = false := beq_false_of_ne (Ne.symm here)
    rw [Text.splitAt, other, if_neg Bool.false_ne_true, ih there]

theorem splitAt_append {separator : Char} {cs : List Char} (absent : separator ∉ cs)
    (rest : List Char) :
    Text.splitAt separator (cs ++ separator :: rest) = cs :: Text.splitAt separator rest := by
  induction cs with
  | nil => simp [Text.splitAt]
  | cons c cs ih =>
    obtain ⟨here, there⟩ := not_or.1 (mt List.mem_cons.2 absent)
    have other : (c == separator) = false := beq_false_of_ne (Ne.symm here)
    rw [List.cons_append, Text.splitAt, other, if_neg Bool.false_ne_true, ih there]

/-- Pieces without a separator are those between the separators that join them. -/
theorem splitAt_intercalate {separator : Char} {pieces : List (List Char)} (some : pieces ≠ [])
    (absent : ∀ piece ∈ pieces, separator ∉ piece) :
    Text.splitAt separator ([separator].intercalate pieces) = pieces := by
  induction pieces with
  | nil => exact absurd rfl some
  | cons piece pieces ih =>
    obtain ⟨here, there⟩ := List.forall_mem_cons.1 absent
    cases pieces with
    | nil => rw [List.intercalate_singleton, splitAt_of_not_mem here]
    | cons next pieces =>
      rw [List.intercalate_cons_cons, List.append_assoc, List.singleton_append,
        splitAt_append here, ih (List.cons_ne_nil _ _) there]

theorem splitAtCommas_intercalate {pieces : List String} (some : pieces ≠ [])
    (absent : ∀ piece ∈ pieces, ',' ∉ piece.toList) :
    Text.splitAtCommas (",".intercalate pieces) = pieces := by
  have chars : (",".intercalate pieces).toList = [','].intercalate (pieces.map String.toList) :=
    String.toList_intercalate
  have split : Text.splitAt ',' ([','].intercalate (pieces.map String.toList)) =
      pieces.map String.toList :=
    splitAt_intercalate (by simpa using some) (by simpa using absent)
  rw [Text.splitAtCommas, chars, split, List.map_map]
  exact (List.map_congr_left fun piece _ => String.ofList_toList).trans (List.map_id _)

/-- Joined pieces begin as the first of them does, or with a comma. -/
theorem head?_intercalate_commas {pieces : List String}
    (plain : ∀ piece ∈ pieces, piece.toList.head? ≠ some '-') :
    (",".intercalate pieces).toList.head? ≠ some '-' := by
  have chars : (",".intercalate pieces).toList = [','].intercalate (pieces.map String.toList) :=
    String.toList_intercalate
  rw [chars]
  cases pieces with
  | nil => exact fun dash => nomatch dash
  | cons piece pieces =>
    have first := plain piece List.mem_cons_self
    cases pieces with
    | nil => rwa [List.map_singleton, List.intercalate_singleton]
    | cons next pieces =>
      rw [List.map_cons, List.map_cons, List.intercalate_cons_cons]
      cases chars : piece.toList with
      | nil => exact fun dash => absurd (Option.some.inj dash) (by decide)
      | cons c cs => rwa [chars] at first

/-- An occurrence of an option for lists: the pieces of its value, between commas, and how the value
is joined to the name. -/
structure Occurrence where
  pieces : List String
  joint : Joint
deriving DecidableEq, Repr

namespace Occurrence

/-- The value, with all pieces. -/
def value (occurrence : Occurrence) : String := ",".intercalate occurrence.pieces

/-- The words that give an option the value. -/
def words (spec : OptionSpec) (occurrence : Occurrence) : List String :=
  spec.wordsFor occurrence.joint occurrence.value

/-- Whether an occurrence gives its pieces as such: there is a piece, and none is cut in two or
taken for an option. -/
structure IsProper (occurrence : Occurrence) : Prop where
  some_piece : occurrence.pieces ≠ []
  no_comma : ∀ piece ∈ occurrence.pieces, ',' ∉ piece.toList
  no_dash : ∀ piece ∈ occurrence.pieces, piece.toList.head? ≠ some '-'

instance (occurrence : Occurrence) : Decidable occurrence.IsProper :=
  decidable_of_iff (occurrence.pieces ≠ [] ∧ (∀ piece ∈ occurrence.pieces, ',' ∉ piece.toList) ∧
      ∀ piece ∈ occurrence.pieces, piece.toList.head? ≠ some '-')
    ⟨fun all => ⟨all.1, all.2.1, all.2.2⟩,
      fun proper => ⟨proper.some_piece, proper.no_comma, proper.no_dash⟩⟩

end Occurrence

/-- Whether options found later are those found before with more pieces for an option for lists. -/
structure Adds (spec : OptionSpec) (pieces : List String) (before after : Found) : Prop where
  own : after.lookup spec.name =
    if pieces = [] then before.lookup spec.name
    else some ((before.lookup spec.name).getD [] ++ pieces)
  others : ∀ name, name ≠ spec.name → after.lookup name = before.lookup name

namespace Adds

variable {spec : OptionSpec} {pieces pieces' : List String} {before between after : Found}

theorem refl : Adds spec [] before before := ⟨rfl, fun _ _ => rfl⟩

theorem trans (first : Adds spec pieces before between) (second : Adds spec pieces' between after) :
    Adds spec (pieces ++ pieces') before after := by
  refine ⟨?_, fun name other => (second.others name other).trans (first.others name other)⟩
  rw [second.own, first.own]
  by_cases none : pieces = [] <;> by_cases none' : pieces' = [] <;> simp [none, none']

end Adds

/-- One more occurrence puts its pieces behind those found before. -/
theorem exists_note_list {spec : OptionSpec} (list : spec.arity = .list)
    (accepts : ∀ piece, spec.accepts piece = true) {occurrence : Occurrence}
    (proper : occurrence.IsProper) (before : Found) :
    ∃ after, spec.note [occurrence.value] before = .ok after ∧
      Adds spec occurrence.pieces before after := by
  have pieces : [occurrence.value].flatMap Text.splitAtCommas = occurrence.pieces := by
    rw [List.flatMap_singleton]
    exact splitAtCommas_intercalate proper.some_piece proper.no_comma
  have all : occurrence.pieces.all spec.accepts = true := by simp [accepts]
  refine ⟨(spec.name, (before.lookup spec.name).getD [] ++ occurrence.pieces) ::
    before.filter (·.1 != spec.name), ?_, ?_, fun name other => ?_⟩
  · unfold OptionSpec.note
    rw [list]
    simp [pieces, all]
  · rw [SortedMap.lookup_cons, if_pos rfl, if_neg proper.some_piece]
  · rw [SortedMap.lookup_cons, if_neg other]
    exact SortedMap.lookup_filter_ne other before

/-- Any number of occurrences, one after the other, put all their pieces behind those found before,
in order. -/
theorem exists_takes_occurrences {command : CommandSpec} {spec : OptionSpec}
    (takes : command.TakesValued spec) (list : spec.arity = .list)
    (accepts : ∀ piece, spec.accepts piece = true) {occurrences : List Occurrence}
    (proper : ∀ occurrence ∈ occurrences, occurrence.IsProper) (before : Found) :
    ∃ after, Takes command (occurrences.flatMap (·.words spec)) before after ∧
      Adds spec (occurrences.flatMap (·.pieces)) before after := by
  induction occurrences generalizing before with
  | nil => exact ⟨before, .nil, .refl⟩
  | cons occurrence occurrences ih =>
    obtain ⟨here, there⟩ := List.forall_mem_cons.1 proper
    obtain ⟨between, noted, adds⟩ := exists_note_list list accepts here before
    obtain ⟨after, takes_rest, adds_rest⟩ := ih there between
    have allowed : occurrence.joint.Allows occurrence.value :=
      fun _ => head?_intercalate_commas here.no_dash
    exact ⟨after, (takes_wordsFor takes allowed noted).append takes_rest, adds.trans adds_rest⟩

end MeshRoutes.CommandLine
