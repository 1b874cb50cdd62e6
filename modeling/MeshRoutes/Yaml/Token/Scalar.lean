import MeshRoutes.Yaml.Character
import MeshRoutes.Text.Numeral

/-!
# Texts in YAML streams

The four ways in which a text is written: plain, in single quotes, in double quotes, and as an
indented block. Each scanner reads a text from the front of a stream and returns it with what is
left; it is a recursion over the characters, whose state says what the blanks and line breaks
read last will turn into.

## Main definitions

* `Yaml.Gap`: blanks and line breaks inside a text, and the text they fold to.
* `Yaml.scanPlain`, `Yaml.scanSingleQuoted`, `Yaml.scanDoubleQuoted`, `Yaml.scanBlock`.
-/

namespace MeshRoutes.Yaml

/-- A text read from a stream, and what is left of the stream. Behind a text that was left over a
line break, a key may start. -/
structure Scanned where
  text : List Char
  rest : List Char
  pos : Position
  broken : Bool := false

/-! ## Folding -/

/-- The blanks and line breaks between two pieces of a text: the blanks before the first line break,
that line break unless it is escaped, and the others. -/
structure Gap where
  blanks : List Char := []
  broken : Bool := false
  first : Option Char := none
  others : List Char := []

namespace Gap

/-- The gap with one more blank, which disappears behind a line break. -/
def addBlank (gap : Gap) (c : Char) : Gap :=
  if gap.broken then gap else { gap with blanks := gap.blanks ++ [c] }

/-- The gap with one more line break. -/
def addBreak (gap : Gap) (c : Char) : Gap :=
  if gap.broken then { gap with others := gap.others ++ [normalBreak c] }
  else { broken := true, first := some (normalBreak c) }

/-- What the gap turns into: a single line feed becomes a space, further ones stay. -/
def text (gap : Gap) : List Char :=
  if gap.broken then
    match gap.first with
    | some '\n' => if gap.others.isEmpty then [' '] else gap.others
    | some c => c :: gap.others
    | none => gap.others
  else gap.blanks

end Gap

/-- The text read so far, newest character first, with a gap and a character behind it. -/
def extend (newestFirst : List Char) (gap : Gap) (c : Char) : List Char :=
  c :: (gap.text.reverse ++ newestFirst)

/-! ## Plain texts -/

/-- Whether a character ends a plain text inside brackets or braces. -/
def isFlowMark (c : Char) : Bool := c == ',' || c == '[' || c == ']' || c == '{' || c == '}'

/-- Whether a plain text stops in front of these characters. -/
def stopsPlain (flow : Bool) : List Char → Bool
  | [] => true
  | c :: cs => (c == ':' && atBlankOrEnd cs) || (flow && isFlowMark c)

/-- Whether a colon stands in front of a mark that makes it ambiguous inside brackets or braces. -/
def ambiguousColon (flow : Bool) : List Char → Bool
  | ':' :: c :: _ => flow && (isFlowMark c || c == '?')
  | _ => false

/-- Reads a plain text that has to stay indented by `indent` outside of brackets and braces.
`afterGap` says whether the last character read was a blank or a line break. -/
def scanPlain (flow : Bool) (indent : Nat) :
    List Char → Position → List Char → Gap → Bool → Option Scanned
  | [], p, text, gap, _ => some ⟨text.reverse, [], p, gap.broken⟩
  | '\r' :: '\n' :: cs, p, text, gap, _ =>
    scanPlain flow indent cs (p.newline 2) text (gap.addBreak '\n') true
  | c :: cs, p, text, gap, afterGap =>
    if isBreak c then scanPlain flow indent cs (p.newline 1) text (gap.addBreak c) true
    else if isBlank c then
      if gap.broken && p.column < indent && c == '\t' then none
      else scanPlain flow indent cs (p.advance 1) text (gap.addBlank c) true
    else if afterGap && ((!flow && p.column < indent) || c == '#' ||
        (p.column == 0 && atDocumentMark (c :: cs))) then
      some ⟨text.reverse, c :: cs, p, gap.broken⟩
    else if ambiguousColon flow (c :: cs) then none
    else if stopsPlain flow (c :: cs) then some ⟨text.reverse, c :: cs, p, gap.broken⟩
    else scanPlain flow indent cs (p.advance 1) (extend text gap c) {} false

/-! ## Quoted texts -/

/-- Reads a text up to its closing single quote; two quotes in a row stand for one. -/
def scanSingleQuoted : List Char → Position → List Char → Gap → Option Scanned
  | [], _, _, _ => none
  | '\'' :: '\'' :: cs, p, text, gap =>
    scanSingleQuoted cs (p.advance 2) (extend text gap '\'') {}
  | '\r' :: '\n' :: cs, p, text, gap =>
    scanSingleQuoted cs (p.newline 2) text (gap.addBreak '\n')
  | c :: cs, p, text, gap =>
    if c == '\'' then some { text := text.reverse ++ gap.text, rest := cs, pos := p.advance 1 }
    else if isBreak c then scanSingleQuoted cs (p.newline 1) text (gap.addBreak c)
    else if isBlank c then scanSingleQuoted cs (p.advance 1) text (gap.addBlank c)
    else if p.column == 0 && atDocumentMark (c :: cs) then none
    else scanSingleQuoted cs (p.advance 1) (extend text gap c) {}

/-- The character that a one-letter escape stands for. -/
def letterEscape? (c : Char) : Option Char :=
  match c with
  | '0' => some (Char.ofNat 0x00)
  | 'a' => some (Char.ofNat 0x07)
  | 'b' => some (Char.ofNat 0x08)
  | 't' => some (Char.ofNat 0x09)
  | '\t' => some (Char.ofNat 0x09)
  | 'n' => some (Char.ofNat 0x0A)
  | 'v' => some (Char.ofNat 0x0B)
  | 'f' => some (Char.ofNat 0x0C)
  | 'r' => some (Char.ofNat 0x0D)
  | 'e' => some (Char.ofNat 0x1B)
  | ' ' => some ' '
  | '"' => some '"'
  | '/' => some '/'
  | '\\' => some '\\'
  | 'N' => some (Char.ofNat 0x85)
  | '_' => some (Char.ofNat 0xA0)
  | 'L' => some (Char.ofNat 0x2028)
  | 'P' => some (Char.ofNat 0x2029)
  | _ => none

/-- The character with the given hexadecimal code. Surrogates and codes beyond the last
character are no characters. -/
def codeEscape? (digits : List Char) : Option Char := do
  let n ← Text.digitsValue? 16 digits
  if (0xD800 ≤ n && n ≤ 0xDFFF) || n > 0x10FFFF then none else some (Char.ofNat n)

/-- The gap that starts with an escaped line break, which leaves no trace itself. -/
def escapedBreak : Gap := { broken := true }

/-- Reads a text up to its closing double quote. -/
def scanDoubleQuoted : List Char → Position → List Char → Gap → Option Scanned
  | [], _, _, _ => none
  | '\\' :: '\r' :: '\n' :: cs, p, text, gap =>
    scanDoubleQuoted cs ((p.advance 1).newline 2) (gap.text.reverse ++ text) escapedBreak
  | '\\' :: 'x' :: a :: b :: cs, p, text, gap =>
    match codeEscape? [a, b] with
    | some c => scanDoubleQuoted cs (p.advance 4) (extend text gap c) {}
    | none => none
  | '\\' :: 'u' :: a :: b :: c :: d :: cs, p, text, gap =>
    match codeEscape? [a, b, c, d] with
    | some c => scanDoubleQuoted cs (p.advance 6) (extend text gap c) {}
    | none => none
  | '\\' :: 'U' :: a :: b :: c :: d :: e :: f :: g :: h :: cs, p, text, gap =>
    match codeEscape? [a, b, c, d, e, f, g, h] with
    | some c => scanDoubleQuoted cs (p.advance 10) (extend text gap c) {}
    | none => none
  | '\\' :: c :: cs, p, text, gap =>
    if isBreak c then
      scanDoubleQuoted cs ((p.advance 1).newline 1) (gap.text.reverse ++ text) escapedBreak
    else
      match letterEscape? c with
      | some e => scanDoubleQuoted cs (p.advance 2) (extend text gap e) {}
      | none => none
  | '\r' :: '\n' :: cs, p, text, gap =>
    scanDoubleQuoted cs (p.newline 2) text (gap.addBreak '\n')
  | c :: cs, p, text, gap =>
    if c == '"' then some { text := text.reverse ++ gap.text, rest := cs, pos := p.advance 1 }
    else if c == '\\' then none
    else if isBreak c then scanDoubleQuoted cs (p.newline 1) text (gap.addBreak c)
    else if isBlank c then scanDoubleQuoted cs (p.advance 1) text (gap.addBlank c)
    else if p.column == 0 && atDocumentMark (c :: cs) then none
    else scanDoubleQuoted cs (p.advance 1) (extend text gap c) {}

/-! ## Block texts -/

/-- What becomes of the line breaks at the end of a block: they are dropped, or the first one stays,
or they all do. -/
inductive Chomping where
  | strip
  | clip
  | keep
deriving DecidableEq, Repr

/-- The first line of a block: what follows its mark. The indentation may be given, relative to the
parent. -/
structure BlockHeader where
  chomping : Chomping := .clip
  increment : Option Nat := none

/-- The digit that gives the indentation, which is not zero. -/
def increment? (c : Char) : Option Nat :=
  if c.isDigit && c != '0' then some (c.toNat - 48) else none

/-- The chomping that a sign asks for. -/
def chomping? : Char → Option Chomping
  | '+' => some .keep
  | '-' => some .strip
  | _ => none

/-- Reads the indicators of a block, in either order. -/
def blockIndicators (cs : List Char) : Option (BlockHeader × List Char) :=
  match cs with
  | [] => some ({}, [])
  | c :: cs' =>
    match chomping? c with
    | some chomping =>
      match cs' with
      | d :: cs'' =>
        if d.isDigit then (increment? d).map fun n => (⟨chomping, some n⟩, cs'')
        else some (⟨chomping, none⟩, cs')
      | [] => some (⟨chomping, none⟩, [])
    | none =>
      if c.isDigit then (increment? c).map fun n =>
        match cs' with
        | d :: cs'' =>
          match chomping? d with
          | some chomping => (⟨chomping, some n⟩, cs'')
          | none => (⟨.clip, some n⟩, cs')
        | [] => (⟨.clip, some n⟩, [])
      else some ({}, c :: cs')

/-- Drops blanks and a comment at the end of a line. Anything else there is an error. -/
def finishLine (cs : List Char) : Option (List Char) :=
  match cs.dropWhile isBlank with
  | '#' :: cs' => some (cs'.dropWhile (!isBreak ·))
  | c :: cs' => if isBreak c then some (c :: cs') else none
  | [] => some []

/-- Where the scanner of a block is. The indentation is not known before the first line of text;
until then the deepest of the empty lines in front is kept. The text is held newest character first,
apart from the line break behind its last line and those of the empty lines that follow. -/
structure BlockState where
  literal : Bool
  indent : Option Nat
  least : Nat
  deepest : Nat := 0
  inLine : Bool := false
  text : List Char := []
  first : List Char := []
  others : List Char := []
  startedBlank : Bool := false

namespace BlockState

/-- Whether a column still belongs to the indentation. -/
def inIndent (s : BlockState) (column : Nat) : Bool :=
  match s.indent with
  | none => true
  | some indent => column < indent

/-- The state after a line break. -/
def afterBreak (s : BlockState) (c : Char) (column : Nat) : BlockState :=
  if s.inLine then { s with inLine := false, first := [normalBreak c] }
  else { s with others := s.others ++ [normalBreak c], deepest := max s.deepest column }

/-- The state with the indentation settled at the first character of a line. -/
def settle (s : BlockState) (column : Nat) : BlockState :=
  match s.indent with
  | some _ => s
  | none =>
    { s with indent := some (max (max s.deepest column) s.least), deepest := max s.deepest column }

/-- The state after the first character of a line of text. A line feed between two lines that do
not start with a blank folds to a space, or to the empty lines behind it. -/
def startLine (s : BlockState) (c : Char) : BlockState :=
  let folds := !s.literal && s.first == ['\n'] && !s.startedBlank && !isBlank c
  let between :=
    if folds then (if s.others.isEmpty then [' '] else s.others) else s.first ++ s.others
  { s with
    inLine := true
    text := c :: (between.reverse ++ s.text)
    first := []
    others := []
    startedBlank := isBlank c }

/-- The text of a block that has ended. -/
def finish (s : BlockState) (chomping : Chomping) : List Char :=
  let tail := match chomping with
    | .strip => []
    | .clip => s.first
    | .keep => s.first ++ s.others
  s.text.reverse ++ tail

end BlockState

/-- Reads the lines of a block. -/
def scanBlockLines (chomping : Chomping) : List Char → Position → BlockState → Option Scanned
  | [], p, s => some { text := s.finish chomping, rest := [], pos := p }
  | '\r' :: '\n' :: cs, p, s =>
    scanBlockLines chomping cs (p.newline 2) (s.afterBreak '\n' p.column)
  | c :: cs, p, s =>
    if isBreak c then scanBlockLines chomping cs (p.newline 1) (s.afterBreak c p.column)
    else if s.inLine then
      scanBlockLines chomping cs (p.advance 1) { s with text := c :: s.text }
    else if s.inIndent p.column && c == ' ' then scanBlockLines chomping cs (p.advance 1) s
    else if s.inIndent p.column && c == '\t' then none
    else
      let s := s.settle p.column
      if s.indent == some p.column then scanBlockLines chomping cs (p.advance 1) (s.startLine c)
      else some { text := s.finish chomping, rest := c :: cs, pos := p }

/-- Reads a block, from behind its mark, below a parent with the given indentation, which is
negative at the top. -/
def scanBlock (literal : Bool) (parent : Int) (cs : List Char) (p : Position) :
    Option Scanned := do
  let (header, afterHeader) ← blockIndicators cs
  let line ← finishLine afterHeader
  let least := (max (parent + 1) 1).toNat
  let indent := header.increment.map fun n => if 0 ≤ parent then parent.toNat + n else n
  let p := p.advance (cs.length - line.length)
  let s : BlockState := { literal, indent, least }
  match line with
  | [] => scanBlockLines header.chomping [] p s
  | '\r' :: '\n' :: lines => scanBlockLines header.chomping lines (p.newline 2) s
  | _ :: lines => scanBlockLines header.chomping lines (p.newline 1) s

end MeshRoutes.Yaml
