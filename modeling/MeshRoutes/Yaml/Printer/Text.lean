import MeshRoutes.Yaml.Character
import MeshRoutes.Yaml.Value

/-!
# Texts in written YAML

A text is written in the plainest of four forms in which it reads back as itself.

## Main definitions

* `Yaml.Form`: the forms; `Yaml.Form.of`: the form of a text.
* `Yaml.writeText`: a text in its form. Lines behind the first are written without indentation.
* `Yaml.nest`: a text moved to the right.

## Implementation notes

A text with a line feed is written as a literal block if a block can hold it. Any other text that
would be read as something else than a text is quoted.
-/

namespace MeshRoutes.Yaml

/-- How a text is written: as it is, between single quotes, in which only a single quote has to be
doubled, between double quotes, in which any character can be escaped, or as the indented lines
below a mark. -/
inductive Form where
  | plain
  | singleQuoted
  | doubleQuoted
  | literal
deriving DecidableEq, Repr

/-! ## What a text allows -/

/-- Whether a character may stand for itself in a written stream. -/
def isPrintable (c : Char) : Bool :=
  isAllowed c && c != '\t' && c != '\r' && c.toNat != 0x85 && c != byteOrderMark

/-- Whether a plain text would be read as a text. A sign and digits behind a leading zero would,
but are kept apart from numbers all the same. -/
def readsAsText (s : String) : Bool :=
  match Value.ofPlain? s with
  | some (.text _) => !Value.isZeroPadded s.toList
  | _ => false

/-- Whether the start of a text is taken for a mark. -/
def startsWithMark : List Char → Bool
  | '-' :: '-' :: '-' :: _ => true
  | '.' :: '.' :: '.' :: _ => true
  | '-' :: cs => atBlankOrEnd cs
  | '?' :: cs => atBlankOrEnd cs
  | c :: _ => "#,[]\x7b\x7d&*!|>'\"%@`".toList.contains c
  | [] => false

/-- Whether a text holds a colon in front of a blank or the end, or a hash behind a blank. -/
def containsMark : List Char → Bool
  | [] => false
  | c :: cs => (c == ':' && atBlankOrEnd cs) ||
    ((isBlank c || isBreak c) && cs.head? == some '#') || containsMark cs

/-- Whether a character that satisfies `p` stands directly in front of one that satisfies `q`. -/
def hasAdjacent (p q : Char → Bool) : List Char → Bool
  | [] => false
  | c :: cs => (p c && cs.head?.any q) || hasAdjacent p q cs

/-- Whether a text holds no character that needs an escape, and no space at the end of a line. -/
def isWritable (cs : List Char) : Bool :=
  cs.all isPrintable && !hasAdjacent (· == ' ') isBreak cs

/-- Whether a text can be written as it is. -/
def allowsPlain (cs : List Char) : Bool :=
  isWritable cs && !cs.isEmpty && !cs.any isBreak && cs.head? != some ' ' &&
    cs.getLast? != some ' ' && !startsWithMark cs && !containsMark cs

/-- Whether a text can be written between single quotes. -/
def allowsSingleQuoted (cs : List Char) : Bool :=
  isWritable cs && !hasAdjacent isBreak (· == ' ') cs

/-- Whether a text can be written as a block. -/
def allowsLiteral (cs : List Char) : Bool := isWritable cs && cs.getLast? != some ' '

/-- The form of a text. -/
def Form.of (s : String) : Form :=
  let cs := s.toList
  if cs.contains '\n' then if allowsLiteral cs then .literal else .doubleQuoted
  else if readsAsText s && allowsPlain cs then .plain
  else if allowsSingleQuoted cs then .singleQuoted
  else .doubleQuoted

/-! ## The forms -/

/-- The hexadecimal digits of a number, at a fixed width. -/
def hexDigits (width n : Nat) : List Char :=
  (List.range width).reverse.map fun place => Text.upperHexDigit (n / Nat.pow 16 place % 16)

/-- A character as it stands between double quotes. -/
def escapeChar (c : Char) : List Char :=
  let n := c.toNat
  if c == '"' || c == '\\' then ['\\', c]
  else if isPrintable c && !isBreak c then [c]
  else if n == 0x00 then ['\\', '0']
  else if n == 0x07 then ['\\', 'a']
  else if n == 0x08 then ['\\', 'b']
  else if n == 0x09 then ['\\', 't']
  else if n == 0x0A then ['\\', 'n']
  else if n == 0x0B then ['\\', 'v']
  else if n == 0x0C then ['\\', 'f']
  else if n == 0x0D then ['\\', 'r']
  else if n == 0x1B then ['\\', 'e']
  else if n == 0x85 then ['\\', 'N']
  else if n == 0x2028 then ['\\', 'L']
  else if n == 0x2029 then ['\\', 'P']
  else if n ≤ 0xFF then '\\' :: 'x' :: hexDigits 2 n
  else if n ≤ 0xFFFF then '\\' :: 'u' :: hexDigits 4 n
  else '\\' :: 'U' :: hexDigits 8 n

/-- A text between double quotes. -/
def doubleQuoted (cs : List Char) : List Char := ['"'] ++ cs.flatMap escapeChar ++ ['"']

/-- A text between single quotes. -/
def singleQuoted (cs : List Char) : List Char :=
  ['\''] ++ cs.flatMap (fun c => if c == '\'' then ['\'', '\''] else [c]) ++ ['\'']

/-- What stands behind the mark of a block: the indentation if the text starts with a space or an
empty line, and whether the line breaks at its end are all kept or there is none. -/
def literalHints (cs : List Char) : List Char :=
  let indentation := if cs.head?.any (fun c => c == ' ' || isBreak c) then ['2'] else []
  let ending := match cs.reverse with
    | [] => ['-']
    | [c] => if isBreak c then ['+'] else ['-']
    | c :: d :: _ => if !isBreak c then ['-'] else if isBreak d then ['+'] else []
  indentation ++ ending

/-- A text as the lines of a block. -/
def literal (cs : List Char) : List Char := ['|'] ++ literalHints cs ++ ['\n'] ++ cs

/-- A text in its form. -/
def writeText (s : String) : List Char :=
  match Form.of s with
  | .plain => s.toList
  | .singleQuoted => singleQuoted s.toList
  | .doubleQuoted => doubleQuoted s.toList
  | .literal => literal s.toList

/-! ## Lines -/

/-- The text with the line ended, unless a line break ends it already. -/
def endLine (cs : List Char) : List Char :=
  if cs.getLast?.any isBreak then cs else cs ++ ['\n']

/-- The text with every line that is not empty moved to the right. The first line is moved if
`atStart` holds. -/
def nest (columns : Nat) : Bool → List Char → List Char
  | _, [] => []
  | atStart, c :: cs =>
    if isBreak c then c :: nest columns true cs
    else if atStart then List.replicate columns ' ' ++ c :: nest columns false cs
    else c :: nest columns false cs

end MeshRoutes.Yaml
