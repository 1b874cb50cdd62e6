/-!
# Characters of YAML streams

The classes of characters that the syntax tells apart, and positions in a stream. A carriage
return followed by a line feed is one line break.

## Main definitions

* `Yaml.isAllowed`: the characters a stream may hold.
* `Yaml.isBreak`, `Yaml.isBlank`, `Yaml.isWordChar`.
* `Yaml.atBlankOrEnd`, `Yaml.atDocumentMark`: what stands at the front of the rest of a stream.
* `Yaml.Position`: how far a stream has been read.
-/

namespace MeshRoutes.Yaml

/-- The byte order mark. -/
def byteOrderMark : Char := Char.ofNat 0xFEFF

/-- Whether a stream may hold the character: tab, line breaks and every character that is not a
control character, a surrogate or one of the last two of the basic plane. -/
def isAllowed (c : Char) : Bool :=
  let n := c.toNat
  n == 0x09 || n == 0x0A || n == 0x0D || (0x20 ≤ n && n ≤ 0x7E) || n == 0x85 ||
    (0xA0 ≤ n && n ≤ 0xD7FF) || (0xE000 ≤ n && n ≤ 0xFFFD) || 0x10000 ≤ n

/-- Whether the character ends a line. -/
def isBreak (c : Char) : Bool :=
  c == '\n' || c == '\r' || c.toNat == 0x85 || c.toNat == 0x2028 || c.toNat == 0x2029

/-- Whether the character separates within a line. -/
def isBlank (c : Char) : Bool := c == ' ' || c == '\t'

/-- Whether the character may stand in the name of an anchor, a directive or a tag handle. -/
def isWordChar (c : Char) : Bool := c.isAlphanum || c == '_' || c == '-'

/-- The line break as it enters a text: the two separators of paragraphs and lines stand for
themselves, every other break becomes a line feed. -/
def normalBreak (c : Char) : Char :=
  if c.toNat == 0x2028 || c.toNat == 0x2029 then c else '\n'

/-- Whether a blank, a line break or the end stands at the front. -/
def atBlankOrEnd : List Char → Bool
  | [] => true
  | c :: _ => isBlank c || isBreak c

/-- Whether the mark of a document start or end stands at the front. -/
def atDocumentMark : List Char → Bool
  | '-' :: '-' :: '-' :: cs => atBlankOrEnd cs
  | '.' :: '.' :: '.' :: cs => atBlankOrEnd cs
  | _ => false

/-- How far a stream has been read: the characters, the line breaks, and the characters since the
last of these. -/
structure Position where
  index : Nat
  line : Nat
  column : Nat
deriving DecidableEq, Repr

namespace Position

/-- The position after a number of characters of one line. -/
def advance (p : Position) (count : Nat) : Position :=
  { p with index := p.index + count, column := p.column + count }

/-- The position after a line break of a number of characters. -/
def newline (p : Position) (count : Nat) : Position :=
  { index := p.index + count, line := p.line + 1, column := 0 }

end Position

end MeshRoutes.Yaml
