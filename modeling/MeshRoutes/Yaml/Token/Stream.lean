import MeshRoutes.Yaml.Token.Basic
import MeshRoutes.Yaml.Token.Scalar

/-!
# From a stream to its tokens

`Yaml.tokens?` turns the characters of a stream into tokens, or into `none` where they do not form
any. Outside of brackets and braces the columns matter: a key or a dash further to the right opens
a collection, anything further to the left closes it.

A key is recognised by the colon behind it. So when something that may be a key has been read, its
place among the tokens is kept as pending, and the mark of the key is put there when the colon
comes. A pending key ends with its line and after 1024 characters; where only a key may stand, a
missing colon is an error.

## Main definitions

* `Yaml.PendingKey`, `Yaml.Scanner`: the state between two tokens.
* `Scanner.next?`: one token, with the marks that its column implies.
* `Yaml.tokens?`: all tokens of a stream.
-/

namespace MeshRoutes.Yaml

/-- A place among the tokens, counted by those in front of it, at which a key may turn out to start.
Nothing but a key may stand at a place that is required to be one. -/
structure PendingKey where
  place : Nat
  pos : Position
  required : Bool

/-- The state between two tokens. The innermost indented collection has its column, negative outside
of all, and so have those around it, innermost first. There is one pending key outside of brackets
and braces and one in each of the open ones, innermost first. -/
structure Scanner where
  rest : List Char
  pos : Position := ⟨0, 0, 0⟩
  indent : Int := -1
  outer : List Int := []
  flow : Nat := 0
  keyAllowed : Bool := true
  keys : List (Option PendingKey) := [none]
  tokens : Array Token := #[]

namespace Scanner

/-- The column of the next character. -/
def column (s : Scanner) : Int := s.pos.column

/-- The scanner with a token added. -/
def push (s : Scanner) (token : Token) : Scanner := { s with tokens := s.tokens.push token }

/-- The scanner with a number of characters of the line read. -/
def skip (s : Scanner) (count : Nat) : Scanner :=
  { s with rest := s.rest.drop count, pos := s.pos.advance count }

/-- The scanner with a token put at a place among those read before. -/
def insert (s : Scanner) (place : Nat) (token : Token) : Scanner :=
  { s with tokens := s.tokens.insertIdxIfInBounds place token }

/-! ## Pending keys -/

/-- The pending key of the innermost brackets or braces. -/
def pending (s : Scanner) : Option PendingKey := s.keys.headD none

/-- The scanner with another pending key. -/
def setPending (s : Scanner) (key : Option PendingKey) : Scanner :=
  { s with keys := key :: s.keys.tail }

/-- Gives up the pending key, unless a key was required. -/
def dropPending (s : Scanner) : Option Scanner :=
  if s.pending.any (·.required) then none else some (s.setPending none)

/-- Takes note that a key may start here. -/
def savePending (s : Scanner) : Option Scanner :=
  if s.keyAllowed then do
    let required := s.flow == 0 && s.indent == s.column
    let s ← s.dropPending
    return s.setPending (some { place := s.tokens.size, pos := s.pos, required })
  else some s

/-- Whether the colon of a pending key would come too late. -/
def isStale (s : Scanner) (key : PendingKey) : Bool :=
  key.pos.line < s.pos.line || key.pos.index + 1024 < s.pos.index

/-- Gives up every pending key whose colon would come too late, unless a key was required. -/
def dropStale (s : Scanner) : Option Scanner :=
  if s.keys.any (·.any fun key => s.isStale key && key.required) then none
  else some { s with keys := s.keys.map fun key => key.filter (!s.isStale ·) }

/-! ## Indentation -/

/-- Opens an indented collection at a column to the right of the one around it. Its token is put
at the given place. -/
def openIndent (s : Scanner) (column : Int) (place : Nat) (token : Token) : Scanner :=
  if s.flow == 0 && s.indent < column then
    { s.insert place token with indent := column, outer := s.indent :: s.outer }
  else s

/-- Closes the indented collections to the right of a column, among the given outer ones. -/
def closeIndents (column : Int) : List Int → Int → Array Token → Int × List Int × Array Token
  | [], indent, tokens => (indent, [], tokens)
  | next :: outer, indent, tokens =>
    if column < indent then closeIndents column outer next (tokens.push .blockEnd)
    else (indent, next :: outer, tokens)

/-- Closes the indented collections to the right of a column. -/
def closeIndent (s : Scanner) (column : Int) : Scanner :=
  if s.flow == 0 then
    let (indent, outer, tokens) := closeIndents column s.outer s.indent s.tokens
    { s with indent, outer, tokens }
  else s

/-! ## Between tokens -/

/-- Skips blanks, comments and line breaks. Outside of brackets and braces a line break allows a
key again, and where a key is allowed a tab is no blank. -/
def skipGap (flow : Bool) (comment allowed : Bool) :
    List Char → Position → List Char × Position × Bool
  | [], p => ([], p, allowed)
  | '\r' :: '\n' :: cs, p => skipGap flow false (allowed || !flow) cs (p.newline 2)
  | c :: cs, p =>
    if isBreak c then skipGap flow false (allowed || !flow) cs (p.newline 1)
    else if comment || c == ' ' || ((flow || !allowed) && c == '\t') ||
        (c == byteOrderMark && p.column == 0) then
      skipGap flow comment allowed cs (p.advance 1)
    else if c == '#' then skipGap flow true allowed cs (p.advance 1)
    else (c :: cs, p, allowed)

/-- The scanner in front of the next token, with the collections closed that end there. -/
def toToken (s : Scanner) : Option Scanner := do
  let (rest, pos, keyAllowed) := skipGap (s.flow != 0) false s.keyAllowed s.rest s.pos
  let s ← dropStale { s with rest, pos, keyAllowed }
  return s.closeIndent s.column

/-! ## Directives, anchors and tags -/

/-- A number of at most nine digits. -/
def versionNumber? (cs : List Char) : Option (Nat × List Char) :=
  let digits := cs.takeWhile Char.isDigit
  if digits.isEmpty || 9 < digits.length then none
  else some (Text.decimalValue digits, cs.dropWhile Char.isDigit)

/-- A tag handle. In a directive it is a single exclamation mark or ends with one. -/
def handle? (directive : Bool) : List Char → Option (List Char × List Char)
  | '!' :: cs =>
    let word := cs.takeWhile isWordChar
    match cs.dropWhile isWordChar with
    | '!' :: cs' => some ('!' :: word ++ ['!'], cs')
    | cs' => if directive && !word.isEmpty then none else some ('!' :: word, cs')
  | _ => none

/-- Whether the character may stand in a tag. Brackets and commas may only in a full one. -/
def isTagChar (full : Bool) (c : Char) : Bool :=
  isWordChar c || ";/?:@&=+$.!~*'()".toList.contains c || (full && ",[]".toList.contains c)

/-- The bytes of a tag, in which a byte may be written as two hexadecimal digits. -/
def tagBytes (full : Bool) : List Char → List UInt8 → Option (List UInt8 × List Char)
  | '%' :: a :: b :: cs, bytes => do
    let byte ← Text.digitsValue? 16 [a, b]
    tagBytes full cs (UInt8.ofNat byte :: bytes)
  | '%' :: _, _ => none
  | c :: cs, bytes =>
    if isTagChar full c then tagBytes full cs (UInt8.ofNat c.toNat :: bytes)
    else some (bytes.reverse, c :: cs)
  | [], bytes => some (bytes.reverse, [])

/-- The text of a tag behind what was read of it before; together they are not empty. -/
def tagText? (full : Bool) (before cs : List Char) : Option (String × List Char) := do
  let (bytes, rest) ← tagBytes full cs []
  let text ← String.fromUTF8? ⟨bytes.toArray⟩
  if before.isEmpty && text.isEmpty then none
  else some (String.ofList (before.drop 1) ++ text, rest)

/-- A directive, from behind its mark, with what is left of the stream. -/
def directive? (cs : List Char) : Option (Token × List Char) := do
  let name := String.ofList (cs.takeWhile isWordChar)
  let afterName := cs.dropWhile isWordChar
  if name == "YAML" && atBlankOrEnd afterName then do
    let (major, afterMajor) ← versionNumber? (afterName.dropWhile isBlank)
    let '.' :: afterPoint := afterMajor | none
    let (minor, rest) ← versionNumber? afterPoint
    return (.version major minor, rest)
  else if name == "TAG" && atBlankOrEnd afterName then do
    let (handle, afterHandle) ← handle? true (afterName.dropWhile isBlank)
    let c :: _ := afterHandle | none
    if !isBlank c then none
    else
      let (meaning, rest) ← tagText? true [] (afterHandle.dropWhile isBlank)
      if atBlankOrEnd rest then return (.tagHandle (String.ofList handle) meaning, rest) else none
  else none

/-- A tag, from its mark on, with what is left of the stream. -/
def tag? (flow : Bool) (cs : List Char) : Option (Token × List Char) := do
  let (token, rest) ← match cs with
    | '!' :: '<' :: cs' => do
      let (suffix, rest) ← tagText? true [] cs'
      let '>' :: rest := rest | none
      return (Token.tag "" suffix, rest)
    | _ => do
      let (handle, cs') ← handle? false cs
      if 1 < handle.length && handle.getLast? == some '!' then do
        let (suffix, rest) ← tagText? false [] cs'
        return (Token.tag (String.ofList handle) suffix, rest)
      else do
        let (suffix, rest) ← tagText? false handle cs'
        return (if suffix.isEmpty then Token.tag "" "!" else Token.tag "!" suffix, rest)
  if atBlankOrEnd rest || (flow && rest.head? == some ',') then return (token, rest) else none

/-- The name of an anchor or an alias, from behind its mark, with what is left of the stream. -/
def anchorName? (cs : List Char) : Option (String × List Char) :=
  let name := cs.takeWhile isWordChar
  let rest := cs.dropWhile isWordChar
  let ends := atBlankOrEnd rest || rest.head?.any ("?:,]\x7d%@`".toList.contains ·)
  if name.isEmpty || !ends then none else some (String.ofList name, rest)

/-! ## Tokens -/

/-- The scanner with what is left after something of the line was read. -/
def leave (s : Scanner) (rest : List Char) : Scanner := s.skip (s.rest.length - rest.length)

/-- The scanner after a text. -/
def afterText (s : Scanner) (scanned : Scanned) (style : Style) : Scanner :=
  { s with rest := scanned.rest, pos := scanned.pos }.push
    (.scalar (String.ofList scanned.text) style)

/-- Ends the stream. -/
def streamEnd (s : Scanner) : Option Scanner := do
  let s ← (s.closeIndent (-1)).dropPending
  return s.push .streamEnd

/-- Reads a directive with the rest of its line. -/
def directive (s : Scanner) : Option Scanner := do
  let s ← (s.closeIndent (-1)).dropPending
  let (token, afterToken) ← directive? (s.rest.drop 1)
  let rest ← finishLine afterToken
  return ({ s with keyAllowed := false }.leave rest).push token

/-- Reads the mark of a document start or end. -/
def documentMark (s : Scanner) (token : Token) : Option Scanner := do
  let s ← (s.closeIndent (-1)).dropPending
  return ({ s with keyAllowed := false }.skip 3).push token

/-- Reads an opening bracket or brace. -/
def openFlow (s : Scanner) (token : Token) : Option Scanner := do
  let s ← s.savePending
  return ({ s with keys := none :: s.keys, flow := s.flow + 1, keyAllowed := true }.skip 1).push
    token

/-- Reads a closing bracket or brace. -/
def closeFlow (s : Scanner) (token : Token) : Option Scanner := do
  let s ← s.dropPending
  let s := if s.flow == 0 then s else { s with flow := s.flow - 1, keys := s.keys.tail }
  return ({ s with keyAllowed := false }.skip 1).push token

/-- Reads a comma. -/
def flowEntry (s : Scanner) : Option Scanner := do
  let s ← s.dropPending
  return ({ s with keyAllowed := true }.skip 1).push .flowEntry

/-- Reads the dash of an element. -/
def blockEntry (s : Scanner) : Option Scanner := do
  if s.flow == 0 && !s.keyAllowed then none
  else
    let s ← (s.openIndent s.column s.tokens.size .blockSequenceStart).dropPending
    return ({ s with keyAllowed := true }.skip 1).push .blockEntry

/-- Reads the explicit mark of a key. -/
def explicitKey (s : Scanner) : Option Scanner := do
  if s.flow == 0 && !s.keyAllowed then none
  else
    let s ← (s.openIndent s.column s.tokens.size .blockMappingStart).dropPending
    return ({ s with keyAllowed := s.flow == 0 }.skip 1).push .key

/-- Reads the colon of a value, which settles the pending key. -/
def value (s : Scanner) : Option Scanner :=
  match s.pending with
  | some key =>
    let s := (s.insert key.place .key).openIndent key.pos.column key.place .blockMappingStart
    some (({ s.setPending none with keyAllowed := false }.skip 1).push .value)
  | none =>
    if s.flow == 0 && !s.keyAllowed then none
    else
      let s := s.openIndent s.column s.tokens.size .blockMappingStart
      some (({ s with keyAllowed := s.flow == 0 }.skip 1).push .value)

/-- Reads an anchor or an alias. -/
def anchor (s : Scanner) (token : String → Token) : Option Scanner := do
  let s ← s.savePending
  let (name, rest) ← anchorName? (s.rest.drop 1)
  return ({ s with keyAllowed := false }.leave rest).push (token name)

/-- Reads a tag. -/
def tag (s : Scanner) : Option Scanner := do
  let s ← s.savePending
  let (token, rest) ← tag? (s.flow != 0) s.rest
  return ({ s with keyAllowed := false }.leave rest).push token

/-- Reads a block. -/
def blockText (s : Scanner) (literal : Bool) : Option Scanner := do
  let s ← s.dropPending
  let scanned ← scanBlock literal s.indent (s.rest.drop 1) (s.pos.advance 1)
  return { s with keyAllowed := true }.afterText scanned .quoted

/-- Reads a text in quotes. -/
def quotedText (s : Scanner) (single : Bool) : Option Scanner := do
  let s ← s.savePending
  let scanned ← if single then scanSingleQuoted (s.rest.drop 1) (s.pos.advance 1) [] {}
    else scanDoubleQuoted (s.rest.drop 1) (s.pos.advance 1) [] {}
  return { s with keyAllowed := false }.afterText scanned .quoted

/-- Reads a plain text. -/
def plainText (s : Scanner) : Option Scanner := do
  let s ← s.savePending
  let scanned ← scanPlain (s.flow != 0) (s.indent + 1).toNat s.rest s.pos [] {} false
  return { s with keyAllowed := scanned.broken }.afterText scanned .plain

/-- Whether a plain text may start with a character before the given ones. -/
def startsPlain (flow : Bool) (c : Char) (cs : List Char) : Bool :=
  !(isBlank c || isBreak c || "-?:,[]\x7b\x7d#&*!|>'\"%@`".toList.contains c) ||
    (c == '-' && !cs.head?.any isBlank) ||
    (!flow && (c == '?' || c == ':') && !atBlankOrEnd cs)

/-- Reads the next token, with the scanner in front of it. -/
def token (s : Scanner) : Option Scanner :=
  let flow := s.flow != 0
  match s.rest with
  | [] => s.streamEnd
  | c :: cs =>
    if s.pos.column == 0 && c == '%' then s.directive
    else if s.pos.column == 0 && atDocumentMark (c :: cs) then
      s.documentMark (if c == '-' then .documentStart else .documentEnd)
    else if c == '[' then s.openFlow .flowSequenceStart
    else if c == '\x7b' then s.openFlow .flowMappingStart
    else if c == ']' then s.closeFlow .flowSequenceEnd
    else if c == '\x7d' then s.closeFlow .flowMappingEnd
    else if c == ',' then s.flowEntry
    else if c == '-' && atBlankOrEnd cs then s.blockEntry
    else if c == '?' && (flow || atBlankOrEnd cs) then s.explicitKey
    else if c == ':' && (flow || atBlankOrEnd cs) then s.value
    else if c == '*' then s.anchor .alias
    else if c == '&' then s.anchor .anchor
    else if c == '!' then s.tag
    else if c == '|' && !flow then s.blockText true
    else if c == '>' && !flow then s.blockText false
    else if c == '\'' then s.quotedText true
    else if c == '"' then s.quotedText false
    else if startsPlain flow c cs then s.plainText
    else none

/-- Skips to the next token and reads it. -/
def next? (s : Scanner) : Option Scanner := s.toToken.bind token

/-- Reads tokens up to the end of the stream, but no more than the given number. -/
def run : Nat → Scanner → Option (List Token)
  | 0, _ => none
  | limit + 1, s =>
    match s.next? with
    | none => none
    | some s => if s.tokens.back? == some .streamEnd then some s.tokens.toList else run limit s

end Scanner

/-- The tokens of a stream. Every token but the last one takes at least one character. -/
def tokens? (stream : List Char) : Option (List Token) :=
  if stream.all isAllowed then Scanner.run (stream.length + 1) { rest := stream } else none

end MeshRoutes.Yaml
