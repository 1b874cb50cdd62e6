import MeshRoutes.Json.Basic

/-!
# Reading JSON text

`Json.parse?` reads exactly one document. Collections nest at most 127 deep, a repeated field
takes its last value and its first place, escapes must denote characters (a lone half of a
surrogate pair denotes none), and a number must not exceed the range of a 64-bit float.

Each step of the reader hands on what is left of the text together with the fact that it is
shorter, so the recursion ends with the text.
-/

namespace MeshRoutes.Json

/-- What is left of a text after something was read from it: fewer characters. -/
structure Rest (text : List Char) where
  chars : List Char
  shorter : chars.length < text.length

/-- A value read from the front of a text, with what is left. -/
abbrev Reading (α : Type) (text : List Char) := Option (α × Rest text)

/-- The rest of a suffix is a rest of the longer text. -/
def Rest.extend {text suffix : List Char} (rest : Rest suffix)
    (h : suffix.length ≤ text.length) : Rest text :=
  ⟨rest.chars, Nat.lt_of_lt_of_le rest.shorter h⟩

/-- The blanks that may stand between tokens. -/
def isBlank (c : Char) : Bool := c == ' ' || c == '\t' || c == '\n' || c == '\r'

/-- Drops leading blanks. -/
def skipBlanks : List Char → List Char
  | [] => []
  | c :: cs => if isBlank c then skipBlanks cs else c :: cs

theorem length_skipBlanks_le (cs : List Char) : (skipBlanks cs).length ≤ cs.length := by
  induction cs with
  | nil => simp [skipBlanks]
  | cons c cs ih =>
    unfold skipBlanks
    split
    · exact Nat.le_trans ih (Nat.le_succ _)
    · exact Nat.le_refl _

/-! ## Texts -/

/-- The value of four hexadecimal digits. -/
def fourHex? (a b c d : Char) : Option Nat := Text.digitsValue? 16 [a, b, c, d]

/-- Whether a 16-bit unit is the first half of a surrogate pair. -/
def isLeading (unit : Nat) : Bool := 0xD800 ≤ unit && unit ≤ 0xDBFF

/-- Whether a 16-bit unit is the second half of a surrogate pair. -/
def isTrailing (unit : Nat) : Bool := 0xDC00 ≤ unit && unit ≤ 0xDFFF

/-- The character of a surrogate pair. -/
def pairChar (leading trailing : Nat) : Char :=
  Char.ofNat (0x10000 + (leading - 0xD800) * 0x400 + (trailing - 0xDC00))

/-- The character that a one-letter escape stands for. -/
def shortEscape? : Char → Option Char
  | '"' => some '"'
  | '\\' => some '\\'
  | '/' => some '/'
  | 'b' => some (Char.ofNat 8)
  | 'f' => some (Char.ofNat 12)
  | 'n' => some '\n'
  | 'r' => some '\r'
  | 't' => some '\t'
  | _ => none

/-- One character or escape of a quoted text, or `none` in its place for the closing quote. -/
def quotedChar (text : List Char) : Reading (Option Char) text :=
  match text with
  | [] => none
  | '"' :: cs => some (none, ⟨cs, by simp⟩)
  | '\\' :: 'u' :: a :: b :: c :: d :: cs => do
    let unit ← fourHex? a b c d
    if isLeading unit then
      match hcs : cs with
      | '\\' :: 'u' :: e :: f :: g :: h :: cs' =>
        let second ← fourHex? e f g h
        if isTrailing second then
          some (some (pairChar unit second), ⟨cs', by simp [hcs]; omega⟩)
        else none
      | _ => none
    else if isTrailing unit then none
    else some (some (Char.ofNat unit), ⟨cs, by simp only [List.length_cons]; omega⟩)
  | '\\' :: c :: cs =>
    (shortEscape? c).map fun e => (some e, ⟨cs, by simp only [List.length_cons]; omega⟩)
  | c :: cs => if c.toNat < 32 then none else some (some c, ⟨cs, by simp⟩)

/-- The characters of a quoted text up to its closing quote. -/
def quotedChars (text : List Char) : Reading (List Char) text :=
  match quotedChar text with
  | none => none
  | some (none, rest) => some ([], rest)
  | some (some c, rest) =>
    match quotedChars rest.chars with
    | none => none
    | some (cs, rest') => some (c :: cs, rest'.extend (Nat.le_of_lt rest.shorter))
termination_by text.length
decreasing_by exact rest.shorter

/-! ## Numbers -/

/-- The value of the digits of a whole number, which beyond 64 bits is a decimal. A negative zero
is one too, for only a decimal can hold its sign. -/
def wholeNumber (negative : Bool) (digits : List Char) : Option Json :=
  let n := Text.decimalValue digits
  let large := Decimal.ofDigits negative digits 0
  if negative then
    if n != 0 && n ≤ Nat.pow 2 63 then some (int (-n))
    else if large.isFinite then some (decimal large) else none
  else if n < Nat.pow 2 64 then some (int n)
  else if large.isFinite then some (decimal large) else none

/-- A number. Its whole part has no leading zero, and a point or an exponent mark is followed by
a digit. -/
def number? (text : List Char) : Option (Json × List Char) :=
  let negative := text.head? == some '-'
  let unsigned := if negative then text.tail else text
  let whole := unsigned.takeWhile Char.isDigit
  let afterWhole := unsigned.dropWhile Char.isDigit
  if whole.isEmpty || (whole.head? == some '0' && whole.length != 1) then none
  else
    let pointed := afterWhole.head? == some '.'
    let fraction := if pointed then afterWhole.tail.takeWhile Char.isDigit else []
    let afterFraction := if pointed then afterWhole.tail.dropWhile Char.isDigit else afterWhole
    if pointed && fraction.isEmpty then none
    else
      let marked := afterFraction.head? == some 'e' || afterFraction.head? == some 'E'
      let signed := if marked then afterFraction.tail else afterFraction
      let down := marked && signed.head? == some '-'
      let up := marked && signed.head? == some '+'
      let power := if down || up then signed.tail else signed
      let powerDigits := if marked then power.takeWhile Char.isDigit else []
      let rest := if marked then power.dropWhile Char.isDigit else afterFraction
      if marked && powerDigits.isEmpty then none
      else if !pointed && !marked then (wholeNumber negative whole).map (·, rest)
      else
        let power := Text.decimalValue powerDigits
        let exponent : Int := (if down then -(power : Int) else power) - fraction.length
        let x := Decimal.ofDigits negative (whole ++ fraction) exponent
        if x.isFinite then some (decimal x, rest) else none

/-! ## Documents -/

/-- The fields with one more at the end; a name that is there already takes the new value. -/
def setField (fields : List (String × Json)) (name : String) (value : Json) :
    List (String × Json) :=
  if fields.any (·.1 == name) then
    fields.map fun field => if field.1 == name then (name, value) else field
  else fields ++ [(name, value)]

/-- The rest of a text after a word it starts with. -/
def afterWord? (word : List Char) (text : List Char) : Option (List Char) :=
  if word.isPrefixOf text then some (text.drop word.length) else none

/-- The document of a literal word or a number. -/
def scalar? (text : List Char) : Option (Json × List Char) :=
  match afterWord? "null".toList text, afterWord? "true".toList text,
      afterWord? "false".toList text with
  | some rest, _, _ => some (null, rest)
  | _, some rest, _ => some (bool true, rest)
  | _, _, some rest => some (bool false, rest)
  | none, none, none => number? text

mutual

/-- The document at the front of a text. At most `depth` collections may be open around its
innermost part. -/
def readValue (depth : Nat) (text : List Char) : Reading Json text :=
  match text with
  | '"' :: cs =>
    (quotedChars cs).map fun (s, rest) => (str (String.ofList s), rest.extend (by simp))
  | '[' :: cs =>
    if depth = 0 then none
    else
      match hb : skipBlanks cs with
      | ']' :: rest => some (arr [], ⟨rest, by
          have := length_skipBlanks_le cs; rw [hb] at this; simp at *; omega⟩)
      | _ => (readItems (depth - 1) cs).map fun (items, rest) => (arr items, rest.extend (by simp))
  | '\x7b' :: cs =>
    if depth = 0 then none
    else
      match hb : skipBlanks cs with
      | '\x7d' :: rest => some (obj [], ⟨rest, by
          have := length_skipBlanks_le cs; rw [hb] at this; simp at *; omega⟩)
      | _ => (readFields (depth - 1) [] cs).map fun (fields, rest) =>
          (obj fields, rest.extend (by simp))
  | other =>
    match scalar? other with
    | some (value, rest) => if h : rest.length < other.length then some (value, ⟨rest, h⟩) else none
    | none => none
termination_by (text.length, 1)

/-- The elements of a sequence up to its closing bracket. -/
def readItems (depth : Nat) (text : List Char) : Reading (List Json) text :=
  match readValue depth (skipBlanks text) with
  | none => none
  | some (item, rest) =>
    match hb : skipBlanks rest.chars with
    | ']' :: rest' => some ([item], ⟨rest', by
        have := length_skipBlanks_le rest.chars; have := rest.shorter
        have := length_skipBlanks_le text; rw [hb] at *; simp at *; omega⟩)
    | ',' :: rest' =>
      match readItems depth rest' with
      | none => none
      | some (items, rest'') => some (item :: items, rest''.extend (by
          have := length_skipBlanks_le rest.chars; have := rest.shorter
          have := length_skipBlanks_le text; rw [hb] at *; simp at *; omega))
    | _ => none
termination_by (text.length, 2)
decreasing_by
  · have := length_skipBlanks_le text
    rcases Nat.lt_or_eq_of_le this with h | h
    · exact Prod.Lex.left _ _ h
    · rw [h]; exact Prod.Lex.right _ (by omega)
  · apply Prod.Lex.left
    have := length_skipBlanks_le rest.chars; have := rest.shorter
    have := length_skipBlanks_le text; rw [hb] at *; simp at *; omega

/-- The fields of an object up to its closing brace, added to those read before. -/
def readFields (depth : Nat) (before : List (String × Json)) (text : List Char) :
    Reading (List (String × Json)) text :=
  match hq : skipBlanks text with
  | '"' :: cs =>
    match quotedChars cs with
    | none => none
    | some (name, afterName) =>
      match hc : skipBlanks afterName.chars with
      | ':' :: afterColon =>
        match readValue depth (skipBlanks afterColon) with
        | none => none
        | some (value, rest) =>
          let fields := setField before (String.ofList name) value
          match hb : skipBlanks rest.chars with
          | '\x7d' :: rest' => some (fields, ⟨rest', by
              have := length_skipBlanks_le text; have := afterName.shorter
              have := length_skipBlanks_le afterName.chars
              have := length_skipBlanks_le afterColon; have := rest.shorter
              have := length_skipBlanks_le rest.chars
              rw [hq] at *; rw [hc] at *; rw [hb] at *; simp at *; omega⟩)
          | ',' :: rest' =>
            match readFields depth fields rest' with
            | none => none
            | some (fields', rest'') => some (fields', rest''.extend (by
                have := length_skipBlanks_le text; have := afterName.shorter
                have := length_skipBlanks_le afterName.chars
                have := length_skipBlanks_le afterColon; have := rest.shorter
                have := length_skipBlanks_le rest.chars
                rw [hq] at *; rw [hc] at *; rw [hb] at *; simp at *; omega))
          | _ => none
      | _ => none
  | _ => none
termination_by (text.length, 2)
decreasing_by
  · apply Prod.Lex.left
    have := length_skipBlanks_le text; have := afterName.shorter
    have := length_skipBlanks_le afterName.chars
    have := length_skipBlanks_le afterColon
    rw [hq] at *; rw [hc] at *; simp at *; omega
  · apply Prod.Lex.left
    have := length_skipBlanks_le text; have := afterName.shorter
    have := length_skipBlanks_le afterName.chars
    have := length_skipBlanks_le afterColon; have := rest.shorter
    have := length_skipBlanks_le rest.chars
    rw [hq] at *; rw [hc] at *; rw [hb] at *; simp at *; omega

end

/-- The one document that a text holds, blanks around it aside. -/
def parse? (text : String) : Option Json :=
  match readValue 127 (skipBlanks text.toList) with
  | some (value, rest) => if (skipBlanks rest.chars).isEmpty then some value else none
  | none => none

end MeshRoutes.Json
