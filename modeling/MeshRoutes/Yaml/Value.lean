import MeshRoutes.Float64
import MeshRoutes.Document
import MeshRoutes.Yaml.Node

/-!
# Values of YAML nodes

What a node means: a plain text may be the absent value, a truth value or a number; every other
text is a text. Aliases are replaced by the nodes they refer to, and a mapping has no key twice.

## Main definitions

* `Yaml.Value`: the value of a node. Keys may be any values, and a value may carry a tag.
* `Yaml.Value.ofPlain?`: the value of a plain text.
* `Yaml.Value.ofNode?`: the value of a document.
* The `Document` instance: a value as a source of routes. The absent value counts as an empty
  sequence or mapping, tags are ignored, and records have field names.
-/

namespace MeshRoutes.Yaml

/-- The value of a node. Whole numbers have at most 64 bits, and any other number is the bits of a
float. Keys may be any values, in the order of the mapping. -/
inductive Value where
  | null
  | bool (b : Bool)
  | int (n : Int)
  | float (bits : UInt64)
  | text (s : String)
  | sequence (items : List Value)
  | mapping (pairs : List (Value × Value))
  | tagged (tag : String) (value : Value)
deriving Inhabited, Repr

namespace Value

/-! ## Equality -/

mutual

/-- Whether two values are the same as keys. The order of a mapping does not matter, and the two
zeros of floats are the same. -/
def same : Value → Value → Bool
  | null, null => true
  | bool a, bool b => a == b
  | int m, int n => m == n
  | float a, float b => a == b || (a <<< 1 == 0 && b <<< 1 == 0)
  | text s, text t => s == t
  | sequence as, sequence bs => sameItems as bs
  | mapping as, mapping bs => as.length == bs.length && samePairs as bs
  | tagged s a, tagged t b => s == t && same a b
  | _, _ => false

/-- Whether two sequences of values are the same. -/
def sameItems : List Value → List Value → Bool
  | [], [] => true
  | a :: as, b :: bs => same a b && sameItems as bs
  | _, _ => false

/-- Whether every pair is found among the others. -/
def samePairs : List (Value × Value) → List (Value × Value) → Bool
  | [], _ => true
  | (k, v) :: as, bs => foundIn k v bs && samePairs as bs

/-- Whether a pair is found among others. -/
def foundIn (k v : Value) : List (Value × Value) → Bool
  | [] => false
  | (k', v') :: bs => (same k k' && same v v') || foundIn k v bs

end

/-! ## Plain texts -/

/-- The digits of a number behind its sign, and whether the sign is a minus. -/
def splitSign : List Char → Bool × List Char
  | '-' :: cs => (true, cs)
  | '+' :: cs => (false, cs)
  | cs => (false, cs)

/-- Whether the text consists of digits, more than one and the first a zero, behind an optional
sign. Such a text is no number. -/
def isZeroPadded (cs : List Char) : Bool :=
  let digits := (splitSign cs).2
  1 < digits.length && digits.head? == some '0' && digits.all Char.isDigit

/-- A whole number: an optional sign and digits, in base sixteen, eight or two behind `0x`, `0o` or
`0b`. -/
def wholeNumber? (cs : List Char) : Option Int :=
  let (negative, digits) := splitSign cs
  let magnitude := match digits with
    | '0' :: 'x' :: ds => Text.digitsValue? 16 ds
    | '0' :: 'o' :: ds => Text.digitsValue? 8 ds
    | '0' :: 'b' :: ds => Text.digitsValue? 2 ds
    | ds => if isZeroPadded cs then none else Text.digitsValue? 10 ds
  magnitude.map fun n => if negative then -(n : Int) else n

/-- The fraction and the exponent of a number, behind its whole part: the digits of the fraction,
whether a point was there, and the exponent. -/
def fractionAndExponent? (cs : List Char) : Option (List Char × Int) :=
  let pointed := cs.head? == some '.'
  let fraction := if pointed then cs.tail.takeWhile Char.isDigit else []
  let rest := if pointed then cs.tail.dropWhile Char.isDigit else cs
  match rest with
  | [] => some (fraction, 0)
  | mark :: power =>
    if mark == 'e' || mark == 'E' then
      let (negative, digits) := splitSign power
      if digits.all Char.isDigit then
        (Text.digitsValue? 10 digits).map fun n =>
          (fraction, if negative then -(n : Int) else n)
      else none
    else none

/-- A number with a fraction or an exponent that a float can hold. There is a digit before or
behind the point. -/
def decimal? (cs : List Char) : Option Decimal := do
  let (negative, digits) := splitSign cs
  let whole := digits.takeWhile Char.isDigit
  let (fraction, exponent) ← fractionAndExponent? (digits.dropWhile Char.isDigit)
  let x := Decimal.ofDigits negative (whole ++ fraction) (exponent - fraction.length)
  if (whole.isEmpty && fraction.isEmpty) || !x.isFinite then none else some x

/-- The bits of the float that a text denotes. -/
def floatBits? (cs : List Char) : Option UInt64 :=
  let s := String.ofList cs
  let unsigned := String.ofList (splitSign cs).2
  if unsigned == ".inf" || unsigned == ".Inf" || unsigned == ".INF" then
    some (if (splitSign cs).1 then 0xFFF0000000000000 else 0x7FF0000000000000)
  else if s == ".nan" || s == ".NaN" || s == ".NAN" then some 0x7FF8000000000000
  else (decimal? cs).map Decimal.toBits

/-- The words for the absent value. -/
def isNullWord (s : String) : Bool := s == "null" || s == "Null" || s == "NULL" || s == "~"

/-- The truth value that a word stands for. -/
def boolWord? (s : String) : Option Bool :=
  if s == "true" || s == "True" || s == "TRUE" then some true
  else if s == "false" || s == "False" || s == "FALSE" then some false
  else none

/-- How far a whole number can be held: in 64 bits, with or without sign, or in 128 bits only, for
which there is no value, or not at all, so that the text may be a float. -/
inductive IntRange where
  | word
  | wide
  | none
deriving DecidableEq, Repr

/-- How far a whole number can be held. -/
def intRange (n : Int) : IntRange :=
  if -Int.pow 2 63 ≤ n && n < Int.pow 2 64 then .word
  else if -Int.pow 2 127 ≤ n && n < Int.pow 2 128 then .wide
  else .none

/-- The value of a plain text. A whole number that only 128 bits hold has none. -/
def ofPlain? (s : String) : Option Value :=
  let cs := s.toList
  if cs.isEmpty || isNullWord s then some null
  else
    match boolWord? s with
    | some b => some (bool b)
    | none =>
      let number := (wholeNumber? cs).map fun n => (n, intRange n)
      match number with
      | some (n, .word) => some (int n)
      | some (_, .wide) => Option.none
      | _ =>
        if isZeroPadded cs then some (text s)
        else
          match floatBits? cs with
          | some bits => some (float bits)
          | none => some (text s)

/-- The tags that ask for a type. -/
def coreTag (name : String) : String := "tag:yaml.org,2002:" ++ name

/-- The value of a text with a tag that asks for a type, which the text has to fit; a tag that asks
for another type makes it a text. -/
def ofTagged? (tag s : String) : Option Value :=
  if tag == coreTag "bool" then (boolWord? s).map bool
  else if tag == coreTag "int" then
    (wholeNumber? s.toList).bind fun n => if intRange n == .word then some (int n) else Option.none
  else if tag == coreTag "float" then (floatBits? s.toList).map float
  else if tag == coreTag "null" then (if isNullWord s then some null else Option.none)
  else some (text s)

end Value

/-! ## Aliases -/

/-- What is known of the anchors of a document while it is read from its start to its end. Each
anchor name stands for a number at present, and each number for the nodes that took it, with the
places of their starts; of these, aliases find the one that starts last. A text or an alias counts
as one mark, and a collection as two. -/
structure Anchors where
  names : List (String × Nat) := []
  nodes : List (Nat × Nat × Node Nat) := []
  started : Nat := 0
  marks : Nat := 0

namespace Anchors

/-- Notes the start of a node. An anchor takes the number of names known so far, so a name that is
declared anew may share its number with the next one. -/
def start (anchors : Anchors) (anchor : Option String) (marks : Nat) : Option Nat × Anchors :=
  let anchors := { anchors with started := anchors.started + 1, marks := anchors.marks + marks }
  match anchor with
  | none => (none, anchors)
  | some name =>
    let number := anchors.names.length
    let names := (name, number) :: anchors.names.filter (·.1 != name)
    (some number, { anchors with names })

/-- Notes the end of a node that started as the given one and took the given number. -/
def finish (anchors : Anchors) (number : Option Nat) (started : Nat) (node : Node Nat) : Anchors :=
  match number with
  | none => anchors
  | some number => { anchors with nodes := (number, started, node) :: anchors.nodes }

/-- The node that a number refers to. -/
def node? (anchors : Anchors) (number : Nat) : Option (Node Nat) :=
  let candidates := (anchors.nodes.filter (·.1 == number)).map (·.2)
  (candidates.foldl (fun latest candidate =>
    match latest with
    | none => some candidate
    | some l => if l.1 < candidate.1 then some candidate else some l) none).map (·.2)

end Anchors

mutual

/-- The node with the names of its aliases replaced by numbers. An unknown name is an error. -/
def linkNode (node : Node String) (anchors : Anchors) : Option (Node Nat × Anchors) :=
  match node with
  | .alias name => do
    let number ← anchors.names.lookup name
    return (.alias number, { anchors with marks := anchors.marks + 1 })
  | .scalar properties text style =>
    let (number, anchors) := anchors.start properties.anchor 1
    let linked := .scalar properties text style
    some (linked, anchors.finish number anchors.started linked)
  | .sequence properties items => do
    let (number, anchors) := anchors.start properties.anchor 2
    let started := anchors.started
    let (items, anchors) ← linkItems items anchors
    let linked := .sequence properties items
    return (linked, anchors.finish number started linked)
  | .mapping properties pairs => do
    let (number, anchors) := anchors.start properties.anchor 2
    let started := anchors.started
    let (pairs, anchors) ← linkPairs pairs anchors
    let linked := .mapping properties pairs
    return (linked, anchors.finish number started linked)

/-- The elements of a sequence with their aliases replaced. -/
def linkItems (items : List (Node String)) (anchors : Anchors) :
    Option (List (Node Nat) × Anchors) :=
  match items with
  | [] => some ([], anchors)
  | item :: items => do
    let (item, anchors) ← linkNode item anchors
    let (items, anchors) ← linkItems items anchors
    return (item :: items, anchors)

/-- The keys and values of a mapping with their aliases replaced. -/
def linkPairs (pairs : List (Node String × Node String)) (anchors : Anchors) :
    Option (List (Node Nat × Node Nat) × Anchors) :=
  match pairs with
  | [] => some ([], anchors)
  | (key, value) :: pairs => do
    let (key, anchors) ← linkNode key anchors
    let (value, anchors) ← linkNode value anchors
    let (pairs, anchors) ← linkPairs pairs anchors
    return ((key, value) :: pairs, anchors)

end

/-! ## Values of nodes -/

namespace Value

/-- The name of a tag of the document's own, which starts with an exclamation mark. -/
def ownTag? (properties : Properties) : Option String := do
  let '!' :: name := (← properties.tag).toList | none
  return String.ofList name

/-- The value with a tag of its own. A tag without a name is an error. -/
def withTag? (properties : Properties) (value : Value) : Option Value :=
  match ownTag? properties with
  | none => some value
  | some "" => none
  | some name => some (tagged name value)

/-- The value of a text. -/
def ofText? (properties : Properties) (s : String) (style : Style) : Option Value :=
  match properties.tag, ownTag? properties with
  | some tag, none => ofTagged? tag s
  | _, _ => (if style == .plain then ofPlain? s else some (text s)).bind (withTag? properties)

/-- The mapping of a list of pairs in which no key occurs twice. -/
def mapping? (pairs : List (Value × Value)) : Option Value :=
  if (pairs.map (·.1)).Pairwise fun a b => !same a b then some (mapping pairs) else none

/-- The node behind an alias, with one more alias followed. At most a hundred aliases are followed
for every mark of the document. -/
def follow? (anchors : Anchors) (followed : Nat) (node : Node Nat) : Option (Node Nat × Nat) :=
  match node with
  | .alias number =>
    if followed + 1 > anchors.marks * 100 then none
    else (anchors.node? number).map (·, followed + 1)
  | node => some (node, followed)

/-- The value of a node, in which collections nest at most `depth` deep, with the number of aliases
followed so far. -/
def ofLinked? (anchors : Anchors) : Nat → Node Nat → Nat → Option (Value × Nat)
  | depth, node, followed => do
    let (node, followed) ← follow? anchors followed node
    match node, depth with
    | .scalar properties s style, _ => (ofText? properties s style).map (·, followed)
    | .sequence properties items, depth + 1 => do
      let (items, followed) ← items.foldlM (fun (values, followed) item => do
        let (value, followed) ← ofLinked? anchors depth item followed
        return (values.push value, followed)) ((#[] : Array Value), followed)
      return (← withTag? properties (sequence items.toList), followed)
    | .mapping properties pairs, depth + 1 => do
      let (pairs, followed) ← pairs.foldlM (fun (values, followed) (key, value) => do
        let (key, followed) ← ofLinked? anchors depth key followed
        let (value, followed) ← ofLinked? anchors depth value followed
        return (values.push (key, value), followed)) ((#[] : Array (Value × Value)), followed)
      return (← withTag? properties (← mapping? pairs.toList), followed)
    | _, _ => none

/-- The value of the root node of a document. Collections nest at most 128 deep. -/
def ofNode? (root : Node String) : Option Value := do
  let (root, anchors) ← linkNode root {}
  let (value, _) ← ofLinked? anchors 128 root 0
  return value

/-- The value without its tags. -/
def untagged : Value → Value
  | tagged _ value => untagged value
  | value => value

/-- The value of a key in a mapping, if the mapping has the text as a key. -/
def get? (key : String) (value : Value) : Option Value :=
  match value.untagged with
  | mapping pairs => (pairs.find? fun pair => pair.1.same (text key)).map (·.2)
  | _ => none

/-- The elements of a sequence. -/
def sequence? (value : Value) : Option (List Value) :=
  match value.untagged with
  | sequence items => some items
  | _ => none

/-- The text of a text. -/
def text? (value : Value) : Option String :=
  match value.untagged with
  | text s => some s
  | _ => none

/-- The truth value a value holds. -/
def bool? (value : Value) : Option Bool :=
  match value.untagged with
  | bool b => some b
  | _ => none

/-- The whole number a value holds. -/
def int? (value : Value) : Option Int :=
  match value.untagged with
  | int n => some n
  | _ => none

/-- Whether the value is the absent value, without a tag. -/
def isNull : Value → Bool
  | null => true
  | _ => false

/-- The elements of a sequence; the absent value has none. -/
def elements? (value : Value) : Option (List Value) :=
  match value.untagged with
  | sequence items => some items
  | null => some []
  | _ => none

/-- The entries of a mapping whose keys are texts; the absent value has none. -/
def entries? (value : Value) : Option (List (String × Value)) :=
  match value.untagged with
  | mapping pairs => pairs.mapM fun (key, value) => key.text?.map (·, value)
  | null => some []
  | _ => none

/-- The fields of a record: the entries of a mapping in which no declared name occurs twice. Keys
that differ in their tags alone are the same name. -/
def record? (names : List String) (value : Value) : Option (List (String × Value)) :=
  value.entries?.filter fun fields => names.all fun name => fields.countP (·.1 == name) ≤ 1

mutual

/-- The value as that of a JSON document, which has no tags and only texts for keys. A float that
is not finite is absent from it. -/
def json? : Value → Option JsonValue
  | null => some .null
  | bool b => some (.bool b)
  | int n => some (.int n)
  | float bits => some ((Float64.ofBits? bits).elim .null .float)
  | text s => some (.text s)
  | sequence items => (itemsJson? items).map .sequence
  | mapping pairs => (pairsJson? pairs).map .object
  | tagged _ _ => none

/-- The values of the elements of a sequence. -/
def itemsJson? : List Value → Option (List JsonValue)
  | [] => some []
  | item :: items => do return (← json? item) :: (← itemsJson? items)

/-- The fields of a mapping. Of keys that differ in their tags alone the last counts. -/
def pairsJson? : List (Value × Value) → Option (List (String × JsonValue))
  | [] => some []
  | (key, value) :: pairs => do
    let name ← key.text?
    let value ← json? value
    let fields ← pairsJson? pairs
    return if fields.any (·.1 == name) then fields else (name, value) :: fields

end

/-! ## Sizes -/

theorem sizeOf_untagged_le (value : Value) : sizeOf value.untagged ≤ sizeOf value := by
  fun_induction untagged value with
  | case1 tag value ih => simp only [tagged.sizeOf_spec]; omega
  | case2 => exact Nat.le_refl _

theorem sizeOf_lt_of_get? {key : String} {value found : Value} (h : value.get? key = some found) :
    sizeOf found < sizeOf value := by
  have le := sizeOf_untagged_le value
  unfold get? at h
  split at h
  · next pairs eq =>
    obtain ⟨pair, mem, rfl⟩ := Option.map_eq_some_iff.1 h
    have lt := List.sizeOf_lt_of_mem (List.mem_of_find?_eq_some mem)
    rw [eq, mapping.sizeOf_spec] at le
    have : sizeOf pair.2 < sizeOf pair := by cases pair; simp only [Prod.mk.sizeOf_spec]; omega
    omega
  · cases h

theorem sizeOf_lt_of_mem_sequence? {value item : Value} {items : List Value}
    (h : value.sequence? = some items) (mem : item ∈ items) : sizeOf item < sizeOf value := by
  have le := sizeOf_untagged_le value
  unfold sequence? at h
  split at h
  · next items' eq =>
    cases h
    have lt := List.sizeOf_lt_of_mem mem
    rw [eq, sequence.sizeOf_spec] at le
    omega
  · cases h

end Value

instance : Document Value where
  text? := Value.text?
  bool? := Value.bool?
  int? := Value.int?
  isNull := Value.isNull
  elements? := Value.elements?
  entries? := Value.entries?
  record? := Value.record?
  value? := Value.json?

end MeshRoutes.Yaml
