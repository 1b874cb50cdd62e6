import MeshRoutes.Yaml.Token.Basic

/-!
# From tokens to nodes

A document is one node: a text, a sequence, a mapping, or an alias for a node of the same document.
`Yaml.documents?` groups the tokens of a stream into documents. Every reader takes tokens from the
front and hands on what is left together with the fact that it is shorter, so the recursion ends
with the tokens.

## Main definitions

* `Yaml.Node`: a node, over the type of what its aliases refer to.
* `Yaml.readNode`: the node at the front of some tokens.
* `Yaml.documents?`: the root nodes of a stream, whose aliases are names.

## Implementation notes

A key or a value may be missing, and an element may too after a dash. The node is an empty plain
text then. In brackets, a missing key behind an explicit key mark swallows the token that follows
the mark.
-/

namespace MeshRoutes.Yaml

/-- What stands in front of a node: the anchor under which aliases find it, and its tag, with the
handle replaced by the meaning of the handle. -/
structure Properties where
  anchor : Option String := none
  tag : Option String := none
deriving DecidableEq, Repr

/-- A node of a document. An alias refers to another node, and a mapping has its pairs in order. -/
inductive Node (α : Type) where
  | alias (target : α)
  | scalar (properties : Properties) (text : String) (style : Style)
  | sequence (properties : Properties) (items : List (Node α))
  | mapping (properties : Properties) (pairs : List (Node α × Node α))
deriving Repr

namespace Node

/-- The node of something that is missing. -/
def missing {α : Type} : Node α := scalar {} "" .plain

end Node

/-- What is left of some tokens after some were read. -/
abbrev Shorter (tokens : List Token) := { rest : List Token // rest.length < tokens.length }

/-- Something read from the front of some tokens, with what is left. -/
abbrev TokenReading (α : Type) (tokens : List Token) := Option (α × Shorter tokens)

/-- The meanings of tag handles. -/
abbrev TagHandles := List (String × String)

/-- The meanings that handles have in every document. -/
def defaultHandles : TagHandles := [("!", "!"), ("!!", "tag:yaml.org,2002:")]

/-- The tag of a handle and a suffix. A handle without a meaning is an error. -/
def resolveTag? (handles : TagHandles) (handle suffix : String) : Option String :=
  if handle.isEmpty then some suffix else (handles.lookup handle).map (· ++ suffix)

/-- An anchor and a tag, in either order, with what is left. -/
def readProperties (handles : TagHandles) (tokens : List Token) :
    Option (Properties × { rest : List Token // rest.length ≤ tokens.length }) :=
  match tokens with
  | .anchor name :: .tag handle suffix :: rest =>
    (resolveTag? handles handle suffix).map fun tag =>
      ({ anchor := some name, tag := some tag }, ⟨rest, by simp only [List.length_cons]; omega⟩)
  | .tag handle suffix :: .anchor name :: rest =>
    (resolveTag? handles handle suffix).map fun tag =>
      ({ anchor := some name, tag := some tag }, ⟨rest, by simp only [List.length_cons]; omega⟩)
  | .anchor name :: rest => some ({ anchor := some name }, ⟨rest, by simp⟩)
  | .tag handle suffix :: rest =>
    (resolveTag? handles handle suffix).map fun tag => ({ tag := some tag }, ⟨rest, by simp⟩)
  | rest => some ({}, ⟨rest, Nat.le_refl _⟩)

/-- The properties of a text: the tag that only says that there is one is none. -/
def Properties.ofText (properties : Properties) : Properties :=
  if properties.tag == some "!" then { properties with tag := none } else properties

/-- The tokens from which the next element between brackets or braces is read: all but the first
element follow a comma. -/
def afterComma (first : Bool) (tokens : List Token) :
    Option { rest : List Token // rest.length ≤ tokens.length } :=
  if first then some ⟨tokens, Nat.le_refl _⟩
  else
    match tokens with
    | .flowEntry :: rest => some ⟨rest, by simp⟩
    | _ => none

/-- Whether one of the given tokens stands at the front. -/
def startsWith (marks : List Token) (tokens : List Token) : Bool :=
  tokens.head?.any (marks.contains ·)

mutual

/-- The node at the front. Indented collections are allowed if `block` holds, and elements without
an indentation of their own if `indentless` holds. -/
def readNode (handles : TagHandles) (block indentless : Bool) (tokens : List Token) :
    TokenReading (Node String) tokens :=
  match tokens with
  | .alias name :: rest => some (.alias name, ⟨rest, by simp⟩)
  | tokens =>
    match readProperties handles tokens with
    | none => none
    | some (properties, ⟨afterProperties, h⟩) =>
      match ha : afterProperties with
      | .blockEntry :: _ =>
        if indentless then
          match readIndentless handles afterProperties with
          | none => none
          | some (items, ⟨rest, h'⟩) =>
            some (.sequence properties items, ⟨rest, by rw [ha] at h'; omega⟩)
        else if hp : afterProperties.length < tokens.length then
          some (.scalar properties "" .plain, ⟨afterProperties, hp⟩)
        else none
      | .scalar text style :: rest =>
        some (.scalar properties.ofText text style, ⟨rest, by simp at h; omega⟩)
      | .flowSequenceStart :: rest =>
        match readFlowItems handles true rest with
        | none => none
        | some (items, ⟨rest', h'⟩) =>
          some (.sequence properties items, ⟨rest', by simp at h; omega⟩)
      | .flowMappingStart :: rest =>
        match readFlowPairs handles true rest with
        | none => none
        | some (pairs, ⟨rest', h'⟩) =>
          some (.mapping properties pairs, ⟨rest', by simp at h; omega⟩)
      | other =>
        match block, ho : other with
        | true, .blockSequenceStart :: rest =>
          match readBlockItems handles rest with
          | none => none
          | some (items, ⟨rest', h'⟩) =>
            some (.sequence properties items, ⟨rest', by simp at h; omega⟩)
        | true, .blockMappingStart :: rest =>
          match readBlockPairs handles rest with
          | none => none
          | some (pairs, ⟨rest', h'⟩) =>
            some (.mapping properties pairs, ⟨rest', by simp at h; omega⟩)
        | _, other =>
          if hp : other.length < tokens.length then
            some (.scalar properties "" .plain, ⟨other, hp⟩)
          else none
termination_by 3 * tokens.length + 1
decreasing_by all_goals (try simp only [List.length_cons] at *); omega

/-- The elements of an indented sequence, up to its end. -/
def readBlockItems (handles : TagHandles) (tokens : List Token) :
    TokenReading (List (Node String)) tokens :=
  match tokens with
  | .blockEnd :: rest => some ([], ⟨rest, by simp⟩)
  | .blockEntry :: rest =>
    if startsWith [.blockEntry, .blockEnd] rest then
      match readBlockItems handles rest with
      | none => none
      | some (items, ⟨rest', h'⟩) =>
        some (.missing :: items, ⟨rest', by simp only [List.length_cons]; omega⟩)
    else
      match readNode handles true false rest with
      | none => none
      | some (item, ⟨rest', h'⟩) =>
        match readBlockItems handles rest' with
        | none => none
        | some (items, ⟨rest'', h''⟩) =>
          some (item :: items, ⟨rest'', by simp only [List.length_cons]; omega⟩)
  | _ => none
termination_by 3 * tokens.length + 2
decreasing_by all_goals (try simp only [List.length_cons] at *); omega

/-- The elements of a sequence without an indentation of its own, up to the first token that
starts no element. -/
def readIndentless (handles : TagHandles) (tokens : List Token) :
    TokenReading (List (Node String)) tokens :=
  match tokens with
  | .blockEntry :: rest =>
    if startsWith [.blockEntry] rest then
      match readIndentless handles rest with
      | none => none
      | some (items, ⟨rest', h'⟩) =>
        some (.missing :: items, ⟨rest', by simp only [List.length_cons]; omega⟩)
    else if startsWith [.key, .value, .blockEnd] rest then
      some ([.missing], ⟨rest, by simp⟩)
    else
      match readNode handles true false rest with
      | none => none
      | some (item, ⟨rest', h'⟩) =>
        if startsWith [.blockEntry] rest' then
          match readIndentless handles rest' with
          | none => none
          | some (items, ⟨rest'', h''⟩) =>
            some (item :: items, ⟨rest'', by simp only [List.length_cons]; omega⟩)
        else some ([item], ⟨rest', by simp only [List.length_cons]; omega⟩)
  | _ => none
termination_by 3 * tokens.length + 0
decreasing_by all_goals (try simp only [List.length_cons] at *); omega

/-- The keys and values of an indented mapping, up to its end. -/
def readBlockPairs (handles : TagHandles) (tokens : List Token) :
    TokenReading (List (Node String × Node String)) tokens :=
  match tokens with
  | .blockEnd :: rest => some ([], ⟨rest, by simp⟩)
  | .key :: rest =>
    match readBlockPart handles rest with
    | none => none
    | some (key, ⟨afterKey, hk⟩) =>
      match hv : afterKey with
      | .value :: rest' =>
        match readBlockPart handles rest' with
        | none => none
        | some (value, ⟨afterValue, h'⟩) =>
          match readBlockPairs handles afterValue with
          | none => none
          | some (pairs, ⟨rest'', h''⟩) =>
            some ((key, value) :: pairs, ⟨rest'', by simp at *; omega⟩)
      | other =>
        match readBlockPairs handles other with
        | none => none
        | some (pairs, ⟨rest'', h''⟩) =>
          some ((key, .missing) :: pairs, ⟨rest'', by simp only [List.length_cons]; omega⟩)
  | _ => none
termination_by 3 * tokens.length + 2
decreasing_by all_goals (try simp only [List.length_cons] at *); omega

/-- A key or a value of an indented mapping, which may be missing. -/
def readBlockPart (handles : TagHandles) (tokens : List Token) :
    Option (Node String × { rest : List Token // rest.length ≤ tokens.length }) :=
  if startsWith [.key, .value, .blockEnd] tokens then some (.missing, ⟨tokens, Nat.le_refl _⟩)
  else
    match readNode handles true true tokens with
    | none => none
    | some (node, ⟨rest, h⟩) => some (node, ⟨rest, Nat.le_of_lt h⟩)
termination_by 3 * tokens.length + 2
decreasing_by all_goals omega

/-- The elements between brackets, up to the closing one. All but the first follow a comma. -/
def readFlowItems (handles : TagHandles) (first : Bool) (tokens : List Token) :
    TokenReading (List (Node String)) tokens :=
  match tokens with
  | .flowSequenceEnd :: rest => some ([], ⟨rest, by simp⟩)
  | tokens =>
    match afterComma first tokens with
    | none => none
    | some ⟨start, hs⟩ =>
      match start with
      | .flowSequenceEnd :: rest => some ([], ⟨rest, by simp at hs; omega⟩)
      | .key :: rest =>
        match readFlowPair handles rest with
        | none => none
        | some (pair, ⟨rest', h'⟩) =>
          match readFlowItems handles false rest' with
          | none => none
          | some (items, ⟨rest'', h''⟩) =>
            some (.mapping {} [pair] :: items, ⟨rest'', by simp at hs; omega⟩)
      | start =>
        match readNode handles false false start with
        | none => none
        | some (item, ⟨rest', h'⟩) =>
          match readFlowItems handles false rest' with
          | none => none
          | some (items, ⟨rest'', h''⟩) => some (item :: items, ⟨rest'', by omega⟩)
termination_by 3 * tokens.length + 2
decreasing_by all_goals (try simp only [List.length_cons] at *); omega

/-- The single key and value of an element between brackets, from behind the mark of the key. -/
def readFlowPair (handles : TagHandles) (tokens : List Token) :
    Option ((Node String × Node String) × { rest : List Token // rest.length ≤ tokens.length }) :=
  let key :=
    if startsWith [.value, .flowEntry, .flowSequenceEnd] tokens then
      some (Node.missing, (⟨tokens.tail, by simp⟩ : { r : List Token // r.length ≤ tokens.length }))
    else
      match readNode handles false false tokens with
      | none => none
      | some (key, ⟨rest, h⟩) => some (key, ⟨rest, Nat.le_of_lt h⟩)
  match key with
  | none => none
  | some (key, ⟨afterKey, h⟩) =>
    match afterKey with
    | .value :: rest =>
      if startsWith [.flowEntry, .flowSequenceEnd] rest then
        some ((key, .missing), ⟨rest, by simp at h; omega⟩)
      else
        match readNode handles false false rest with
        | none => none
        | some (value, ⟨rest', h'⟩) => some ((key, value), ⟨rest', by simp at h; omega⟩)
    | other => some ((key, .missing), ⟨other, h⟩)
termination_by 3 * tokens.length + 2
decreasing_by all_goals (try simp only [List.length_cons] at *); omega

/-- The keys and values between braces, up to the closing one. All but the first follow a comma. -/
def readFlowPairs (handles : TagHandles) (first : Bool) (tokens : List Token) :
    TokenReading (List (Node String × Node String)) tokens :=
  match tokens with
  | .flowMappingEnd :: rest => some ([], ⟨rest, by simp⟩)
  | tokens =>
    match afterComma first tokens with
    | none => none
    | some ⟨start, hs⟩ =>
      match start with
      | .flowMappingEnd :: rest => some ([], ⟨rest, by simp at hs; omega⟩)
      | .key :: rest =>
        match readFlowPart handles rest with
        | none => none
        | some (key, ⟨afterKey, hk⟩) =>
          match afterKey with
          | .value :: rest' =>
            match readFlowPart handles rest' with
            | none => none
            | some (value, ⟨afterValue, hv⟩) =>
              match readFlowPairs handles false afterValue with
              | none => none
              | some (pairs, ⟨rest'', h''⟩) =>
                some ((key, value) :: pairs, ⟨rest'', by simp at *; omega⟩)
          | other =>
            match readFlowPairs handles false other with
            | none => none
            | some (pairs, ⟨rest'', h''⟩) =>
              some ((key, .missing) :: pairs, ⟨rest'', by simp at *; omega⟩)
      | start =>
        match readNode handles false false start with
        | none => none
        | some (key, ⟨rest', h'⟩) =>
          match readFlowPairs handles false rest' with
          | none => none
          | some (pairs, ⟨rest'', h''⟩) =>
            some ((key, .missing) :: pairs, ⟨rest'', by omega⟩)
termination_by 3 * tokens.length + 2
decreasing_by all_goals (try simp only [List.length_cons] at *); omega

/-- A key or a value between braces, which may be missing. -/
def readFlowPart (handles : TagHandles) (tokens : List Token) :
    Option (Node String × { rest : List Token // rest.length ≤ tokens.length }) :=
  if startsWith [.value, .flowEntry, .flowMappingEnd] tokens then
    some (.missing, ⟨tokens, Nat.le_refl _⟩)
  else
    match readNode handles false false tokens with
    | none => none
    | some (node, ⟨rest, h⟩) => some (node, ⟨rest, Nat.le_of_lt h⟩)
termination_by 3 * tokens.length + 2
decreasing_by all_goals omega

end

end MeshRoutes.Yaml
