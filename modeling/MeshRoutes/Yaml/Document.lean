import MeshRoutes.Yaml.Node

/-!
# The documents of a stream

Directives, document marks and root nodes. The first document needs no mark; every further one
starts with one, behind its directives, and any number of end marks may stand between two
documents.

## Main definitions

* `Yaml.readDirectives`: the tag handles that the directives of a document declare.
* `Yaml.documents?`: the root node of every document.
-/

namespace MeshRoutes.Yaml

/-- The directives of one document: whether the version of the syntax is given, and the handles that
are declared. -/
structure Directives where
  versioned : Bool := false
  handles : TagHandles := []

/-- Reads directives. The version is given at most once and is 1.1 or 1.2, and no handle is
declared twice. -/
def readDirectives (directives : Directives) : List Token → Option (Directives × List Token)
  | .version major minor :: rest =>
    if directives.versioned || major != 1 || (minor != 1 && minor != 2) then none
    else readDirectives { directives with versioned := true } rest
  | .tagHandle handle meaning :: rest =>
    if directives.handles.any (·.1 == handle) then none
    else readDirectives { directives with handles := (handle, meaning) :: directives.handles } rest
  | rest => some (directives, rest)

/-- Whether a document whose start is marked has no node. -/
def isEmptyDocument : List Token → Bool
  | .version _ _ :: _ => true
  | .tagHandle _ _ :: _ => true
  | .documentStart :: _ => true
  | .documentEnd :: _ => true
  | .streamEnd :: _ => true
  | _ => false

/-- The root node of a document and what is left behind it. -/
def readRoot (handles : TagHandles) (tokens : List Token) : Option (Node String × List Token) :=
  (readNode handles true false tokens).map fun (node, rest) => (node, rest.val)

/-- A document with its start mark and its directives, and what is left behind it. -/
def readMarked (tokens : List Token) : Option (Node String × List Token) := do
  let (directives, afterDirectives) ← readDirectives {} tokens
  match afterDirectives with
  | .documentStart :: rest =>
    if isEmptyDocument rest then some (.missing, rest)
    else readRoot (directives.handles ++ defaultHandles) rest
  | _ => none

/-- Drops one end mark. -/
def dropEndMark : List Token → List Token
  | .documentEnd :: rest => rest
  | tokens => tokens

/-- Drops end marks. -/
def dropEndMarks : List Token → List Token
  | .documentEnd :: rest => dropEndMarks rest
  | tokens => tokens

/-- The documents behind the first one. -/
def moreDocuments? (tokens : List Token) : Option (List (Node String)) :=
  match dropEndMarks tokens with
  | .streamEnd :: _ => some []
  | marked =>
    match readMarked marked with
    | none => none
    | some (root, rest) =>
      if rest.length < tokens.length then (moreDocuments? (dropEndMark rest)).map (root :: ·)
      else none
termination_by tokens.length
decreasing_by
  have : (dropEndMark rest).length ≤ rest.length := by unfold dropEndMark; split <;> simp
  omega

/-- The root nodes of the documents that tokens make up. -/
def documents? (tokens : List Token) : Option (List (Node String)) :=
  match tokens with
  | .streamEnd :: _ => some []
  | tokens =>
    let first := match tokens with
      | .version _ _ :: _ => readMarked tokens
      | .tagHandle _ _ :: _ => readMarked tokens
      | .documentStart :: _ => readMarked tokens
      | _ => readRoot defaultHandles tokens
    match first with
    | none => none
    | some (root, rest) => (moreDocuments? (dropEndMark rest)).map (root :: ·)

end MeshRoutes.Yaml
