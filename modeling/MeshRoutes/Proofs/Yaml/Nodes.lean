import MeshRoutes.Proofs.Yaml.Streams

/-!
# Nodes of written documents

The tokens of a written stream make up one node for each document. No node has an anchor or a tag.

* `Yaml.nodeOf`: the node of a document.
* `Yaml.documents?_streamTokens`: the nodes of a written stream.
-/

namespace MeshRoutes.Yaml

/-! ## Nodes of documents -/

section Nodes

variable {α : Type}

/-- The node of a text in its form. -/
def textNode (s : String) : Node α :=
  .scalar {} s (if Form.of s = .plain then .plain else .quoted)

mutual

/-- The node of a document. -/
def nodeOf : Json → Node α
  | .null => .scalar {} "null" .plain
  | .bool b => .scalar {} (if b then "true" else "false") .plain
  | .int n => .scalar {} (Text.intText n) .plain
  | .decimal x => .scalar {} x.toText .plain
  | .str s => textNode s
  | .arr items => .sequence {} (itemNodes items)
  | .obj fields => .mapping {} (fieldNodes fields)

/-- The nodes of the elements of a sequence. -/
def itemNodes : List Json → List (Node α)
  | [] => []
  | item :: items => nodeOf item :: itemNodes items

/-- The nodes of the fields of an object. -/
def fieldNodes : List (String × Json) → List (Node α × Node α)
  | [] => []
  | (name, value) :: fields => (textNode name, nodeOf value) :: fieldNodes fields

end

end Nodes

/-! ## Reading -/

section Reading

variable {handles : TagHandles} {indentless : Bool} {rest rest' : List Token}

theorem readNode_scalar (text : String) (style : Style) :
    ∃ h, readNode handles true indentless (.scalar text style :: rest) =
      some (.scalar {} text style, ⟨rest, h⟩) := by
  refine ⟨by simp, ?_⟩
  rw [readNode]
  · rfl
  · simp

theorem readNode_emptySequence :
    ∃ h, readNode handles true indentless (.flowSequenceStart :: .flowSequenceEnd :: rest) =
      some (.sequence {} [], ⟨rest, h⟩) := by
  refine ⟨by simp only [List.length_cons]; omega, ?_⟩
  rw [readNode]
  · simp only [readProperties]
    rw [readFlowItems]
  · simp

theorem readNode_emptyMapping :
    ∃ h, readNode handles true indentless (.flowMappingStart :: .flowMappingEnd :: rest) =
      some (.mapping {} [], ⟨rest, h⟩) := by
  refine ⟨by simp only [List.length_cons]; omega, ?_⟩
  rw [readNode]
  · simp only [readProperties]
    rw [readFlowPairs]
  · simp

theorem readNode_sequence {items : List (Node String)}
    (read : ∃ h, readBlockItems handles rest = some (items, ⟨rest', h⟩)) :
    ∃ h, readNode handles true indentless (.blockSequenceStart :: rest) =
      some (.sequence {} items, ⟨rest', h⟩) := by
  obtain ⟨h, read⟩ := read
  refine ⟨Nat.lt_succ_of_lt h, ?_⟩
  rw [readNode]
  · simp only [readProperties]
    rw [read]
  · simp

theorem readNode_mapping {pairs : List (Node String × Node String)}
    (read : ∃ h, readBlockPairs handles rest = some (pairs, ⟨rest', h⟩)) :
    ∃ h, readNode handles true indentless (.blockMappingStart :: rest) =
      some (.mapping {} pairs, ⟨rest', h⟩) := by
  obtain ⟨h, read⟩ := read
  refine ⟨Nat.lt_succ_of_lt h, ?_⟩
  rw [readNode]
  · simp only [readProperties]
    rw [read]
  · simp

/-- Elements that have no indentation of their own. -/
theorem readNode_indentless {items : List (Node String)} {tokens : List Token}
    (starts : ∃ rest, tokens = .blockEntry :: rest)
    (read : ∃ h, readIndentless handles tokens = some (items, ⟨rest', h⟩)) :
    ∃ h, readNode handles true true tokens = some (.sequence {} items, ⟨rest', h⟩) := by
  obtain ⟨rest, rfl⟩ := starts
  obtain ⟨h, read⟩ := read
  refine ⟨h, ?_⟩
  rw [readNode]
  · simp only [readProperties]
    rw [read]
    rfl
  · simp

/-- A token that stands in front of a node, and neither ends something nor separates. -/
def startsNode (token : Token) : Prop :=
  token ∉ [.key, .value, .blockEnd, .blockEntry]

theorem exists_nodeTokens_eq_cons (doc : Json) :
    ∃ token tokens, nodeTokens doc = token :: tokens ∧ startsNode token := by
  unfold startsNode
  rcases doc with _ | _ | _ | _ | _ | (_ | _) | (_ | _) <;>
    exact ⟨_, _, rfl, by simp [textToken]⟩

theorem startsWith_nodeTokens {marks : List Token}
    (others : ∀ mark ∈ marks, mark ∈ [Token.key, .value, .blockEnd, .blockEntry]) (doc : Json)
    (rest : List Token) : startsWith marks (nodeTokens doc ++ rest) = false := by
  obtain ⟨token, tokens, eq, starts⟩ := exists_nodeTokens_eq_cons doc
  rw [eq, startsWith, List.cons_append, List.head?_cons, Option.any_some]
  exact Bool.eq_false_iff.2 fun mem => starts (others token (List.contains_iff_mem.1 mem))

/-- Tokens that are read as the node of their document, where a node may stand, and behind a key, in
front of anything but a further element. -/
structure ReadsNode (doc : Json) : Prop where
  as_node : ∀ (handles : TagHandles) (indentless : Bool) (rest : List Token),
    ∃ h, readNode handles true indentless (nodeTokens doc ++ rest) = some (nodeOf doc, ⟨rest, h⟩)
  as_value : ∀ (handles : TagHandles) (rest : List Token), rest.head? ≠ some .blockEntry →
    ∃ h, readBlockPart handles (keyedTokens doc ++ rest) = some (nodeOf doc, ⟨rest, h⟩)

variable {item doc : Json} {items : List Json} {fields : List (String × Json)}

/-- A node that stands in front of further tokens. -/
theorem readBlockPart_of_node {tokens : List Token} {node : Node String}
    (starts : startsWith [.key, .value, .blockEnd] tokens = false)
    (read : ∃ h, readNode handles true true tokens = some (node, ⟨rest, h⟩)) :
    ∃ h, readBlockPart handles tokens = some (node, ⟨rest, h⟩) := by
  obtain ⟨h, read⟩ := read
  refine ⟨Nat.le_of_lt h, ?_⟩
  rw [readBlockPart, starts, read]
  rfl

theorem ReadsNode.readBlockPart (read : ReadsNode doc) (handles : TagHandles) (rest : List Token) :
    ∃ h, readBlockPart handles (nodeTokens doc ++ rest) = some (nodeOf doc, ⟨rest, h⟩) :=
  readBlockPart_of_node (startsWith_nodeTokens (by simp) doc rest) (read.as_node handles true rest)

/-! ## Collections -/

section Collections

variable {tokens : List Token} {node key value : Node String} {nodes : List (Node String)}
  {pairs : List (Node String × Node String)}

theorem readBlockItems_cons (starts : startsWith [.blockEntry, .blockEnd] tokens = false)
    (read : ∃ h, readNode handles true false tokens = some (node, ⟨rest', h⟩))
    (later : ∃ h, readBlockItems handles rest' = some (nodes, ⟨rest, h⟩)) :
    ∃ h, readBlockItems handles (.blockEntry :: tokens) = some (node :: nodes, ⟨rest, h⟩) := by
  obtain ⟨h, read⟩ := read
  obtain ⟨h', later⟩ := later
  refine ⟨Nat.lt_succ_of_lt (h'.trans h), ?_⟩
  rw [readBlockItems, starts, read]
  dsimp only
  rw [later]
  rfl

theorem readIndentless_cons (starts : startsWith [.blockEntry] tokens = false)
    (full : startsWith [.key, .value, .blockEnd] tokens = false)
    (read : ∃ h, readNode handles true false tokens = some (node, ⟨rest', h⟩))
    (more : startsWith [.blockEntry] rest' = true)
    (later : ∃ h, readIndentless handles rest' = some (nodes, ⟨rest, h⟩)) :
    ∃ h, readIndentless handles (.blockEntry :: tokens) = some (node :: nodes, ⟨rest, h⟩) := by
  obtain ⟨h, read⟩ := read
  obtain ⟨h', later⟩ := later
  refine ⟨Nat.lt_succ_of_lt (h'.trans h), ?_⟩
  rw [readIndentless, starts, full, read]
  dsimp only
  rw [more, later]
  rfl

theorem readIndentless_singleton (starts : startsWith [.blockEntry] tokens = false)
    (full : startsWith [.key, .value, .blockEnd] tokens = false)
    (read : ∃ h, readNode handles true false tokens = some (node, ⟨rest, h⟩))
    (last : startsWith [.blockEntry] rest = false) :
    ∃ h, readIndentless handles (.blockEntry :: tokens) = some ([node], ⟨rest, h⟩) := by
  obtain ⟨h, read⟩ := read
  refine ⟨Nat.lt_succ_of_lt h, ?_⟩
  rw [readIndentless, starts, full, read]
  dsimp only
  rw [last]
  rfl

theorem readBlockPairs_cons {valueTokens : List Token}
    (key_read : ∃ h, readBlockPart handles tokens = some (key, ⟨.value :: valueTokens, h⟩))
    (value_read : ∃ h, readBlockPart handles valueTokens = some (value, ⟨rest', h⟩))
    (later : ∃ h, readBlockPairs handles rest' = some (pairs, ⟨rest, h⟩)) :
    ∃ h, readBlockPairs handles (.key :: tokens) = some ((key, value) :: pairs, ⟨rest, h⟩) := by
  obtain ⟨h, key_read⟩ := key_read
  obtain ⟨h', value_read⟩ := value_read
  obtain ⟨h'', later⟩ := later
  have lengths : valueTokens.length < tokens.length := h
  refine ⟨Nat.lt_succ_of_lt ((h''.trans_le h').trans lengths), ?_⟩
  rw [readBlockPairs, key_read]
  dsimp only
  rw [value_read]
  dsimp only
  rw [later]

theorem readBlockItems_itemTokens (each : ∀ item ∈ items, ReadsNode item) (handles : TagHandles)
    (rest : List Token) : ∃ h, readBlockItems handles (itemTokens items ++ .blockEnd :: rest) =
      some (itemNodes items, ⟨rest, h⟩) := by
  induction items with
  | nil =>
    refine ⟨Nat.lt_succ_self _, ?_⟩
    exact readBlockItems.eq_1 ..
  | cons item items ih =>
    obtain ⟨first, each⟩ := List.forall_mem_cons.1 each
    have tokens_eq : itemTokens (item :: items) ++ .blockEnd :: rest =
        .blockEntry :: (nodeTokens item ++ (itemTokens items ++ .blockEnd :: rest)) := by
      simp [itemTokens]
    rw [tokens_eq]
    exact readBlockItems_cons (startsWith_nodeTokens (by simp) item _)
      (first.as_node handles false _) (ih each)

theorem readIndentless_itemTokens (ne : items ≠ []) (each : ∀ item ∈ items, ReadsNode item)
    (handles : TagHandles) (ends : rest.head? ≠ some .blockEntry) :
    ∃ h, readIndentless handles (itemTokens items ++ rest) =
      some (itemNodes items, ⟨rest, h⟩) := by
  induction items with
  | nil => exact absurd rfl ne
  | cons item items ih =>
    obtain ⟨first, each⟩ := List.forall_mem_cons.1 each
    have tokens_eq : itemTokens (item :: items) ++ rest =
        .blockEntry :: (nodeTokens item ++ (itemTokens items ++ rest)) := by
      simp [itemTokens]
    have starts :
        startsWith [.blockEntry] (nodeTokens item ++ (itemTokens items ++ rest)) = false :=
      startsWith_nodeTokens (by simp) item _
    have full : startsWith [.key, .value, .blockEnd]
        (nodeTokens item ++ (itemTokens items ++ rest)) = false :=
      startsWith_nodeTokens (by simp) item _
    rw [tokens_eq]
    cases items with
    | nil =>
      have last : startsWith [.blockEntry] rest = false := by
        unfold startsWith
        cases head : rest.head? with
        | none => rfl
        | some token =>
          rw [head] at ends
          simpa using ends
      exact readIndentless_singleton starts full (first.as_node handles false rest) last
    | cons next items =>
      exact readIndentless_cons starts full (first.as_node handles false _) rfl
        (ih (List.cons_ne_nil next items) each)

theorem readBlockPairs_fieldTokens (each : ∀ field ∈ fields, ReadsNode field.2)
    (handles : TagHandles) (rest : List Token) :
    ∃ h, readBlockPairs handles (fieldTokens fields ++ .blockEnd :: rest) =
      some (fieldNodes fields, ⟨rest, h⟩) := by
  induction fields with
  | nil => exact ⟨Nat.lt_succ_self _, readBlockPairs.eq_1 ..⟩
  | cons field fields ih =>
    obtain ⟨name, value⟩ := field
    obtain ⟨first, each⟩ := List.forall_mem_cons.1 each
    have ends : (fieldTokens fields ++ .blockEnd :: rest).head? ≠ some .blockEntry := by
      cases fields with
      | nil => simp [fieldTokens]
      | cons next fields =>
        rw [fieldTokens_cons]
        simp
    have key : ∃ h, Yaml.readBlockPart handles (textToken name :: .value ::
        ((if isSimpleKey name then keyedTokens value else nodeTokens value) ++
          (fieldTokens fields ++ .blockEnd :: rest))) = some (textNode name, ⟨_, h⟩) :=
      readBlockPart_of_node (by simp [startsWith, textToken]) (readNode_scalar name _)
    have value_read : ∃ h, Yaml.readBlockPart handles
        ((if isSimpleKey name then keyedTokens value else nodeTokens value) ++
          (fieldTokens fields ++ .blockEnd :: rest)) =
        some (nodeOf value, ⟨fieldTokens fields ++ .blockEnd :: rest, h⟩) := by
      cases isSimpleKey name with
      | true => exact first.as_value handles _ ends
      | false => exact first.readBlockPart handles _
    have tokens_eq : fieldTokens ((name, value) :: fields) ++ .blockEnd :: rest =
        .key :: (textToken name :: .value ::
          ((if isSimpleKey name then keyedTokens value else nodeTokens value) ++
            (fieldTokens fields ++ .blockEnd :: rest))) := by
      rw [fieldTokens_cons]
      simp
    rw [tokens_eq]
    exact readBlockPairs_cons key value_read (ih each)

end Collections

/-- Tokens that are the same behind a key. -/
theorem ReadsNode.of_leaf (keyed_eq : keyedTokens doc = nodeTokens doc)
    (as_node : ∀ (handles : TagHandles) (indentless : Bool) (rest : List Token), ∃ h,
      readNode handles true indentless (nodeTokens doc ++ rest) = some (nodeOf doc, ⟨rest, h⟩)) :
    ReadsNode doc where
  as_node := as_node
  as_value := by
    intro handles rest _
    rw [keyed_eq]
    exact readBlockPart_of_node (startsWith_nodeTokens (by simp) doc rest)
      (as_node handles true rest)

theorem readsNode_arr (each : ∀ item ∈ items, ReadsNode item) : ReadsNode (.arr items) := by
  cases items with
  | nil => exact .of_leaf rfl fun _ _ _ => readNode_emptySequence
  | cons item items =>
    refine ⟨fun handles indentless rest => ?_, fun handles rest ends => ?_⟩
    · have tokens_eq : nodeTokens (.arr (item :: items)) ++ rest =
          .blockSequenceStart :: (itemTokens (item :: items) ++ .blockEnd :: rest) := by
        simp [nodeTokens]
      rw [tokens_eq]
      exact readNode_sequence (readBlockItems_itemTokens each handles rest)
    · exact readBlockPart_of_node rfl (readNode_indentless ⟨_, rfl⟩
        (readIndentless_itemTokens (List.cons_ne_nil item items) each handles ends))

theorem readsNode_obj (each : ∀ field ∈ fields, ReadsNode field.2) : ReadsNode (.obj fields) := by
  cases fields with
  | nil => exact .of_leaf rfl fun _ _ _ => readNode_emptyMapping
  | cons field fields =>
    refine .of_leaf rfl fun handles indentless rest => ?_
    have tokens_eq : nodeTokens (.obj (field :: fields)) ++ rest =
        .blockMappingStart :: (fieldTokens (field :: fields) ++ .blockEnd :: rest) := by
      simp [nodeTokens]
    rw [tokens_eq]
    exact readNode_mapping (readBlockPairs_fieldTokens each handles rest)

/-- The tokens of a document are read as its node. -/
theorem readsNode {depth : Nat} (writable : doc.IsWritable depth) : ReadsNode doc := by
  induction writable with
  | null | bool | int | str => exact .of_leaf rfl fun _ _ _ => readNode_scalar _ _
  | arr _ _ _ ih => exact readsNode_arr ih
  | obj _ _ _ _ ih => exact readsNode_obj ih

end Reading

/-! ## Documents -/

section Documents

variable {docs : List Json} {doc : Json} {depth : Nat} {tokens rest : List Token}

theorem readRoot_nodeTokens (writable : doc.IsWritable depth) (handles : TagHandles)
    (rest : List Token) : readRoot handles (nodeTokens doc ++ rest) = some (nodeOf doc, rest) := by
  obtain ⟨h, read⟩ := (readsNode writable).as_node handles false rest
  rw [readRoot, read]
  rfl

/-- A root starts an indented mapping. -/
theorem IsRoot.exists_nodeTokens_eq (root : IsRoot depth doc) :
    ∃ tokens, nodeTokens doc = .blockMappingStart :: tokens := by
  obtain ⟨_, field, fields, rfl⟩ := root
  exact ⟨_, rfl⟩

theorem readMarked_documentStart (root : IsRoot depth doc) (rest : List Token) :
    readMarked (.documentStart :: (nodeTokens doc ++ rest)) = some (nodeOf doc, rest) := by
  obtain ⟨tokens, eq⟩ := root.exists_nodeTokens_eq
  have full : isEmptyDocument (nodeTokens doc ++ rest) = false := by
    rw [eq]
    rfl
  unfold readMarked
  simp only [readDirectives, Option.bind_eq_bind, Option.bind_some, full]
  exact readRoot_nodeTokens root.1 _ rest

theorem exists_streamTokens_cons (doc : Json) (docs : List Json) :
    ∃ rest, streamTokens (doc :: docs) = nodeTokens doc ++ rest ∧ dropEndMark rest = rest ∧
      (docs = [] ∧ rest = [.streamEnd] ∨
        docs ≠ [] ∧ rest = .documentStart :: streamTokens docs) := by
  cases docs with
  | nil => exact ⟨_, rfl, rfl, .inl ⟨rfl, rfl⟩⟩
  | cons next docs => exact ⟨_, rfl, rfl, .inr ⟨List.cons_ne_nil next docs, rfl⟩⟩

theorem moreDocuments?_streamTokens (ne : docs ≠ []) (roots : ∀ doc ∈ docs, IsRoot depth doc) :
    moreDocuments? (.documentStart :: streamTokens docs) = some (docs.map nodeOf) := by
  induction docs with
  | nil => exact absurd rfl ne
  | cons doc docs ih =>
    obtain ⟨root, roots⟩ := List.forall_mem_cons.1 roots
    obtain ⟨rest, tokens_eq, no_mark, behind⟩ := exists_streamTokens_cons doc docs
    have marked := readMarked_documentStart root rest
    have shorter : rest.length < (Token.documentStart :: (nodeTokens doc ++ rest)).length := by
      simp only [List.length_cons, List.length_append]
      omega
    rw [tokens_eq, moreDocuments?]
    simp only [dropEndMarks, marked, shorter, if_true, no_mark]
    rcases behind with ⟨rfl, rfl⟩ | ⟨ne, rfl⟩
    · rw [moreDocuments?]
      rfl
    · rw [ih ne roots]
      rfl

/-- The tokens of a written stream are read as the nodes of its documents. -/
theorem documents?_streamTokens (roots : ∀ doc ∈ docs, IsRoot depth doc) :
    documents? (streamTokens docs) = some (docs.map nodeOf) := by
  cases docs with
  | nil => rfl
  | cons doc docs =>
    obtain ⟨root, roots⟩ := List.forall_mem_cons.1 roots
    obtain ⟨rest, tokens_eq, no_mark, behind⟩ := exists_streamTokens_cons doc docs
    obtain ⟨tokens, start⟩ := root.exists_nodeTokens_eq
    have read := readRoot_nodeTokens root.1 defaultHandles rest
    rw [start, List.cons_append] at read
    rw [tokens_eq, start, List.cons_append, documents?]
    · simp only [read, no_mark]
      rcases behind with ⟨rfl, rfl⟩ | ⟨ne, rfl⟩
      · rw [moreDocuments?]
        rfl
      · rw [moreDocuments?_streamTokens ne roots]
        rfl
    all_goals simp

end Documents

end MeshRoutes.Yaml
