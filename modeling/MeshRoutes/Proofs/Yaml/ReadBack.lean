import MeshRoutes.Proofs.Yaml.Nodes
import MeshRoutes.Proofs.Yaml.OfJson

/-!
# Written streams read back

A written stream is read as the values of its documents, in order. The documents are objects with a
field each, so that every line of theirs belongs to a block.

* `Yaml.evaluates_of_isWritable`: the node of a document means the value of the document.
* `Yaml.parse?_renderAll`: the values of a written stream.
-/

namespace MeshRoutes.Yaml

variable {doc item : Json} {items : List Json} {fields : List (String × Json)} {depth : Nat}

/-! ## Links -/

/-- Whether the node of a document holds no alias, whatever is known of anchors in front of it. -/
def HasNoAlias (doc : Json) : Prop :=
  ∀ anchors, ∃ after, linkNode (nodeOf doc) anchors = some (nodeOf doc, after)

theorem linkItems_itemNodes (each : ∀ item ∈ items, HasNoAlias item) (anchors : Anchors) :
    ∃ after, linkItems (itemNodes items) anchors = some (itemNodes items, after) := by
  induction items generalizing anchors with
  | nil => exact ⟨anchors, rfl⟩
  | cons item items ih =>
    obtain ⟨first, each⟩ := List.forall_mem_cons.1 each
    obtain ⟨between, item_linked⟩ := first anchors
    obtain ⟨after, items_linked⟩ := ih each between
    refine ⟨after, ?_⟩
    simp only [itemNodes, linkItems, item_linked, items_linked, Option.bind_eq_bind,
      Option.bind_some, Option.pure_def]

theorem linkPairs_fieldNodes (each : ∀ field ∈ fields, HasNoAlias field.2) (anchors : Anchors) :
    ∃ after, linkPairs (fieldNodes fields) anchors = some (fieldNodes fields, after) := by
  induction fields generalizing anchors with
  | nil => exact ⟨anchors, rfl⟩
  | cons field fields ih =>
    obtain ⟨first, each⟩ := List.forall_mem_cons.1 each
    obtain ⟨named, name_linked⟩ : ∃ after, linkNode (textNode field.1) anchors =
      some (textNode field.1, after) := ⟨_, rfl⟩
    obtain ⟨between, value_linked⟩ := first named
    obtain ⟨after, fields_linked⟩ := ih each between
    refine ⟨after, ?_⟩
    simp only [fieldNodes, linkPairs, name_linked, value_linked, fields_linked,
      Option.bind_eq_bind, Option.bind_some, Option.pure_def]

theorem hasNoAlias_of_isWritable (writable : doc.IsWritable depth) : HasNoAlias doc := by
  induction writable with
  | null | bool | int | str => exact fun _ => ⟨_, rfl⟩
  | arr _ items _ ih =>
    intro anchors
    obtain ⟨after, linked⟩ := linkItems_itemNodes ih (anchors.start none 2).2
    refine ⟨after, ?_⟩
    rw [nodeOf, nodeOf, linkNode]
    exact (congrArg (Option.bind · _) linked)
  | obj _ fields _ _ ih =>
    intro anchors
    obtain ⟨after, linked⟩ := linkPairs_fieldNodes ih (anchors.start none 2).2
    refine ⟨after, ?_⟩
    rw [nodeOf, nodeOf, linkNode]
    exact (congrArg (Option.bind · _) linked)

/-! ## Values -/

theorem ofPlain?_of_readsAsText {s : String} (reads : readsAsText s = true) :
    Value.ofPlain? s = some (.text s) := by
  have texts : ∀ t, Value.ofPlain? s = some (.text t) → t = s := by
    intro t plain
    unfold Value.ofPlain? at plain
    dsimp only at plain
    split at plain
    · cases plain
    split at plain
    · cases plain
    split at plain
    · cases plain
    · cases plain
    · split at plain
      · exact (Value.text.inj (Option.some.inj plain)).symm
      · split at plain
        · cases plain
        · exact (Value.text.inj (Option.some.inj plain)).symm
  unfold readsAsText at reads
  split at reads
  · next t plain => rw [plain, texts t plain]
  · cases reads

section Evaluates

variable {anchors : Anchors} {followed : Nat}

theorem ofLinked?_scalar (properties : Properties) (text : String) (style : Style) :
    Value.ofLinked? anchors depth (.scalar properties text style) followed =
      (Value.ofText? properties text style).map (·, followed) := by
  cases depth <;> (delta Value.ofLinked?; rfl)

/-- The value of an element, added to those in front of it. -/
def pushItem (anchors : Anchors) (depth : Nat) (read : Array Value × Nat) (item : Node Nat) :
    Option (Array Value × Nat) := do
  let (value, followed) ← Value.ofLinked? anchors depth item read.2
  return (read.1.push value, followed)

/-- The values of a key and what stands behind it, added to those in front of them. -/
def pushPair (anchors : Anchors) (depth : Nat) (read : Array (Value × Value) × Nat)
    (pair : Node Nat × Node Nat) : Option (Array (Value × Value) × Nat) := do
  let (key, followed) ← Value.ofLinked? anchors depth pair.1 read.2
  let (value, followed) ← Value.ofLinked? anchors depth pair.2 followed
  return (read.1.push (key, value), followed)

theorem ofLinked?_sequence (nodes : List (Node Nat)) :
    Value.ofLinked? anchors (depth + 1) (.sequence {} nodes) followed =
      (nodes.foldlM (pushItem anchors depth) (#[], followed)).bind fun read =>
        some (.sequence read.1.toList, read.2) := by
  delta pushItem Value.ofLinked?
  rfl

theorem ofLinked?_mapping (nodes : List (Node Nat × Node Nat)) :
    Value.ofLinked? anchors (depth + 1) (.mapping {} nodes) followed =
      (nodes.foldlM (pushPair anchors depth) (#[], followed)).bind fun read =>
        (Value.mapping? read.1.toList).bind fun value => some (value, read.2) := by
  delta pushPair Value.ofLinked?
  rfl

/-- Whether the node of a document has its value, if collections may nest so deep. -/
def Evaluates (depth : Nat) (doc : Json) : Prop :=
  ∀ anchors followed, Value.ofLinked? anchors depth (nodeOf doc) followed =
    some (Value.ofJson doc, followed)

theorem ofLinked?_plain {text : String} {value : Value} (plain : Value.ofPlain? text = some value)
    (anchors : Anchors) (followed : Nat) :
    Value.ofLinked? anchors depth (.scalar {} text .plain) followed = some (value, followed) := by
  have text_value : Value.ofText? {} text .plain = some value := by
    unfold Value.ofText?
    simp [plain, Value.ownTag?, Value.withTag?]
  rw [ofLinked?_scalar, text_value]
  rfl

theorem ofLinked?_textNode (s : String) (anchors : Anchors) (followed : Nat) :
    Value.ofLinked? anchors depth (textNode s) followed = some (.text s, followed) := by
  unfold textNode
  split
  · next form => exact ofLinked?_plain (ofPlain?_of_readsAsText (readsAsText_of_form form)) _ _
  · rw [ofLinked?_scalar]
    rfl

theorem evaluates_arr (each : ∀ item ∈ items, Evaluates depth item) :
    Evaluates (depth + 1) (.arr items) := by
  intro anchors followed
  have fold (values : Array Value) : (itemNodes items).foldlM (pushItem anchors depth)
      (values, followed) = some ((values.toList ++ Value.ofItems items).toArray, followed) := by
    induction items generalizing values with
    | nil => simp [itemNodes, Value.ofItems]
    | cons item items ih =>
      obtain ⟨first, each⟩ := List.forall_mem_cons.1 each
      have pushed : pushItem anchors depth (values, followed) (nodeOf item) =
          some (values.push (Value.ofJson item), followed) := by
        rw [pushItem, first anchors followed]
        rfl
      rw [itemNodes, List.foldlM_cons, pushed, Option.bind_eq_bind, Option.bind_some, ih each]
      simp [Value.ofItems]
  rw [nodeOf, ofLinked?_sequence, fold]
  rfl

theorem mapping?_ofFields (distinct : (fields.map (·.1)).Nodup) :
    Value.mapping? (Value.ofFields fields) = some (.mapping (Value.ofFields fields)) := by
  refine if_pos ?_
  rw [Value.ofFields_eq_map, List.map_map, List.pairwise_map]
  refine (List.pairwise_map.1 distinct).imp fun ne => ?_
  simpa [Value.same] using ne

theorem evaluates_obj (distinct : (fields.map (·.1)).Nodup)
    (each : ∀ field ∈ fields, Evaluates depth field.2) : Evaluates (depth + 1) (.obj fields) := by
  intro anchors followed
  have fold (values : Array (Value × Value)) :
      (fieldNodes fields).foldlM (pushPair anchors depth) (values, followed) =
        some ((values.toList ++ Value.ofFields fields).toArray, followed) := by
    clear distinct
    induction fields generalizing values with
    | nil => simp [fieldNodes, Value.ofFields]
    | cons field fields ih =>
      obtain ⟨first, each⟩ := List.forall_mem_cons.1 each
      have pushed : pushPair anchors depth (values, followed) (textNode field.1, nodeOf field.2) =
          some (values.push (.text field.1, Value.ofJson field.2), followed) := by
        simp only [pushPair, ofLinked?_textNode, first anchors followed, Option.bind_eq_bind,
          Option.bind_some, Option.pure_def]
      rw [fieldNodes, List.foldlM_cons, pushed, Option.bind_eq_bind, Option.bind_some, ih each]
      simp [Value.ofFields]
  rw [nodeOf, ofLinked?_mapping, fold]
  exact congrArg (Option.bind · _) (mapping?_ofFields distinct)

end Evaluates

theorem evaluates_of_isWritable (writable : doc.IsWritable depth) : Evaluates depth doc := by
  induction writable with
  | null => exact ofLinked?_plain rfl
  | bool _ b => cases b <;> exact ofLinked?_plain rfl
  | int _ n fits => exact ofLinked?_plain (Value.ofPlain?_intText fits)
  | str _ s => exact ofLinked?_textNode s
  | arr _ _ _ ih => exact evaluates_arr ih
  | obj _ _ distinct _ ih => exact evaluates_obj distinct ih

/-- A written stream is read as the values of its documents. -/
theorem parse?_renderAll {docs : List Json} (roots : ∀ doc ∈ docs, IsRoot 128 doc) :
    parse? (renderAll docs) = some (docs.map Value.ofJson) := by
  rw [parse?, tokens?_renderAll roots, Option.bind_eq_bind, Option.bind_some,
    documents?_streamTokens roots, Option.bind_eq_bind, Option.bind_some]
  refine mapM_map_eq_some fun doc mem => ?_
  obtain ⟨after, linked⟩ := hasNoAlias_of_isWritable (roots doc mem).1 {}
  simp only [Value.ofNode?, linked, evaluates_of_isWritable (roots doc mem).1 after 0,
    Option.bind_eq_bind, Option.bind_some, Option.pure_def]

end MeshRoutes.Yaml
