import BrightBlocks.Proofs.Report.Document

/-!
# Trees and their documents are equal together

The document of a file or block says neither more nor less than the tree: two of them are the same,
in whatever order the fields of their objects are taken, if and only if the trees are
(`sameItems_forestDocuments_iff`). Where a node starts and ends is read off its leaves, so the
ranges that equality of trees does not ask for are the same as well. A source adds one field to
each leaf, its text, and nothing else (`forestDocuments_annotate`).

Fragments have no document.
-/

namespace BrightBlocks

namespace Json

mutual

/-- Whether values are the same, apart from the order of fields, of which none has a name twice. -/
def same : Json → Json → Bool
  | .number value, .number value' => value = value'
  | .flag value, .flag value' => value = value'
  | .string value, .string value' => value = value'
  | .array items, .array items' => sameItems items items'
  | .object fields, .object fields' =>
    fields.length = fields'.length && sameFields fields fields'
  | _, _ => false

/-- Whether items are the same, one by one. -/
def sameItems : List Json → List Json → Bool
  | [], [] => true
  | item :: rest, item' :: rest' => item.same item' && sameItems rest rest'
  | _, _ => false

/-- Whether every field is found among others, with the same value. -/
def sameFields : List (String × Json) → List (String × Json) → Bool
  | [], _ => true
  | (name, value) :: rest, others =>
    (others.lookup name).any value.same && sameFields rest others

end

mutual

/-- Adds the text to every object that describes a token, read off the range that it shows. -/
def annotate (source : Text) : Json → Json
  | .array items => .array (annotateItems source items)
  | .object fields =>
    match fields.lookup "token", fields.lookup "start", fields.lookup "end" with
    | some _, some (.number start), some (.number stop) =>
      .object (annotateFields source fields ++ [("text", .string (source.slice start stop))])
    | _, _, _ => .object (annotateFields source fields)
  | value => value

/-- Adds texts to the items of an array. -/
def annotateItems (source : Text) : List Json → List Json
  | [] => []
  | item :: rest => item.annotate source :: annotateItems source rest

/-- Adds texts to the values of fields. -/
def annotateFields (source : Text) : List (String × Json) → List (String × Json)
  | [] => []
  | (name, value) :: rest => (name, value.annotate source) :: annotateFields source rest

end

end Json

namespace Report

/-! ## Equality -/

section

variable {shown : Option Text}

/-- The documents of leaves are the same where the leaves are. -/
theorem same_leafDocument_iff {token token' : Token} :
    (leafDocument shown token).same (leafDocument shown token') = true ↔ token = token' := by
  constructor
  · intro same
    have fields : token.kind.name.toList = token'.kind.name.toList ∧ token.start = token'.start ∧
        token.stop = token'.stop := by
      cases shown <;>
        simp [leafDocument, rangeFields, Json.same, Json.sameFields, List.lookup_cons] at same <;>
        simp [same]
    obtain ⟨name, starts, stops⟩ := fields
    obtain ⟨kind, start, stop⟩ := token
    obtain ⟨kind', start', stop'⟩ := token'
    obtain rfl := Token.Kind.name_inj name
    exact congrArg₂ (Token.mk kind) starts stops
  · rintro rfl
    cases shown <;> simp [leafDocument, rangeFields, Json.same, Json.sameFields, List.lookup_cons]

/-- The documents of blocks are the same where all that they show is. -/
theorem same_blockFields_iff {block block' : Block} {children children' : List Json} :
    (blockFields block children).same (blockFields block' children') = true ↔
      block.kind = block'.kind ∧ block.start = block'.start ∧ block.stop = block'.stop ∧
        block.closed = block'.closed ∧ block.singleLine = block'.singleLine ∧
        Json.sameItems children children' = true := by
  have names : block.kind.name.toList = block'.kind.name.toList ↔ block.kind = block'.kind :=
    ⟨Block.Kind.name_inj, fun same => by rw [same]⟩
  simp [blockFields, rangeFields, Json.same, Json.sameFields, List.lookup_cons, names]

/-- A leaf has fewer fields than a block. -/
theorem same_leaf_block (token : Token) (block : Block) (children : List Json) :
    (leafDocument shown token).same (blockFields block children) = false ∧
      (blockFields block children).same (leafDocument shown token) = false := by
  cases shown <;> simp [leafDocument, blockFields, rangeFields, Json.same]

/-- The documents of forests are the same where the forests are. -/
theorem sameItems_forestDocuments_iff {forest forest' : List Node} :
    Json.sameItems (forestDocuments shown forest) (forestDocuments shown forest') = true ↔
      forest = forest' := by
  induction forest using Forest.induction generalizing forest' with
  | nil => cases forest' <;> simp [forestDocuments, Json.sameItems]
  | leaf token forest further =>
    rcases forest' with _ | ⟨token' | ⟨kind', children', closed', singleLine'⟩, forest'⟩
    · simp [forestDocuments, Json.sameItems]
    · simp [forestDocuments, nodeDocument, Json.sameItems, same_leafDocument_iff, further]
    · simp [forestDocuments, nodeDocument, Json.sameItems, same_leaf_block]
  | block kind children closed singleLine forest within further =>
    rcases forest' with _ | ⟨token' | ⟨kind', children', closed', singleLine'⟩, forest'⟩
    · simp [forestDocuments, Json.sameItems]
    · simp [forestDocuments, nodeDocument, Json.sameItems, same_leaf_block]
    · simp only [forestDocuments, nodeDocument, Json.sameItems, Bool.and_eq_true,
        same_blockFields_iff, within, further, List.cons.injEq, Node.block.injEq]
      constructor
      · rintro ⟨⟨kinds, -, -, flags, lines, children⟩, behind⟩
        exact ⟨⟨kinds, children, flags, lines⟩, behind⟩
      · rintro ⟨⟨rfl, rfl, rfl, rfl⟩, rfl⟩
        simp

theorem same_fileDocument_iff {file file' : File} :
    (fileDocument shown file).same (fileDocument shown file') = true ↔ file = file' := by
  obtain ⟨children, length⟩ := file
  obtain ⟨children', length'⟩ := file'
  simp [fileDocument, rangeFields, Json.same, Json.sameFields, List.lookup_cons,
    sameItems_forestDocuments_iff, and_comm]

theorem same_blockDocument_iff {block block' : Block} :
    (blockDocument shown block).same (blockDocument shown block') = true ↔ block = block' := by
  rw [blockDocument, blockDocument, same_blockFields_iff, sameItems_forestDocuments_iff]
  constructor
  · rintro ⟨kinds, -, -, flags, lines, children⟩
    obtain ⟨kind, inner, closed, singleLine⟩ := block
    obtain ⟨kind', inner', closed', singleLine'⟩ := block'
    rw [Block.mk.injEq]
    exact ⟨kinds, children, flags, lines⟩
  · rintro rfl
    simp

/-- A file has fewer fields than a block. -/
theorem same_file_block (file : File) (block : Block) :
    (fileDocument shown file).same (blockDocument shown block) = false ∧
      (blockDocument shown block).same (fileDocument shown file) = false := by
  simp [fileDocument, blockDocument, blockFields, rangeFields, Json.same]

/-- The documents of files and blocks are the same where the trees are. -/
theorem same_document?_iff (shown : Option Text) (left right : Tree) :
    left.same right = true ↔
      ∃ document document', document? shown left = some document ∧
        document? shown right = some document' ∧ document.same document' = true := by
  cases left <;> cases right <;>
    simp [document?, Tree.same, same_fileDocument_iff, same_blockDocument_iff, same_file_block]

end

/-! ## Texts -/

section

variable {source : Text}

theorem leafDocument_annotate (token : Token) :
    (leafDocument none token).annotate source = leafDocument (some source) token := by
  simp [leafDocument, rangeFields, Json.annotate, Json.annotateFields, List.lookup_cons, Token.text]

theorem blockFields_annotate (block : Block) (children : List Json) :
    (blockFields block children).annotate source =
      blockFields block (Json.annotateItems source children) := by
  simp [blockFields, rangeFields, Json.annotate, Json.annotateFields, List.lookup_cons,
    List.lookup_nil]

/-- With a source the documents of a forest have the texts of the leaves as well, and no more. -/
theorem forestDocuments_annotate (forest : List Node) :
    Json.annotateItems source (forestDocuments none forest) =
      forestDocuments (some source) forest := by
  induction forest using Forest.induction with
  | nil => rfl
  | leaf token forest further =>
    rw [forestDocuments, forestDocuments, Json.annotateItems, further, nodeDocument, nodeDocument,
      leafDocument_annotate]
  | block kind children closed singleLine forest within further =>
    rw [forestDocuments, forestDocuments, Json.annotateItems, further, nodeDocument, nodeDocument,
      blockFields_annotate, within]

/-- With a source the document of a file or block has the texts of its leaves as well. -/
theorem document?_annotate (tree : Tree) :
    document? (some source) tree = (document? none tree).map (Json.annotate source) := by
  cases tree with
  | file file =>
    refine congrArg some ?_
    simp [fileDocument, rangeFields, Json.annotate, Json.annotateFields, List.lookup_cons,
      List.lookup_nil, forestDocuments_annotate]
  | block block =>
    refine congrArg some ?_
    rw [blockDocument, blockDocument, blockFields_annotate, forestDocuments_annotate]
  | fragment children => rfl

end

/--
Documents are faithful. Two files or blocks are equal if and only if their documents are, whether
these show a source or not. The document that shows a source is the one that shows none, with one
more field for each leaf: its text.
-/
theorem document?_faithful :
    (∀ (left right : Tree) (shown : Option Text), left.same right = true ↔
      ∃ document document', document? shown left = some document ∧
        document? shown right = some document' ∧ document.same document' = true) ∧
    ∀ (tree : Tree) (source : Text),
      document? (some source) tree = (document? none tree).map (Json.annotate source) :=
  ⟨fun left right shown => same_document?_iff shown left right,
    fun tree _ => document?_annotate tree⟩

end Report

end BrightBlocks
