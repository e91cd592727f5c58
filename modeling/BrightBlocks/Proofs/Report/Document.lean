import BrightBlocks.Proofs.Report.Dump
import BrightBlocks.Proofs.Report.Json
import BrightBlocks.Report.Document

/-!
# Trees as JSON can be read back

The document of a forest holds everything that the forest is made of, and with a
source at hand also the texts of its leaves. As no two documents are written
alike, the same holds of what is written.
-/

namespace BrightBlocks.Report

variable {source source' : Text}

/-- The document of a leaf shows the leaf and its text. -/
theorem leafDocument_inj {token token' : Token}
    (same : leafDocument (some source) token = leafDocument (some source') token') :
    token = token' ∧ token.text source = token'.text source' := by
  simp only [leafDocument, rangeFields, List.cons_append, List.nil_append, Json.object.injEq,
    List.cons.injEq, Prod.mk.injEq, Json.string.injEq, Json.number.injEq, true_and, and_true]
    at same
  obtain ⟨name, starts, stops, texts⟩ := same
  obtain ⟨kind, start, stop⟩ := token
  obtain ⟨kind', start', stop'⟩ := token'
  obtain rfl := Token.Kind.name_inj name
  obtain rfl : start = start' := starts
  obtain rfl : stop = stop' := stops
  exact ⟨rfl, texts⟩

/-- The document of a block shows its kind, its flags and the documents of its children. -/
theorem blockFields_inj {block block' : Block} {children children' : List Json}
    (same : blockFields block children = blockFields block' children') :
    block.kind = block'.kind ∧ block.closed = block'.closed ∧
      block.singleLine = block'.singleLine ∧ children = children' := by
  simp only [blockFields, rangeFields, List.cons_append, List.nil_append, Json.object.injEq,
    List.cons.injEq, Prod.mk.injEq, Json.string.injEq, Json.number.injEq, Json.flag.injEq,
    Json.array.injEq, true_and, and_true] at same
  obtain ⟨name, -, -, closed, singleLine, inner⟩ := same
  exact ⟨Block.Kind.name_inj name, closed, singleLine, inner⟩

/-- The first field tells a leaf from a block. -/
theorem nodeDocument_leaf_ne_block (shown shown' : Option Text) (token : Token) (kind : Block.Kind)
    (children : List Node) (closed singleLine : Bool) :
    nodeDocument shown (.leaf token) ≠
      nodeDocument shown' (.block kind children closed singleLine) := by
  intro same
  have first := (List.cons.inj (Json.object.inj same)).1
  exact absurd (Prod.mk.inj first).1 (by decide)

/-- The documents of a forest show the forest and the texts of its leaves. -/
theorem forestDocuments_inj {forest forest' : List Node}
    (same : forestDocuments (some source) forest = forestDocuments (some source') forest') :
    forest = forest' ∧ Forest.text forest source = Forest.text forest' source' := by
  induction forest using Forest.induction generalizing forest' with
  | nil =>
    cases forest' with
    | nil => exact ⟨rfl, rfl⟩
    | cons node' forest' => exact absurd same nofun
  | leaf token forest further =>
    rcases forest' with _ | ⟨token' | _, forest'⟩
    · exact absurd same nofun
    · obtain ⟨first, others⟩ := List.cons.inj same
      obtain ⟨rfl, text⟩ := leafDocument_inj first
      obtain ⟨rfl, texts⟩ := further others
      refine ⟨rfl, ?_⟩
      simp only [Forest.text, Forest.leaves, Node.leaves, List.cons_append, List.nil_append,
        List.flatMap_cons] at texts ⊢
      rw [text, texts]
    · exact absurd (List.cons.inj same).1 (nodeDocument_leaf_ne_block _ _ _ _ _ _ _)
  | block kind children closed singleLine forest within further =>
    rcases forest' with _ | ⟨_ | ⟨kind', children', closed', singleLine'⟩, forest'⟩
    · exact absurd same nofun
    · exact absurd (List.cons.inj same).1.symm (nodeDocument_leaf_ne_block _ _ _ _ _ _ _)
    · obtain ⟨first, others⟩ := List.cons.inj same
      obtain ⟨rfl, rfl, rfl, inner⟩ := blockFields_inj first
      obtain ⟨rfl, inside⟩ := within inner
      obtain ⟨rfl, behind⟩ := further others
      refine ⟨rfl, ?_⟩
      simp only [Forest.text, Forest.leaves, Node.leaves, List.flatMap_append] at inside behind ⊢
      rw [inside, behind]

/-- What is written of a file shows the file and the texts of its leaves. -/
theorem fileDocument_render_inj {file file' : File}
    (same : (fileDocument (some source) file).render 0 =
      (fileDocument (some source') file').render 0) :
    file = file' ∧ Forest.text file.children source = Forest.text file'.children source' := by
  have documents := Json.render_inj same
  simp only [fileDocument, rangeFields, List.cons_append, List.nil_append, Json.object.injEq,
    List.cons.injEq, Prod.mk.injEq, Json.number.injEq, Json.array.injEq, true_and, and_true]
    at documents
  obtain ⟨lengths, inner⟩ := documents
  obtain ⟨children, texts⟩ := forestDocuments_inj inner
  obtain ⟨forest, length⟩ := file
  obtain ⟨forest', length'⟩ := file'
  obtain rfl : length = length' := lengths
  obtain rfl : forest = forest' := children
  exact ⟨rfl, texts⟩

end BrightBlocks.Report
