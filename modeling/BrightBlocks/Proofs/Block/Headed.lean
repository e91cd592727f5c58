import BrightBlocks.Proofs.Block.Reading

/-!
# Blocks start with a token

No block of a recovered tree is empty: its first child is the token that opened it
(`BodyReads.headed`, `ForestReads.headed`). Called by hand, a block or a statement can be
read where no token is left, so there a token ahead is asked for.
-/

namespace BrightBlocks.Block

/-- Every block in a list starts with a token. -/
def Headed (blocks : List Block) : Prop :=
  ∀ block ∈ blocks, ∃ token rest, block.children = .leaf token :: rest

@[simp]
theorem walk_leafNodes (leaves : List Token) : Forest.walk (leafNodes leaves) = [] :=
  Forest.walk_map_leaf leaves

theorem Headed.block_cons {token : Token} {leaves : List Token} {kind : Kind}
    {inside rest : List Node} {closed singleLine : Bool} (within : Headed (Forest.walk inside))
    (further : Headed (Forest.walk rest)) :
    Headed (Forest.walk
      (.block kind (leafNodes (token :: leaves) ++ inside) closed singleLine :: rest)) := by
  simp only [Forest.walk, Node.walk, Forest.walk_append, walk_leafNodes, List.nil_append,
    List.cons_append]
  refine List.forall_mem_cons.mpr ⟨⟨token, _, rfl⟩, ?_⟩
  exact List.forall_mem_append.mpr ⟨within, further⟩

section

variable {source : Text} {limit : Nat}

theorem BodyReads.headed {kind : Kind} {cursor : Cursor} {result : Body}
    (reads : BodyReads source limit kind cursor result) :
    Headed (Forest.walk result.children) := by
  induction reads with
  | ended | close | defer => exact List.forall_mem_nil _
  | tryEnd =>
    rw [walk_leafNodes]
    exact List.forall_mem_nil _
  | branch taken found further inductionHypothesis =>
    rwa [Body.prepend, Forest.walk_append, walk_leafNodes]
  | nest taken found allowed inside further nestedHypothesis inductionHypothesis =>
    exact nestedHypothesis.block_cons inductionHypothesis
  | flat taken found full further inductionHypothesis => exact inductionHypothesis
  | plain taken found further inductionHypothesis => exact inductionHypothesis

theorem ForestReads.headed {cursor last : Cursor} {result : List Node}
    (reads : ForestReads source limit cursor result last) : Headed (Forest.walk result) := by
  induction reads with
  | ended nothing => exact List.forall_mem_nil _
  | nest taken found opens allowed inside further inductionHypothesis =>
    exact inside.headed.block_cons inductionHypothesis
  | flat taken found opens full further inductionHypothesis => exact inductionHypothesis
  | plain taken found further inductionHypothesis => exact inductionHypothesis

/-- A block starts with a token if there is one. -/
theorem headed_of_block {cursor : Cursor} (kind : Kind) (more : cursor.ahead ≠ []) :
    Headed (Forest.walk [(block source limit kind cursor).1.node]) := by
  cases taken : cursor.advance? source with
  | none => exact absurd (Cursor.advance?_eq_none_iff.mp taken) more
  | some pair =>
    obtain ⟨token, after⟩ := pair
    rw [block, Cursor.take_enter_eq taken]
    exact (body_reads source limit kind _).headed.block_cons (List.forall_mem_nil _)

/-- What stands in a block starts with a token, block for block. -/
theorem headed_children_of_block (kind : Kind) (cursor : Cursor) :
    Headed (Forest.walk (block source limit kind cursor).1.children) := by
  rw [block, Forest.walk_append, walk_leafNodes, List.nil_append]
  exact (body_reads source limit kind _).headed

/-- The block of a statement starts with a token if there is one where the opener is handed over. -/
theorem headed_of_statement {cursor : Cursor} {word : Option String}
    (more : ∀ kind, word.bind Kind.ofOpener? = some kind → cursor.ahead ≠ []) :
    Headed (Forest.walk (statement source limit word cursor).1) := by
  unfold statement
  split
  · dsimp only
    rw [walk_leafNodes]
    exact List.forall_mem_nil _
  · rename_i kind opens
    split
    · exact headed_of_block kind (more kind opens)
    · dsimp only
      rw [walk_leafNodes]
      exact List.forall_mem_nil _

end

end BrightBlocks.Block
