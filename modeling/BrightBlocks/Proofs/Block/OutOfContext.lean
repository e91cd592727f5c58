import BrightBlocks.Proofs.Block.Composition
import BrightBlocks.Proofs.Block.Depth
import BrightBlocks.Proofs.Block.Ranges
import BrightBlocks.Proofs.Block.Standalone
import BrightBlocks.Proofs.Token.Stretch

/-!
# Closed blocks out of context

The part of a source that a closed block covers is parsed to that block alone, at other
offsets (`parse_slice_of_closed`). Its tokens are those of the block
(`Token.exists_stretch`), they mean what they meant in the source, and read from the start of
a file they make up the block (`standalone_of_closed`).

Where the tree is as deep as the limit this can fail: an opener that was kept flat inside a block
opens one once there are fewer blocks around it.
-/

namespace BrightBlocks

/-! ## Forests at another place -/

mutual

theorem Node.leaves_shift (offset : Nat) :
    (node : Node) → (node.shift offset).leaves = node.leaves.map (Token.shift offset)
  | .leaf _ => rfl
  | .block _ children _ _ => Forest.leaves_shift offset children

theorem Forest.leaves_shift (offset : Nat) :
    (forest : List Node) →
      Forest.leaves (Forest.shift offset forest) = (Forest.leaves forest).map (Token.shift offset)
  | [] => rfl
  | node :: rest => by
    simp only [Forest.shift, Forest.leaves, List.map_append, Node.leaves_shift offset node,
      Forest.leaves_shift offset rest]

end

mutual

theorem Node.depth_shift (offset : Nat) : (node : Node) → (node.shift offset).depth = node.depth
  | .leaf _ => rfl
  | .block _ children _ _ => congrArg (· + 1) (Forest.depth_shift offset children)

theorem Forest.depth_shift (offset : Nat) :
    (forest : List Node) → Forest.depth (Forest.shift offset forest) = Forest.depth forest
  | [] => rfl
  | node :: rest => by
    simp only [Forest.shift, Forest.depth, Node.depth_shift offset node,
      Forest.depth_shift offset rest]

end

mutual

theorem Node.depth_le_of_mem_walk {block : Block} :
    (node : Node) → block ∈ node.walk → block.node.depth ≤ node.depth
  | .leaf token, member => absurd member List.not_mem_nil
  | .block kind children closed singleLine, member => by
    rcases List.mem_cons.mp member with rfl | inside
    · exact Nat.le_refl _
    · exact (Forest.depth_le_of_mem_walk children inside).trans (Nat.le_succ _)

/-- A block nests no deeper than the forest that it is in. -/
theorem Forest.depth_le_of_mem_walk {block : Block} :
    (forest : List Node) → block ∈ Forest.walk forest → block.node.depth ≤ Forest.depth forest
  | [], member => absurd member List.not_mem_nil
  | node :: rest, member => by
    rcases List.mem_append.mp member with first | later
    · exact (Node.depth_le_of_mem_walk node first).trans (Nat.le_max_left _ _)
    · exact (Forest.depth_le_of_mem_walk rest later).trans (Nat.le_max_right _ _)

end

/-- A forest that is one node at another place is one node. -/
theorem Forest.eq_singleton_of_shift {offset : Nat} {forest : List Node} {node : Node}
    (shifted : Forest.shift offset forest = [node]) :
    ∃ origin, forest = [origin] ∧ origin.shift offset = node := by
  match forest with
  | [] => simp [Forest.shift] at shifted
  | [origin] => exact ⟨origin, rfl, by simpa [Forest.shift] using shifted⟩
  | origin :: second :: rest => simp [Forest.shift] at shifted

namespace Block

/-! ## Two runs over the same tokens -/

section

variable {α : Type} {view view' : Token → Option α} {source source' : Text}

/-- Behind a token that is no gap nothing is looked at. -/
theorem roleOnLine_congr_of_last {tokens tokens' : List Token} {last last' : Token}
    (alike : List.Forall₂ (TokenAlike view view' source source') tokens tokens')
    (ends : TokenAlike view view' source source' last last') (unspaced : role source last ≠ .gap)
    (behind behind' : List Token) :
    roleOnLine source (tokens ++ last :: behind) =
      roleOnLine source' (tokens' ++ last' :: behind') := by
  have unspaced' : role source' last' ≠ .gap := ends.role ▸ unspaced
  cases alike with
  | nil => simp [roleOnLine, unspaced', ends.role]
  | cons first rest =>
    cases rest with
    | nil => simp [roleOnLine, first.role, ends.role]
    | cons second others => simp [roleOnLine, first.role, second.role]

/-- Tokens in front of one that is no gap are read alike where they and it mean the same. -/
theorem ReadsAlike.of_last {tokens tokens' : List Token} {last last' : Token}
    (alike : List.Forall₂ (TokenAlike view view' source source') tokens tokens')
    (ends : TokenAlike view view' source source' last last') (unspaced : role source last ≠ .gap)
    (behind behind' : List Token) :
    ReadsAlike view view' source source' (last :: behind) (last' :: behind') tokens tokens' := by
  induction alike with
  | nil => exact .nil
  | cons first rest inductionHypothesis =>
    refine .cons ⟨first, fun _ _ => .of_role ?_⟩ inductionHypothesis
    exact roleOnLine_congr_of_last rest ends unspaced behind behind'

/--
Where tokens complete what they make up, so do tokens that mean the same against another source, and
what they make up looks the same.
-/
theorem shape_run_of_completed {limit : Nat} {tokens tokens' behind : List Token}
    {last last' : Token} {nodes : List Node}
    (alike : List.Forall₂ (TokenAlike view view' source source') tokens tokens')
    (ends : TokenAlike view view' source source' last last') (unspaced : role source last ≠ .gap)
    (ended :
      let completed :=
        (Machine.start.feed source limit (last :: behind) tokens).read source limit last []
      completed.stack = [] ∧ completed.root = nodes) :
    Forest.shape view' (Machine.start.run source' limit (tokens' ++ [last'])).root =
      Forest.shape view nodes := by
  have reads : ReadsAlike view view' source source' (last :: behind) [last'] tokens tokens' :=
    .of_last alike ends unspaced behind []
  have closing : ReadAlike view view' source source' last last' [] [] :=
    ⟨ends, fun _ _ => .of_role rfl⟩
  have same : Machine.Alike view view' []
      ((Machine.start.feed source limit (last :: behind) tokens).read source limit last [])
      ((Machine.start.feed source' limit [last'] tokens').read source' limit last' []) :=
    (Machine.Alike.start.feed limit reads).read closing
  obtain ⟨stack, root⟩ := ended
  have settled : Machine.unwind (fun _ => false) .leftOpen
      ((Machine.start.feed source' limit [last'] tokens').read source' limit last' []) = _ :=
    Machine.unwind_of_nothing_open (same.stack_eq_nil.mp stack)
  rw [Machine.run_eq_unwind, Machine.feed_append, ← root]
  refine Eq.trans ?_ same.root.symm
  exact congrArg (fun machine : Machine => Forest.shape view' machine.root) settled

end

/-- A source that stays below its limit is parsed in the same way with any that it fits. -/
theorem parse_eq_of_depth_lt {source : Text} {limit limit' : Nat}
    (spare : Forest.depth (parse source limit).children < limit)
    (enough : Forest.depth (parse source limit).children ≤ limit') :
    parse source limit' = parse source limit := by
  unfold parse recover file
  rw [forest_eq_of_depth_lt spare enough]

/-- The text under the tokens of a block that stands alone is parsed to the block. -/
theorem parse_of_standalone {source : Text} {limit : Nat} {block : Block}
    (standalone : Machine.Standalone source limit (Token.tokensFrom 0 source) block) :
    ∃ (front text back : Text) (node : Node), source = front ++ (text ++ back) ∧ text ≠ [] ∧
      (parse text limit).children = [node] ∧ node.shift front.length = block.node := by
  obtain ⟨before, own, last, behind, split, unspaced, ended⟩ := standalone
  rw [← List.singleton_append, ← List.append_assoc own] at split
  obtain ⟨front, text, back, rfl, tokens⟩ := Token.exists_stretch split
  obtain ⟨own', last', alone, rfl, same⟩ := List.map_eq_append_iff.mp tokens.symm
  obtain ⟨last', rfl, rfl⟩ := List.map_eq_singleton_iff.mp same
  have means (token : Token) (member : token ∈ own' ++ [last']) :
      TokenAlike some (fun token => some (token.shift front.length)) (front ++ (text ++ back)) text
        (token.shift front.length) token :=
    ⟨role_of_stretch front text back (alone ▸ member), rfl⟩
  have alike : List.Forall₂ (TokenAlike some (fun token => some (token.shift front.length))
      (front ++ (text ++ back)) text) (own'.map (Token.shift front.length)) own' := by
    rw [List.forall₂_map_left_iff, List.forall₂_same]
    exact fun token member => means token (List.mem_append_left _ member)
  have ends := means last' (List.mem_append_right _ List.mem_cons_self)
  have shifted : Forest.shift front.length (parse text limit).children = [block.node] := by
    apply Forest.eq_of_shape_eq
    rw [Forest.shape_shift, parse_children, alone]
    exact shape_run_of_completed alike ends unspaced (ended [])
  have nonempty : text ≠ [] := by
    rintro rfl
    rw [Token.tokensFrom_nil] at alone
    simp at alone
  obtain ⟨node, only, same⟩ := Forest.eq_singleton_of_shift shifted
  exact ⟨front, text, back, node, rfl, nonempty, only, same⟩

/--
A closed block is parsed to the same out of context: where the tree of a source does not reach the
nesting limit, the part of the source that the block covers is a file of its own with that block as
its only child, moved to the start.
-/
theorem parse_slice_of_closed {source : Text} {limit : Nat} {block : Block}
    (spare : Forest.depth (parse source limit).children < limit)
    (member : block ∈ Forest.walk (parse source limit).children) (closed : block.closed = true) :
    ∃ (offset : Nat) (node : Node), block.start = offset ∧ node.shift offset = block.node ∧
      parse (block.slice source) limit = ⟨[node], block.stop - block.start⟩ := by
  -- With room for as many blocks as tokens no opener is kept flat, however many are around it.
  let wide := max limit (Token.tokensFrom 0 source).length
  have widened : parse source wide = parse source limit :=
    parse_eq_of_depth_lt spare (spare.le.trans (Nat.le_max_left _ _))
  have standalone : Machine.Standalone source wide (Token.tokensFrom 0 source) block := by
    apply standalone_of_closed (Nat.le_max_right _ _) _ closed
    rwa [← parse_children, widened]
  obtain ⟨front, text, back, node, rfl, nonempty, parsed, shifted⟩ :=
    parse_of_standalone standalone
  have fits : Forest.depth (parse text wide).children < limit := by
    rw [parsed, Forest.depth, Forest.depth, Nat.max_zero, ← Node.depth_shift front.length, shifted]
    exact (Forest.depth_le_of_mem_walk _ member).trans_lt spare
  have narrowed : parse text limit = parse text wide :=
    parse_eq_of_depth_lt (fits.trans_le (Nat.le_max_left _ _)) fits.le
  have leaves : Forest.leaves block.children = Token.tokensFrom front.length text := by
    have own := parse_leaves text wide
    rw [parsed, Forest.leaves, Forest.leaves, List.append_nil] at own
    have later := Token.tokensFrom_shift front.length 0 text
    rw [Nat.zero_add, ← own, ← Node.leaves_shift, shifted] at later
    exact later.symm
  have wide_text : (front.length : Int) < front.length + text.length := by
    have some_text := List.length_pos_iff.mpr nonempty
    omega
  obtain ⟨start, stop⟩ :=
    ends_of_tiles (leaves ▸ Token.tokensFrom_tiles front.length text) wide_text
  have slice : block.slice (front ++ (text ++ back)) = text := by
    rw [Block.slice, start, stop, ← Int.natCast_add, Token.slice_ofNat]
    simp
  refine ⟨front.length, node, start, shifted, ?_⟩
  rw [slice, narrowed, start, stop]
  have whole : parse text wide = ⟨(parse text wide).children, (parse text wide).length⟩ := rfl
  rw [whole, parsed, parse_length]
  congr 1
  omega

/-- A loop in a subroutine is parsed to the same alone, with the conditional that it closes. -/
theorem parse_slice_of_closed_in_sub :
    let source : Text := "sub f\nwhile a\nif b\nend while\nend sub".toList
    ∃ block, (Forest.depth (parse source 4).children < 4 ∧
        block ∈ Forest.walk (parse source 4).children ∧ block.closed = true) ∧
      ∃ (offset : Nat) (node : Node), block.start = offset ∧ node.shift offset = block.node ∧
        parse (block.slice source) 4 = ⟨[node], block.stop - block.start⟩ := by
  intro source
  have spare : Forest.depth (parse source 4).children < 4 := by decide +kernel
  have inside : ∃ block ∈ Forest.walk (parse source 4).children,
      block.closed = true ∧ block.kind = .whileLoop := by
    decide +kernel
  obtain ⟨block, member, closed, -⟩ := inside
  exact ⟨block, ⟨spare, member, closed⟩, parse_slice_of_closed spare member closed⟩

end Block

end BrightBlocks
