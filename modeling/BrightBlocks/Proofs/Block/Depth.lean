import BrightBlocks.Proofs.Block.Movement

/-!
# How deep blocks nest

`Forest.depth` counts how many blocks stand inside one another. An opener is kept flat
only where as many blocks are open as the limit allows, and all of these are blocks of
the finished tree. So a tree that does not reach its limit is recovered with any other
limit that leaves room for it (`recover_of_depth_lt`).

A tree that is as deep as its limit may be flatter than it would be without one.
-/

namespace BrightBlocks

mutual

/-- How deep blocks nest in a node, the node itself counted if it is one. -/
def Node.depth : Node → Nat
  | .leaf _ => 0
  | .block _ children _ _ => Forest.depth children + 1

/-- How deep blocks nest in a forest. -/
def Forest.depth : List Node → Nat
  | [] => 0
  | node :: rest => max node.depth (Forest.depth rest)

end

namespace Forest

@[simp]
theorem depth_append (left right : List Node) :
    depth (left ++ right) = max (depth left) (depth right) := by
  induction left with
  | nil => simp [depth]
  | cons node rest inductionHypothesis => simp [depth, inductionHypothesis, Nat.max_assoc]

@[simp]
theorem depth_leaf_cons (token : Token) (rest : List Node) :
    depth (.leaf token :: rest) = depth rest := by
  simp [depth, Node.depth]

@[simp]
theorem depth_block_cons (kind : Block.Kind) (children rest : List Node)
    (closed singleLine : Bool) :
    depth (.block kind children closed singleLine :: rest) =
      max (depth children + 1) (depth rest) := rfl

end Forest

namespace Block

/-- Leaves nest no blocks. -/
@[simp]
theorem depth_leafNodes (tokens : List Token) : Forest.depth (leafNodes tokens) = 0 := by
  induction tokens with
  | nil => rfl
  | cons token rest inductionHypothesis =>
    rw [leafNodes, List.map_cons, Forest.depth_leaf_cons]
    exact inductionHypothesis

@[simp]
theorem depth_prepend (front : List Node) (rest : Body) :
    Forest.depth (rest.prepend front).children =
      max (Forest.depth front) (Forest.depth rest.children) :=
  Forest.depth_append front rest.children

section

variable {source : Text} {limit limit' opened : Nat} {cursor : Cursor}

/-- The cursor behind the header of a block counts the block. -/
theorem depth_of_header {after : Cursor} {token : Token} (kind : Kind)
    (taken : cursor.advance? source = some (token, after)) (counted : cursor.depth = opened) :
    (header source kind .opening after.enter).cursor.depth = opened + 1 := by
  rw [(header_moves source kind .opening after.enter).depth, ← counted]
  exact congrArg (· + 1) (Cursor.Moves.of_advance? taken).depth

/--
A body that stays below its limit is read in the same way with any other limit that leaves room for
it: where an opener is kept flat, as many blocks are open as the limit allows.
-/
theorem BodyReads.body_eq_of_room {kind : Kind} {result : Body}
    (reads : BodyReads source limit kind cursor result) (counted : cursor.depth = opened)
    (spare : opened + Forest.depth result.children < limit)
    (enough : opened + Forest.depth result.children ≤ limit') :
    body source limit' kind cursor = result := by
  induction reads generalizing opened with
  | ended stuck =>
    rw [body_eq]
    simp only [stuck]
  | branch taken found further inductionHypothesis =>
    rw [depth_prepend, depth_leafNodes, Nat.zero_max] at spare enough
    have rest_eq :=
      inductionHypothesis ((branch_moves source _ _ _).depth.trans counted) spare enough
    rw [body_eq]
    simp only [taken, found, rest_eq]
  | tryEnd taken found | close taken found | defer taken found =>
    rw [body_eq]
    simp only [taken, found]
  | nest taken found allowed inside further nestedHypothesis inductionHypothesis =>
    rename_i kind inner cursor after token word nested rest
    obtain ⟨meaning, opens⟩ := opener_of_turn_nest found
    rw [meaning] at found
    have left := (block_moves taken inside.moves).depth.trans counted
    simp only [depth_prepend, Forest.depth, Node.depth, Forest.depth_append, depth_leafNodes]
      at spare enough
    have nested_eq := nestedHypothesis (depth_of_header inner taken counted) (by omega) (by omega)
    have rest_eq := inductionHypothesis left (by omega) (by omega)
    have allowed' : cursor.depth < limit' := by omega
    rw [body_eq]
    simp only [taken, found, meaning, statement_of_opener opens allowed', block,
      Cursor.take_enter_eq taken, nested_eq, rest_eq]
    rfl
  | flat taken found full further inductionHypothesis => omega
  | plain taken found further inductionHypothesis =>
    rw [depth_prepend, Forest.depth_leaf_cons, Forest.depth, Nat.zero_max] at spare enough
    have rest_eq :=
      inductionHypothesis ((Cursor.Moves.of_advance? taken).depth.trans counted) spare enough
    rw [body_eq]
    simp only [taken, found, statement_of_not_opener (opener_of_turn_plain found),
      Cursor.take_eq taken, rest_eq]
    rfl

/-- What a cursor reads at its next token, where one is ahead. -/
theorem forest_eq {after : Cursor} {token : Token}
    (taken : cursor.advance? source = some (token, after)) :
    forest source limit cursor =
      let read := statement source limit ((role source token).structural cursor.previous)
        (cursor.fill 1)
      ((read.1 ++ (forest source limit read.2).1), (forest source limit read.2).2) := by
  have some_ahead : cursor.ahead ≠ [] := by
    rw [Cursor.ahead_of_advance? taken]
    exact List.cons_ne_nil _ _
  rw [forest, dif_neg some_ahead]
  simp only [structuralWord_eq taken]

/-- A file that stays below its limit is read in the same way with any that leaves room for it. -/
theorem ForestReads.forest_eq_of_room {nodes : List Node} {last : Cursor}
    (reads : ForestReads source limit cursor nodes last) (counted : cursor.depth = 0)
    (spare : Forest.depth nodes < limit) (enough : Forest.depth nodes ≤ limit') :
    forest source limit' cursor = (nodes, last) := by
  induction reads with
  | ended nothing => rw [forest, dif_pos nothing]
  | nest taken found opens allowed inside further inductionHypothesis =>
    rename_i cursor after last token word kind nested rest
    have drawn := (Cursor.advance?_fill cursor source).trans taken
    have left := (block_moves taken inside.moves).depth.trans counted
    simp only [Forest.depth_block_cons, Forest.depth_append, depth_leafNodes] at spare enough
    have nested_eq : body source limit' kind
        (header source kind .opening after.enter).cursor = nested :=
      inside.body_eq_of_room (depth_of_header kind taken counted) (by omega) (by omega)
    have rest_eq := inductionHypothesis left (by omega) (by omega)
    have allowed' : (cursor.fill 1).depth < limit' := by
      show cursor.depth < limit'
      omega
    rw [forest_eq taken]
    simp only [found, statement_of_opener opens allowed', block, Cursor.take_enter_eq drawn,
      nested_eq, rest_eq]
    rfl
  | flat taken found opens full further inductionHypothesis => omega
  | plain taken found further inductionHypothesis =>
    rename_i cursor after last token rest
    have drawn := (Cursor.advance?_fill cursor source).trans taken
    rw [Forest.depth_leaf_cons] at spare enough
    have rest_eq :=
      inductionHypothesis ((Cursor.Moves.of_advance? taken).depth.trans counted) spare enough
    rw [forest_eq taken]
    simp only [statement_of_not_opener found, Cursor.take_eq drawn, rest_eq]
    rfl

end

/-- A stream whose blocks nest below the limit is read in the same way with any that they fit. -/
theorem forest_eq_of_depth_lt {source : Text} {limit limit' : Nat} {tokens : List Token}
    (spare : Forest.depth (recover source limit tokens).1.children < limit)
    (enough : Forest.depth (recover source limit tokens).1.children ≤ limit') :
    forest source limit' (Cursor.ofTokens tokens) = forest source limit (Cursor.ofTokens tokens) :=
  (forest_reads source limit (Cursor.ofTokens tokens)).forest_eq_of_room rfl spare enough

/--
The nesting limit matters only where it is hit. A tree that nests below its limit is recovered with
every limit that it fits, also one that is just its depth, and with the same notices on the way.
-/
theorem recover_of_depth_lt {source : Text} {limit limit' : Nat} {tokens : List Token}
    (spare : Forest.depth (recover source limit tokens).1.children < limit)
    (enough : Forest.depth (recover source limit tokens).1.children ≤ limit') :
    recover source limit' tokens = recover source limit tokens := by
  unfold recover file
  rw [forest_eq_of_depth_lt spare enough]

/-- A loop with a conditional that it closes is recovered with the limit two as with three. -/
theorem recover_of_depth_lt_in_loop :
    let source : Text := "while a\nif b\nend while".toList
    let tokens := Token.tokenize source
    (Forest.depth (recover source 3 tokens).1.children < 3 ∧
      Forest.depth (recover source 3 tokens).1.children ≤ 2) ∧
    recover source 2 tokens = recover source 3 tokens := by
  intro source tokens
  have depth : Forest.depth (recover source 3 tokens).1.children = 2 := by decide +kernel
  have spare : Forest.depth (recover source 3 tokens).1.children < 3 := by omega
  have enough : Forest.depth (recover source 3 tokens).1.children ≤ 2 := by omega
  exact ⟨⟨spare, enough⟩, recover_of_depth_lt spare enough⟩

end Block

end BrightBlocks
