import BrightBlocks.Proofs.Block.Reading

/-!
# How reading moves a cursor

`Moves source before placed after` says what placing tokens does to a cursor:
they come off the front of what is ahead, they are counted, and the last
significant word follows them. The number of open blocks and the end of the
stream stay as they are. How many tokens have been drawn, and what has been
noted down, are left open.

Every part of the recovery moves its cursor by the leaves that it yields
(`HeaderReads.moves`, `closeWithEnd_moves`, `BodyReads.moves`, `ForestReads.moves`),
also where tokens were put back on the way.
-/

namespace BrightBlocks.Block

/-- The last significant word once tokens have been passed. -/
def trail (source : Text) (previous : Option String) (tokens : List Token) : Option String :=
  tokens.foldl (fun word token => (role source token).follow word) previous

@[simp]
theorem trail_nil (source : Text) (previous : Option String) :
    trail source previous [] = previous :=
  rfl

@[simp]
theorem trail_cons (source : Text) (previous : Option String) (token : Token)
    (rest : List Token) : trail source previous (token :: rest) =
      trail source ((role source token).follow previous) rest :=
  rfl

@[simp]
theorem trail_append (source : Text) (previous : Option String) (left right : List Token) :
    trail source previous (left ++ right) = trail source (trail source previous left) right :=
  List.foldl_append

/-- What placing tokens does to a cursor. -/
structure Cursor.Moves (source : Text) (before : Cursor) (placed : List Token) (after : Cursor) :
    Prop where
  ahead : before.ahead = placed ++ after.ahead
  consumed : after.consumed = before.consumed + placed.length
  previous : after.previous = trail source before.previous placed
  depth : after.depth = before.depth
  finish : after.finish = before.finish

namespace Cursor.Moves

variable {source : Text} {before middle after : Cursor} {placed front back : List Token}

/-- A cursor that stands still has placed nothing. -/
theorem refl (cursor : Cursor) : Moves source cursor [] cursor :=
  ⟨rfl, rfl, rfl, rfl, rfl⟩

/-- Movements that meet make up one. -/
theorem trans (first : Moves source before front middle) (second : Moves source middle back after) :
    Moves source before (front ++ back) after where
  ahead := by rw [first.ahead, second.ahead, List.append_assoc]
  consumed := by rw [second.consumed, first.consumed, List.length_append, Nat.add_assoc]
  previous := by rw [second.previous, first.previous, trail_append]
  depth := second.depth.trans first.depth
  finish := second.finish.trans first.finish

/-- Noting a decision down moves nothing. -/
theorem note (moves : Moves source before placed after) (notice : Notice) :
    Moves source before placed (after.note notice) :=
  ⟨moves.ahead, moves.consumed, moves.previous, moves.depth, moves.finish⟩

/-- Drawing tokens moves nothing. -/
theorem fill (cursor : Cursor) (count : Nat) : Moves source cursor [] (cursor.fill count) :=
  ⟨(cursor.ahead_fill count).symm, rfl, rfl, rfl, rfl⟩

/-- What is placed while a block is open has been placed once it is left. -/
theorem leave (moves : Moves source before.enter placed after) :
    Moves source before placed after.leave where
  ahead := moves.ahead
  consumed := moves.consumed
  previous := moves.previous
  depth := by
    show after.depth - 1 = before.depth
    rw [moves.depth]
    rfl
  finish := moves.finish

/-- Putting back all that was placed since a checkpoint undoes the movement. -/
theorem putBack (moves : Moves source before placed after) :
    Moves source before [] (after.putBack before.checkpoint placed) where
  ahead := by rw [moves.ahead, Cursor.ahead_putBack, List.nil_append]
  consumed := rfl
  previous := rfl
  depth := moves.depth
  finish := moves.finish

/-- A movement never leaves more ahead than there was. -/
theorem ahead_le (moves : Moves source before placed after) :
    after.ahead.length ≤ before.ahead.length := by
  rw [moves.ahead, List.length_append]
  omega

/-- Taking a token places it. -/
theorem of_advance? {token : Token} (taken : before.advance? source = some (token, after)) :
    Moves source before [token] after := by
  have ahead := Cursor.ahead_of_advance? taken
  unfold Cursor.advance? at taken
  dsimp only at taken
  split at taken
  · contradiction
  · simp only [Option.some.injEq, Prod.mk.injEq] at taken
    obtain ⟨rfl, rfl⟩ := taken
    exact ⟨ahead, rfl, rfl, rfl, rfl⟩

end Cursor.Moves

open Cursor (Moves)

/-! ## Single tokens -/

theorem take_moves (source : Text) (cursor : Cursor) :
    Moves source cursor (cursor.take source).1 (cursor.take source).2 := by
  unfold Cursor.take
  split
  · rename_i taken
    exact .of_advance? taken
  · exact .refl cursor

theorem takeGap_moves (source : Text) (cursor : Cursor) :
    Moves source cursor (cursor.takeGap source).1 (cursor.takeGap source).2 := by
  have drawn : Moves source cursor [] cursor.current.2 := .fill cursor 1
  unfold Cursor.takeGap
  dsimp only
  split
  · exact drawn.trans (take_moves source _)
  · exact drawn

theorem nextOnLine_moves (source : Text) (cursor : Cursor) :
    Moves source cursor [] (cursor.nextOnLine source).2 := by
  have drawn : Moves source cursor [] cursor.current.2 := .fill cursor 1
  unfold Cursor.nextOnLine
  dsimp only
  split
  · exact drawn.trans (.fill _ 2)
  · exact drawn

/-! ## Headers, branches and terminators -/

theorem HeaderReads.moves {source : Text} {kind : Kind} {phase : Phase} {cursor : Cursor}
    {result : Header} (reads : HeaderReads source kind phase cursor result) :
    Moves source cursor result.leaves result.cursor := by
  induction reads with
  | ended stuck => exact .refl _
  | lineBreak taken broken => exact .of_advance? taken
  | atThen taken found conditional =>
    cases phase with
    | opening => exact (Moves.of_advance? taken).trans (nextOnLine_moves source _)
    | condition => exact .of_advance? taken
  | cut taken found boundary => exact (Moves.fill _ 1).note _
  | plain taken unbroken inside further inductionHypothesis =>
    exact (Moves.of_advance? taken).trans inductionHypothesis

theorem header_moves (source : Text) (kind : Kind) (phase : Phase) (cursor : Cursor) :
    Moves source cursor (header source kind phase cursor).leaves
      (header source kind phase cursor).cursor :=
  (header_reads source kind phase cursor).moves

theorem branch_moves (source : Text) (kind : Kind) (word : Option String) (cursor : Cursor) :
    Moves source cursor (branch source kind word cursor).leaves
      (branch source kind word cursor).cursor := by
  have opening := take_moves source cursor
  unfold branch
  dsimp only
  split
  · have looked := opening.trans (nextOnLine_moves source (cursor.take source).2)
    rw [List.append_nil] at looked
    split
    · exact ((looked.trans (takeGap_moves source _)).trans (take_moves source _)).trans
        (header_moves source kind .condition _)
    · exact looked
  · exact opening.trans (header_moves source kind .condition _)

/-- Trying a terminator places the whole of it or nothing. -/
theorem closeWithEnd_moves (source : Text) (kind : Kind) (cursor : Cursor) :
    Moves source cursor ((closeWithEnd source kind cursor).1.getD [])
      (closeWithEnd source kind cursor).2 := by
  have drawn : Moves source cursor [] cursor.current.2 := .fill cursor 1
  have opened := (drawn.trans (take_moves source cursor.current.2)).trans (takeGap_moves source _)
  have looked := opened.trans (.fill _ 1)
  rw [List.append_nil, List.nil_append] at looked
  unfold closeWithEnd
  dsimp only
  split
  · exact looked.trans (take_moves source _)
  · exact looked.putBack.note _

/-! ## Bodies and files -/

@[simp]
theorem leaves_leafNodes (tokens : List Token) : Forest.leaves (leafNodes tokens) = tokens :=
  Forest.leaves_map_leaf tokens

@[simp]
theorem leaves_leaf_cons (token : Token) (rest : List Node) :
    Forest.leaves (.leaf token :: rest) = token :: Forest.leaves rest := by
  simp [Forest.leaves, Node.leaves]

@[simp]
theorem leaves_block_cons (kind : Kind) (children rest : List Node) (closed singleLine : Bool) :
    Forest.leaves (.block kind children closed singleLine :: rest) =
      Forest.leaves children ++ Forest.leaves rest := by
  simp [Forest.leaves, Node.leaves]

@[simp]
theorem leaves_prepend (front : List Node) (rest : Body) :
    Forest.leaves (rest.prepend front).children =
      Forest.leaves front ++ Forest.leaves rest.children :=
  Forest.leaves_append front rest.children

section

variable {source : Text} {limit : Nat}

/-- A block that is open around a nested body moves by its opener, its header and the body. -/
theorem block_moves {kind : Kind} {cursor after last : Cursor} {token : Token}
    {placed : List Token} (taken : cursor.advance? source = some (token, after))
    (inside : Moves source (header source kind .opening after.enter).cursor placed last) :
    Moves source cursor
      (token :: (header source kind .opening after.enter).leaves ++ placed) last.leave := by
  have opener : cursor.enter.advance? source = some (token, after.enter) := by
    rw [Cursor.advance?_enter, taken]
    rfl
  have headed := (Moves.of_advance? opener).trans (header_moves source kind .opening after.enter)
  exact (headed.trans inside).leave

/-- A body moves its cursor by the leaves that it yields. -/
theorem BodyReads.moves {kind : Kind} {cursor : Cursor} {result : Body}
    (reads : BodyReads source limit kind cursor result) :
    Moves source cursor (Forest.leaves result.children) result.cursor := by
  induction reads with
  | ended stuck => exact (Moves.refl _).note _
  | branch taken found further inductionHypothesis =>
    rw [leaves_prepend, leaves_leafNodes]
    exact (branch_moves source _ _ _).trans inductionHypothesis
  | tryEnd taken found =>
    rw [leaves_leafNodes]
    exact closeWithEnd_moves source _ _
  | close taken found => exact .of_advance? taken
  | defer taken found => exact (Moves.fill _ 1).note _
  | nest taken found allowed inside further nestedHypothesis inductionHypothesis =>
    simp only [leaves_prepend, leaves_block_cons, Forest.leaves_append, leaves_leafNodes]
    have block := block_moves taken nestedHypothesis
    simpa [Forest.leaves] using block.trans inductionHypothesis
  | flat taken found full further inductionHypothesis =>
    exact ((Moves.of_advance? taken).note _).trans inductionHypothesis
  | plain taken found further inductionHypothesis =>
    exact (Moves.of_advance? taken).trans inductionHypothesis

/-- Reading statements moves the cursor by the leaves that they yield, up to the end. -/
theorem ForestReads.moves {cursor last : Cursor} {result : List Node}
    (reads : ForestReads source limit cursor result last) :
    Moves source cursor (Forest.leaves result) last ∧ last.ahead = [] := by
  induction reads with
  | ended nothing => exact ⟨.refl _, nothing⟩
  | nest taken found opens allowed inside further inductionHypothesis =>
    have block := block_moves taken inside.moves
    simp only [leaves_block_cons, Forest.leaves_append, leaves_leafNodes]
    exact ⟨block.trans inductionHypothesis.1, inductionHypothesis.2⟩
  | flat taken found opens full further inductionHypothesis =>
    rw [leaves_leaf_cons]
    exact ⟨((Moves.of_advance? taken).note _).trans inductionHypothesis.1, inductionHypothesis.2⟩
  | plain taken found further inductionHypothesis =>
    rw [leaves_leaf_cons]
    exact ⟨(Moves.of_advance? taken).trans inductionHypothesis.1, inductionHypothesis.2⟩

end

end BrightBlocks.Block
