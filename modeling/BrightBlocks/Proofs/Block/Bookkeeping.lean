import BrightBlocks.Proofs.Block.Calls
import BrightBlocks.Proofs.Block.Workbench

/-!
# What every move preserves

Whoever drives the recovery by hand finds that the cursor has been moved by the tokens that the
nodes hold, and that all that was there at a mark is there still. `Sound` says so; it holds at
the start of a stream, every move that is allowed keeps it (`Sound.apply`), and so does every
legal run (`Sound.run`).

The one move that could break it is coming back to a mark. `Stands` is what a mark knows of its
own time, and `Stands.moves_rollBack` leads the cursor back there.
-/

namespace BrightBlocks.Block

open Cursor (Moves)

/-- Putting back what was placed beyond a place leads back to it. -/
theorem Cursor.Moves.rewind {source : Text} {origin middle after : Cursor}
    {front back : List Token} (early : Moves source origin front middle)
    (late : Moves source origin (front ++ back) after) :
    Moves source origin front (after.putBack middle.checkpoint back) where
  ahead := by rw [late.ahead, Cursor.ahead_putBack, List.append_assoc]
  consumed := early.consumed
  previous := early.previous
  depth := late.depth
  finish := late.finish

/-- Cursors that have been moved by the same tokens look ahead at the same ones. -/
theorem Cursor.Moves.peek_eq {source : Text} {origin left right : Cursor} {placed : List Token}
    (first : Moves source origin placed left) (second : Moves source origin placed right)
    (offset : Nat) : (left.peek offset).1 = (right.peek offset).1 := by
  have ahead : left.ahead = right.ahead :=
    List.append_cancel_left (first.ahead.symm.trans second.ahead)
  rw [Cursor.peek_eq, Cursor.peek_eq, ahead, first.finish, second.finish]

namespace Workbench

variable {source : Text} {limit : Nat} {tokens : List Token} {bench : Workbench}

/-- What was there at a mark still is, and it was in order. -/
structure Stands (source : Text) (tokens : List Token) (store : Store) (mark : Bookmark) :
    Prop where
  node : mark.node < mark.store.created
  holds : mark.store.Holds
  moves : Moves source (Cursor.ofTokens tokens) mark.store.tokens mark.cursor
  grows : mark.store.Extends store

/--
The cursor has been moved by the tokens that the nodes hold, and the marks are in the order
in which they were set.
-/
structure Sound (source : Text) (tokens : List Token) (bench : Workbench) : Prop where
  holds : bench.store.Holds
  moves : Moves source (Cursor.ofTokens tokens) bench.store.tokens bench.cursor
  marks : ∀ mark ∈ bench.marks, Stands source tokens bench.store mark
  ordered : bench.marks.Pairwise fun earlier later => earlier.store.Extends later.store

theorem Sound.start (source : Text) (tokens : List Token) : Sound source tokens (start tokens) where
  holds := .empty
  moves := .refl _
  marks := List.forall_mem_nil _
  ordered := .nil

/-- The cursor is moved by the tokens that are placed. -/
theorem Sound.gain (sound : Sound source tokens bench) {placed : List Token} {store : Store}
    {cursor : Cursor} (gains : bench.store.Gains placed store)
    (moves : Moves source bench.cursor placed cursor) :
    Sound source tokens { bench with store, cursor } where
  holds := gains.holds
  moves := by
    rw [gains.tokens]
    exact sound.moves.trans moves
  marks mark member :=
    have stands := sound.marks mark member
    ⟨stands.node, stands.holds, stands.moves, stands.grows.trans gains.grows⟩
  ordered := sound.ordered

/-- Looking ahead places nothing. -/
theorem Sound.look (sound : Sound source tokens bench) {cursor : Cursor}
    (moves : Moves source bench.cursor [] cursor) : Sound source tokens { bench with cursor } :=
  sound.gain (.refl sound.holds) moves

theorem Sound.create (sound : Sound source tokens bench) :
    Sound source tokens { bench with store := bench.store.create } :=
  sound.gain (.create sound.holds) (.refl _)

theorem Sound.put (sound : Sound source tokens bench) {node : Nat} {forest : List Node}
    {cursor : Cursor} (there : node < bench.store.created)
    (moves : Moves source bench.cursor (Forest.leaves forest) cursor) :
    Sound source tokens (bench.put node forest cursor) :=
  sound.gain (Store.addForest_gains sound.holds there forest) moves

theorem Sound.putLeaves (sound : Sound source tokens bench) {node : Nat} {leaves : List Token}
    {cursor : Cursor} (there : node < bench.store.created)
    (moves : Moves source bench.cursor leaves cursor) :
    Sound source tokens (bench.put node (leafNodes leaves) cursor) :=
  sound.put there ((leaves_leafNodes leaves).symm ▸ moves)

theorem Sound.putNew (sound : Sound source tokens bench) {forest : List Node} {cursor : Cursor}
    (moves : Moves source bench.cursor (Forest.leaves forest) cursor) :
    Sound source tokens (bench.putNew forest cursor) :=
  sound.create.put (Nat.lt_succ_self _) moves

theorem Sound.mark (sound : Sound source tokens bench) {node : Nat}
    (there : node < bench.store.created) :
    Sound source tokens
      { bench with marks := bench.marks ++ [⟨node, bench.cursor, bench.store⟩] } where
  holds := sound.holds
  moves := sound.moves
  marks := by
    rw [List.forall_mem_append, List.forall_mem_singleton]
    exact ⟨sound.marks, there, sound.holds, sound.moves, .refl _⟩
  ordered := by
    refine List.pairwise_append.mpr ⟨sound.ordered, List.pairwise_singleton _ _, ?_⟩
    intro earlier member later last
    rw [List.mem_singleton.mp last]
    exact (sound.marks earlier member).grows

/-- The count at a mark is that of the tokens that were placed by then. -/
theorem Stands.consumed {store : Store} {mark : Bookmark}
    (stands : Stands source tokens store mark) :
    mark.kept.checkpoint.consumed = mark.store.placed.length := by
  simpa [Bookmark.kept, Cursor.checkpoint, Cursor.ofTokens, Store.tokens] using
    stands.moves.consumed

/-- All tokens that were placed are those that were there at a mark, and those since. -/
theorem Stands.tokens_eq {mark : Bookmark} (stands : Stands source tokens bench.store mark) :
    bench.store.tokens =
      mark.store.tokens ++ (mark.store.since bench.store).map (·.token) := by
  rw [Store.tokens, stands.grows.placed_eq, List.map_append, Store.tokens]

/-- Coming back to a valid mark leads the cursor to where it was. -/
theorem Stands.moves_rollBack {mark : Bookmark} (stands : Stands source tokens bench.store mark)
    (sound : Sound source tokens bench) (valid : bench.Valid mark) (flat : bench.Flat mark) :
    Moves source (Cursor.ofTokens tokens) mark.store.tokens
      (bench.rollBack mark.node mark.kept).cursor := by
  have back : ((bench.store.children mark.node).drop mark.kept.size).map Child.returned =
      (mark.store.since bench.store).map (·.token) :=
    (congrArg _ (stands.grows.newChildren_eq stands.holds sound.holds valid flat)).trans
      (Child.map_returned_leaf _)
  have late := sound.moves
  rw [stands.tokens_eq] at late
  rw [rollBack, back]
  exact stands.moves.rewind late

/-- What coming back to a valid mark leaves in the nodes. -/
theorem Stands.store_rollBack {mark : Bookmark} (stands : Stands source tokens bench.store mark) :
    (bench.rollBack mark.node mark.kept).store =
      bench.store.cut mark.node (mark.store.children mark.node).length
        mark.store.placed.length := by
  rw [rollBack, stands.consumed]
  rfl

/-- Coming back to a valid mark keeps the earlier ones, and itself. -/
theorem Sound.rollBack (sound : Sound source tokens bench) {index : Nat} {mark : Bookmark}
    (found : bench.marks[index]? = some mark) (valid : bench.Valid mark)
    (flat : bench.Flat mark) :
    Sound source tokens
      { bench.rollBack mark.node mark.kept with marks := bench.marks.take (index + 1) } := by
  have stands := sound.marks mark (List.mem_of_getElem? found)
  have left : bench.marks.take (index + 1) = bench.marks.take index ++ [mark] := by
    rw [List.take_add_one, found]
    rfl
  have ordered : (bench.marks.take index ++ [mark]).Pairwise fun earlier later =>
      earlier.store.Extends later.store :=
    left ▸ sound.ordered.sublist (List.take_sublist ..)
  have earlier : ∀ other ∈ bench.marks.take index ++ [mark],
      other.store.Extends mark.store := by
    rw [List.forall_mem_append, List.forall_mem_singleton]
    exact ⟨fun other member => (List.pairwise_append.mp ordered).2.2 other member mark
      List.mem_cons_self, .refl _⟩
  constructor
  · show Store.Holds (bench.rollBack mark.node mark.kept).store
    rw [stands.store_rollBack]
    exact sound.holds.cut stands.holds stands.grows valid
  · show Moves source _ (bench.rollBack mark.node mark.kept).store.tokens _
    rw [stands.store_rollBack, Store.tokens, stands.grows.placed_cut]
    exact stands.moves_rollBack sound valid flat
  · intro other member
    rw [left] at member
    have standing := sound.marks other (List.mem_of_mem_take (left ▸ member))
    refine ⟨standing.node, standing.holds, standing.moves, ?_⟩
    show other.store.Extends (bench.rollBack mark.node mark.kept).store
    rw [stands.store_rollBack]
    exact stands.grows.cut (earlier other member) mark.node
  · rw [left]
    exact ordered

/-- Every move that is allowed keeps the account. -/
theorem Sound.apply (sound : Sound source tokens bench) (move : Move)
    (allowed : bench.Allows move) : Sound source tokens (bench.apply source limit move) := by
  cases move with
  | current => exact sound.look (.fill _ 1)
  | peek offset => exact sound.look (.fill _ (offset + 1))
  | nextOnLine => exact sound.look (nextOnLine_moves source _)
  | create => exact sound.create
  | advance node => exact sound.putLeaves allowed (take_moves source bench.cursor)
  | mark node => exact sound.mark allowed
  | rollBack index =>
    obtain ⟨mark, found, valid, flat⟩ := allowed
    simp only [Workbench.apply, Option.mem_def.mp found]
    exact sound.rollBack found valid flat
  | statement node word => exact sound.put allowed (moves_of_statement source limit word _)
  | block kind =>
    have moves := moves_of_block source limit kind bench.cursor
    rw [Block.node, leaves_block_cons, Forest.leaves, List.append_nil] at moves
    exact sound.putNew moves
  | header node kind phase => exact sound.putLeaves allowed (header_moves source kind phase _)
  | body node kind => exact sound.put allowed (body_reads source limit kind bench.cursor).moves
  | branch node kind word => exact sound.putLeaves allowed (branch_moves source kind word _)
  | closeWithEnd node kind => exact sound.putLeaves allowed (closeWithEnd_moves source kind _)
  | file => exact sound.putNew (forest_reads source limit bench.cursor).moves.1

/-- Every legal run keeps the account. -/
theorem Sound.run (sound : Sound source tokens bench) (moves : List Move)
    (legal : bench.Legal source limit moves) :
    Sound source tokens (bench.run source limit moves) := by
  induction moves generalizing bench with
  | nil => exact sound
  | cons move rest inductionHypothesis =>
    obtain ⟨allowed, further⟩ := legal
    exact inductionHypothesis (sound.apply move allowed) further

end Workbench

end BrightBlocks.Block
