import BrightBlocks.Block.Session
import BrightBlocks.Proofs.Block.StoreReturn

/-!
# The recovery driven by hand

A `Workbench` is one cursor and any number of nodes under construction. A `Move` is any part
of the recovery, called on any of these nodes, in any order: looking ahead, placing a token,
reading a statement, a block, a header, a body, a branch, a terminator or the rest of the
file, marking a place in a node and coming back to it. Coming back to a place forgets those
that were marked after it.

A place is valid while all tokens that were placed since stand in the marked node as leaves
(`Workbench.Valid`). Coming back returns all that the node has got, child by child, and a
block among it is no token. So a move comes back to a valid place only if the node has got
no block since (`Workbench.Flat`). Nothing else is asked of the order of moves
(`Workbench.Allows`).

What moves answer is left out, as are the kinds and the flags of nodes: any move may be made
on any node, and for any kind of block.
-/

namespace BrightBlocks.Block

/-! ## Moves -/

/--
A marked place. `kept` is all that coming back to it reads; the rest says what there was, for
comparison.
-/
structure Bookmark where
  node : Nat
  cursor : Cursor
  store : Store

/-- How much the node held, and where the cursor was. -/
def Bookmark.kept (mark : Bookmark) : Mark :=
  ⟨(mark.store.children mark.node).length, mark.cursor.checkpoint⟩

/-- A cursor, nodes under construction, and the places that can be come back to. -/
structure Workbench where
  cursor : Cursor
  store : Store
  /-- The marked places, the first one in front. -/
  marks : List Bookmark

/-- A part of the recovery, called by hand. Nodes are given by their numbers. -/
inductive Move
  | current
  | peek (offset : Nat)
  | nextOnLine
  /-- Makes an empty node. -/
  | create
  | advance (node : Nat)
  | mark (node : Nat)
  | rollBack (index : Nat)
  | statement (node : Nat) (word : Option String)
  /-- Reads a block, which becomes a node of its own. -/
  | block (kind : Kind)
  | header (node : Nat) (kind : Kind) (phase : Phase)
  | body (node : Nat) (kind : Kind)
  | branch (node : Nat) (kind : Kind) (word : Option String)
  | closeWithEnd (node : Nat) (kind : Kind)
  /-- Reads all that is left, into a node of its own. -/
  | file

/--
What stands in the stream for a child of a node that is returned to it, as in a session. The range
of a block is left out.
-/
def Child.returned : Child → Token
  | .leaf token => token
  | .block _ => ⟨.badCharacter, 0, 0⟩

theorem Child.map_returned_leaf (tokens : List Token) :
    (tokens.map Child.leaf).map Child.returned = tokens := by
  rw [List.map_map]
  exact List.map_id tokens

namespace Workbench

/-- Nothing has been placed, and there are no nodes. -/
def start (tokens : List Token) : Workbench :=
  ⟨Cursor.ofTokens tokens, .empty, []⟩

/-- Moves the cursor and adds parts of a tree to a node. -/
def put (bench : Workbench) (node : Nat) (forest : List Node) (cursor : Cursor) : Workbench :=
  { bench with cursor, store := bench.store.addForest node forest }

/-- Moves the cursor and makes a node of parts of a tree. -/
def putNew (bench : Workbench) (forest : List Node) (cursor : Cursor) : Workbench :=
  { bench with cursor, store := bench.store.create.addForest bench.store.created forest }

/-- Returns what a node has got since a mark to the stream. -/
def rollBack (bench : Workbench) (node : Nat) (place : Mark) : Workbench :=
  { bench with
    cursor := bench.cursor.putBack place.checkpoint
      (((bench.store.children node).drop place.size).map Child.returned)
    store := bench.store.cut node place.size place.checkpoint.consumed }

/-- Makes a move. -/
def apply (source : Text) (limit : Nat) (bench : Workbench) : Move → Workbench
  | .current => { bench with cursor := bench.cursor.current.2 }
  | .peek offset => { bench with cursor := (bench.cursor.peek offset).2 }
  | .nextOnLine => { bench with cursor := (bench.cursor.nextOnLine source).2 }
  | .create => { bench with store := bench.store.create }
  | .advance node =>
    let (leaves, cursor) := bench.cursor.take source
    bench.put node (leafNodes leaves) cursor
  | .mark node => { bench with marks := bench.marks ++ [⟨node, bench.cursor, bench.store⟩] }
  | .rollBack index =>
    match bench.marks[index]? with
    | some mark =>
      { bench.rollBack mark.node mark.kept with marks := bench.marks.take (index + 1) }
    | none => bench
  | .statement node word =>
    let (nodes, cursor) := Block.statement source limit word bench.cursor
    bench.put node nodes cursor
  | .block kind =>
    let (block, cursor) := Block.block source limit kind bench.cursor
    bench.putNew block.children cursor
  | .header node kind phase =>
    let header := Block.header source kind phase bench.cursor
    bench.put node (leafNodes header.leaves) header.cursor
  | .body node kind =>
    let body := Block.body source limit kind bench.cursor
    bench.put node body.children body.cursor
  | .branch node kind word =>
    let branch := Block.branch source kind word bench.cursor
    bench.put node (leafNodes branch.leaves) branch.cursor
  | .closeWithEnd node kind =>
    let (leaves, cursor) := Block.closeWithEnd source kind bench.cursor
    bench.put node (leafNodes (leaves.getD [])) cursor
  | .file =>
    let (file, cursor) := Block.file source limit bench.cursor
    bench.putNew file.children cursor

/-- All tokens that were placed since a mark, and not returned, stand in the marked node. -/
def Valid (bench : Workbench) (mark : Bookmark) : Prop :=
  mark.store.HeldIn bench.store mark.node

/-- The marked node has got no block since, so coming back returns tokens only. -/
def Flat (bench : Workbench) (mark : Bookmark) : Prop :=
  mark.store.Flat bench.store mark.node

/--
A move is made on a node that there is. It goes back to a place that is still valid, unless a
block would be returned.
-/
def Allows (bench : Workbench) : Move → Prop
  | .advance node | .mark node | .statement node _ | .header node _ _ | .body node _
  | .branch node _ _ | .closeWithEnd node _ => node < bench.store.created
  | .rollBack index => ∃ mark ∈ bench.marks[index]?, bench.Valid mark ∧ bench.Flat mark
  | .current | .peek _ | .nextOnLine | .create | .block _ | .file => True

/-- Every move is allowed where it is made. -/
def Legal (source : Text) (limit : Nat) (bench : Workbench) : List Move → Prop
  | [] => True
  | move :: rest => bench.Allows move ∧ Legal source limit (bench.apply source limit move) rest

/-- Makes moves one after the other. -/
def run (source : Text) (limit : Nat) (bench : Workbench) (moves : List Move) : Workbench :=
  moves.foldl (apply source limit) bench

instance (bench : Workbench) (mark : Bookmark) : Decidable (bench.Valid mark) :=
  inferInstanceAs (Decidable (mark.store.HeldIn bench.store mark.node))

instance (bench : Workbench) (mark : Bookmark) : Decidable (bench.Flat mark) :=
  inferInstanceAs (Decidable (mark.store.Flat bench.store mark.node))

instance (bench : Workbench) : (move : Move) → Decidable (bench.Allows move)
  | .advance node | .mark node | .statement node _ | .header node _ _ | .body node _
  | .branch node _ _ | .closeWithEnd node _ =>
    inferInstanceAs (Decidable (node < bench.store.created))
  | .rollBack index =>
    inferInstanceAs
      (Decidable (∃ mark ∈ bench.marks[index]?, bench.Valid mark ∧ bench.Flat mark))
  | .current | .peek _ | .nextOnLine | .create | .block _ | .file => .isTrue trivial

instance decidableLegal (source : Text) (limit : Nat) :
    (bench : Workbench) → (moves : List Move) → Decidable (bench.Legal source limit moves)
  | _, [] => .isTrue trivial
  | bench, move :: rest =>
    have := decidableLegal source limit (bench.apply source limit move) rest
    inferInstanceAs (Decidable (_ ∧ _))

end Workbench

end BrightBlocks.Block
