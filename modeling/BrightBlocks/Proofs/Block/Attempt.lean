import BrightBlocks.Proofs.Block.Reachable

/-!
# Trying a terminator

A terminator of two words is tried on a node that may hold anything already: its tokens are
placed in the node one by one, and what the node has got since is put back when the last of
them is not the word that the block asks for (`Workbench.attempt`). The running definition,
`closeWithEnd`, keeps the tokens to itself until it has succeeded. Both do the same
(`Workbench.attempt_cursor`, `Workbench.attempt_children`).

`attempt_all_or_nothing` says what comes of it. Whether an `end` stands at the cursor is not
asked: the attempt takes its first token for one, whatever it is.
-/

namespace BrightBlocks.Block

open Cursor (Moves)

/-! ## Tokens ahead -/

section

variable {source : Text} {kind : Kind} {cursor after : Cursor} {token : Token}

/-- The token behind the current one, or the one behind that when a gap comes first. -/
def tokenBehind (source : Text) (cursor : Cursor) : Token :=
  let second := (cursor.peek 1).1
  if role source second = .gap then (cursor.peek 2).1 else second

/-- The current token, the one behind it, and the gap between them if there is one. -/
def terminatorAt (source : Text) (cursor : Cursor) : List Token :=
  let first := (cursor.peek 0).1
  let second := (cursor.peek 1).1
  if role source second = .gap then [first, second, (cursor.peek 2).1] else [first, second]

/-- Some token stands at the cursor, and behind it the word that a block of the kind asks for. -/
def EndsHere (source : Text) (kind : Kind) (cursor : Cursor) : Prop :=
  (cursor.peek 0).1.kind ≠ .endOfInput ∧
    role source (tokenBehind source cursor) = .word kind.opener

/-- Where a cursor has led, it looks ahead at what stood behind the tokens on the way. -/
theorem Cursor.Moves.peek_add {placed : List Token} (moves : Moves source cursor placed after)
    (offset : Nat) : (after.peek offset).1 = (cursor.peek (placed.length + offset)).1 := by
  rw [Cursor.peek_eq, Cursor.peek_eq, moves.ahead, moves.finish,
    List.getElem?_append_right (Nat.le_add_right _ _), Nat.add_sub_cancel_left]

theorem role_tokenBehind (ready : cursor.finish.kind = .endOfInput)
    (taken : cursor.advance? source = some (token, after)) :
    role source (tokenBehind source cursor) = roleOnLine source after.ahead := by
  have ended : role source cursor.finish = .endOfInput := by simp [role, ready]
  simp only [tokenBehind, Cursor.peek_eq, Cursor.ahead_of_advance? taken]
  cases after.ahead with
  | nil => simp [roleOnLine, ended]
  | cons second rest =>
    cases rest with
    | nil => by_cases gap : role source second = .gap <;> simp [roleOnLine, gap, ended]
    | cons third rest => by_cases gap : role source second = .gap <;> simp [roleOnLine, gap]

/-- Where a cursor takes a token, a terminator ends in the word that is found on the line. -/
theorem endsHere_iff (reached : cursor.finish.kind = .endOfInput)
    (significant : token.kind ≠ .endOfInput)
    (taken : cursor.advance? source = some (token, after)) :
    EndsHere source kind cursor ↔ roleOnLine source after.ahead = .word kind.opener := by
  rw [EndsHere, role_tokenBehind reached taken, Cursor.peek_eq, Cursor.ahead_of_advance? taken]
  exact and_iff_right significant

/-- Nothing is tried at the end of the stream. -/
theorem closeWithEnd_of_stuck {opened : Nat} (ready : cursor.Ready opened)
    (stuck : cursor.advance? source = none) : (closeWithEnd source kind cursor).1 = none := by
  have drawn : (cursor.fill 1).advance? source = none :=
    (Cursor.advance?_fill cursor source).trans stuck
  have nothing : (cursor.fill 1).take source = ([], cursor.fill 1) := by simp [Cursor.take, drawn]
  have ended : role source ((cursor.fill 1).takeGap source).2.current.1 = .endOfInput := by
    have looked : Moves source cursor [] (cursor.fill 1) := .fill cursor 1
    rw [(ready.moves looked).role_current_takeGap, Cursor.ahead_fill,
      Cursor.advance?_eq_none_iff.mp stuck]
    rfl
  have drawing : cursor.current.2 = cursor.fill 1 := rfl
  unfold closeWithEnd
  dsimp only
  rw [drawing, nothing]
  dsimp only
  rw [ended]
  simp

/-- An attempt succeeds where a terminator ends, with the tokens of that terminator. -/
theorem closeWithEnd_of_endsHere (reached : cursor.finish.kind = .endOfInput)
    (ends : EndsHere source kind cursor) :
    (closeWithEnd source kind cursor).1 = some (terminatorAt source cursor) := by
  have ready : cursor.Ready cursor.depth := ⟨rfl, reached⟩
  cases taken : cursor.advance? source with
  | none =>
    -- the end of the stream is no token to begin with
    have nothing := Cursor.advance?_eq_none_iff.mp taken
    have current : (cursor.peek 0).1 = cursor.finish := by simp [Cursor.peek_eq, nothing]
    exact absurd reached (current ▸ ends.1)
  | some pair =>
    obtain ⟨token, after⟩ := pair
    have moves := Moves.of_advance? taken
    have found : roleOnLine source after.ahead = .word kind.opener :=
      (role_tokenBehind reached taken).symm.trans ends.2
    obtain ⟨last, only, names⟩ := take_takeGap (ready.moves moves) found
    have ahead := (moves.trans (takeGap_take_moves source after)).ahead
    rw [closeWithEnd_of_match ready taken found, only]
    rw [only] at ahead
    cases gap : (after.takeGap source).1 with
    | nil =>
      rw [gap] at ahead
      simp [terminatorAt, Cursor.peek_eq, ahead, names]
    | cons blank more =>
      have few := atMostOne_takeGap source after
      rw [gap] at few ahead
      cases few with
      | present spelled => simp [terminatorAt, Cursor.peek_eq, ahead, spelled]

/-- An attempt fails where no terminator ends. -/
theorem closeWithEnd_of_not_endsHere {tokens : List Token}
    (reached : cursor.Reached source tokens) (other : ¬ EndsHere source kind cursor) :
    (closeWithEnd source kind cursor).1 = none := by
  cases taken : cursor.advance? source with
  | none => exact closeWithEnd_of_stuck reached.ready taken
  | some pair =>
    obtain ⟨token, after⟩ := pair
    have significant := reached.significant token (by simp [Cursor.ahead_of_advance? taken])
    rw [endsHere_iff reached.finish significant taken] at other
    exact (closeWithEnd_of_other reached.ready taken other).1

end

/-! ## Tokens placed in a node -/

/-- Adding leaves changes one node, at its end. -/
theorem Store.children_addForest_leafNodes (store : Store) (node : Nat) (leaves : List Token) :
    (store.addForest node (leafNodes leaves)).children =
      Function.update store.children node (store.children node ++ leaves.map .leaf) := by
  induction leaves generalizing store with
  | nil => simp [leafNodes, addForest]
  | cons token rest inductionHypothesis =>
    have first : (store.addLeaf node token).children =
        Function.update store.children node (store.children node ++ [.leaf token]) := rfl
    rw [leafNodes, List.map_cons, addForest, addNode, ← leafNodes, inductionHypothesis, first]
    simp

namespace Workbench

variable {source : Text} {limit : Nat} {tokens : List Token} {bench : Workbench} {node : Nat}
  {kind : Kind}

/-- Moves the cursor over tokens, which become leaves of a node. -/
def place (bench : Workbench) (node : Nat) (taken : List Token × Cursor) : Workbench :=
  bench.put node (leafNodes taken.1) taken.2

/-- Moves the cursor without placing anything. -/
def look (bench : Workbench) (cursor : Cursor) : Workbench :=
  { bench with cursor }

/-- Tries to close a block at `end`, with the tokens placed in its node from the first one on. -/
def attempt (source : Text) (bench : Workbench) (node : Nat) (kind : Kind) : Bool × Workbench :=
  let mark : Mark := ⟨(bench.store.children node).length, bench.cursor.checkpoint⟩
  let (first, drawn) := bench.cursor.current
  let opened := bench.place node (drawn.take source)
  let passed := opened.place node (opened.cursor.takeGap source)
  let (last, looked) := passed.cursor.current
  if role source last = .word kind.opener then
    (true, (passed.look looked).place node (looked.take source))
  else
    let restored := (passed.look looked).rollBack node mark
    (false, restored.look (restored.cursor.note (.deferredEnd kind first.start)))

theorem children_place (bench : Workbench) (node : Nat) (taken : List Token × Cursor) :
    (bench.place node taken).store.children = Function.update bench.store.children node
      (bench.store.children node ++ taken.1.map .leaf) :=
  bench.store.children_addForest_leafNodes node taken.1

/-- What a node has got is put back in the order in which it was placed. -/
theorem attempt_cursor (source : Text) (bench : Workbench) (node : Nat) (kind : Kind) :
    (bench.attempt source node kind).1 = (closeWithEnd source kind bench.cursor).1.isSome ∧
      (bench.attempt source node kind).2.cursor = (closeWithEnd source kind bench.cursor).2 := by
  unfold attempt closeWithEnd
  dsimp only
  split
  · rename_i names
    simp only [place, put] at names
    rw [if_pos names]
    exact ⟨rfl, rfl⟩
  · rename_i other
    simp only [place, put] at other
    rw [if_neg other]
    refine ⟨rfl, ?_⟩
    simp only [look, rollBack, children_place, Function.update_self, List.append_assoc,
      List.drop_left, List.map_append, Child.map_returned_leaf]
    rfl

/-- A node gets the tokens of a terminator if it is closed, and keeps what it held otherwise. -/
theorem attempt_children (source : Text) (bench : Workbench) (node : Nat) (kind : Kind) :
    (bench.attempt source node kind).2.store.children =
      Function.update bench.store.children node (bench.store.children node ++
        ((closeWithEnd source kind bench.cursor).1.getD []).map .leaf) := by
  unfold attempt closeWithEnd
  dsimp only
  split
  · rename_i names
    simp only [place, put] at names
    rw [if_pos names]
    simp only [children_place, look, Function.update_self, Function.update_idem,
      List.append_assoc, Option.getD_some, List.map_append]
    rfl
  · rename_i other
    simp only [place, put] at other
    rw [if_neg other]
    simp only [look, rollBack, Store.cut, children_place, Function.update_self,
      Function.update_idem, List.append_assoc, List.take_left, Option.getD_none, List.map_nil,
      List.append_nil, Function.update_eq_self]

/-! ## All or nothing -/

/-- The tokens of a terminator, and no others, have been placed in a node. -/
structure Closes (source : Text) (before : Workbench) (node : Nat) (terminator : List Token)
    (after : Workbench) : Prop where
  length : terminator.length = 2 ∨ terminator.length = 3
  children : after.store.children = Function.update before.store.children node
    (before.store.children node ++ terminator.map .leaf)
  consumed : after.cursor.consumed = before.cursor.consumed + terminator.length
  previous : after.cursor.previous = trail source before.cursor.previous terminator
  depth : after.cursor.depth = before.cursor.depth
  peek : ∀ offset, (after.cursor.peek offset).1 =
    (before.cursor.peek (terminator.length + offset)).1

/-- Nothing has been placed and nothing is ahead that was not before, however much was drawn. -/
structure Restored (before after : Workbench) : Prop where
  children : after.store.children = before.store.children
  consumed : after.cursor.consumed = before.cursor.consumed
  previous : after.cursor.previous = before.cursor.previous
  depth : after.cursor.depth = before.cursor.depth
  peek : ∀ offset, (after.cursor.peek offset).1 = (before.cursor.peek offset).1

/-- What comes of trying a terminator, and that the recovery closes its blocks in this way. -/
structure AllOrNothing (source : Text) (kind : Kind) (node : Nat) (before : Workbench)
    (tried : Bool × Workbench) : Prop where
  closed_iff : tried.1 = true ↔ EndsHere source kind before.cursor
  all : tried.1 = true →
    Closes source before node (terminatorAt source before.cursor) tried.2
  nothing : tried.1 = false → Restored before tried.2
  agrees : closeWithEnd source kind before.cursor =
    (if tried.1 then some (terminatorAt source before.cursor) else none, tried.2.cursor)

theorem length_terminatorAt (source : Text) (cursor : Cursor) :
    (terminatorAt source cursor).length = 2 ∨ (terminatorAt source cursor).length = 3 := by
  unfold terminatorAt
  dsimp only
  split
  · exact .inr rfl
  · exact .inl rfl

/-- A terminator that ends where it is tried is placed whole. -/
theorem closes_of_endsHere (reached : bench.cursor.finish.kind = .endOfInput)
    (ends : EndsHere source kind bench.cursor) :
    Closes source bench node (terminatorAt source bench.cursor)
      (bench.attempt source node kind).2 := by
  have taken := closeWithEnd_of_endsHere reached ends
  have moves := closeWithEnd_moves source kind bench.cursor
  have children := attempt_children source bench node kind
  rw [taken, Option.getD_some] at moves children
  rw [← (attempt_cursor source bench node kind).2] at moves
  exact ⟨length_terminatorAt source bench.cursor, children, moves.consumed, moves.previous,
    moves.depth, moves.peek_add⟩

/-- A terminator that does not end where it is tried is put back whole. -/
theorem restored_of_other (other : (closeWithEnd source kind bench.cursor).1 = none) :
    Restored bench (bench.attempt source node kind).2 := by
  have moves := closeWithEnd_moves source kind bench.cursor
  have children := attempt_children source bench node kind
  rw [other, Option.getD_none] at moves children
  rw [← (attempt_cursor source bench node kind).2] at moves
  rw [List.map_nil, List.append_nil, Function.update_eq_self] at children
  exact ⟨children, moves.consumed, moves.previous, moves.depth,
    fun offset => moves.peek_eq (.refl bench.cursor) offset⟩

/--
Whatever state the recovery is in, and whatever a node holds, a terminator that is tried on the node
closes it if and only if the word of its kind stands behind the current token, after at most one
gap. Then these two or three tokens are placed in the node. Otherwise the node and all that can be
seen of the state stay as they were.
-/
theorem attempt_all_or_nothing (source : Text) (tokens : List Token) (bench : Workbench)
    (reached : bench.cursor.Reached source tokens) (node : Nat) (kind : Kind) :
    AllOrNothing source kind node bench (bench.attempt source node kind) := by
  obtain ⟨closed, cursor⟩ := attempt_cursor source bench node kind
  by_cases ends : EndsHere source kind bench.cursor
  · have taken := closeWithEnd_of_endsHere reached.finish ends
    have closes : (bench.attempt source node kind).1 = true := by rw [closed, taken]; rfl
    exact {
      closed_iff := iff_of_true closes ends
      all := fun _ => closes_of_endsHere reached.finish ends
      nothing := fun open_still => absurd (closes.symm.trans open_still) Bool.noConfusion
      agrees := by rw [if_pos closes, cursor, ← taken] }
  · have other := closeWithEnd_of_not_endsHere reached ends
    have fails : (bench.attempt source node kind).1 = false := by rw [closed, other]; rfl
    exact {
      closed_iff := iff_of_false (by simp [fails]) ends
      all := fun closes => absurd (fails.symm.trans closes) Bool.noConfusion
      nothing := fun _ => restored_of_other other
      agrees := by rw [fails, cursor, ← other]; rfl }

/-- An `end` is tried in vain in a node that has been read up to its body. -/
theorem attempt_all_or_nothing_of_foreign_end :
    let source := "while a\nend  if".toList
    let tokens := Token.tokenize source
    let bench := (start tokens).run source 3
      [.create, .advance 0, .header 0 .whileLoop .opening, .create]
    bench.cursor.Reached source tokens ∧
      AllOrNothing source .whileLoop 0 bench (bench.attempt source 0 .whileLoop) := by
  intro source tokens bench
  have legal : (start tokens).Legal source 3
      [.create, .advance 0, .header 0 .whileLoop .opening, .create] := by decide +kernel
  have reached : bench.cursor.Reached source tokens :=
    reached_of_run .start (.start source tokens) legal
  exact ⟨reached, attempt_all_or_nothing source tokens bench reached 0 .whileLoop⟩

end Workbench

end BrightBlocks.Block
