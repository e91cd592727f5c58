import BrightBlocks.Proofs.Block.Conservation
import BrightBlocks.Proofs.Block.Ending
import BrightBlocks.Proofs.Block.Headed

/-!
# What is noted about blocks that are left open

`Forest.endings` lists the blocks of a tree in the order in which they end, each one behind
the blocks inside it, with the tokens that stand behind it. Every block that is left open is
noted down where it ends (`BodyReads.notes`), so what the log says about such blocks can be
read off the finished tree: one notice for each, in this order, with the kind of the block
and the token at which it was left (`recover_notes_left_open`).

Headers that were cut short and openers that were kept flat are noted in between; they are
left out here.
-/

namespace BrightBlocks

/-- A block where it ends: all tokens behind it are those of the stream that come then. -/
structure Ending where
  block : Block
  behind : List Token

mutual

/-- The blocks of a node in the order in which they end. The tokens `behind` follow the node. -/
def Node.endings (behind : List Token) : Node → List Ending
  | .leaf _ => []
  | .block kind children closed singleLine =>
    Forest.endings behind children ++ [⟨⟨kind, children, closed, singleLine⟩, behind⟩]

/-- The blocks of a forest in the order in which they end. -/
def Forest.endings (behind : List Token) : List Node → List Ending
  | [] => []
  | node :: rest =>
    node.endings (Forest.leaves rest ++ behind) ++ Forest.endings behind rest

end

namespace Forest

@[simp]
theorem endings_nil (behind : List Token) : endings behind [] = [] := rfl

/-- Leaves in front end nothing. -/
@[simp]
theorem endings_leafNodes_append (behind leaves : List Token) (rest : List Node) :
    endings behind (Block.leafNodes leaves ++ rest) = endings behind rest := by
  induction leaves with
  | nil => rfl
  | cons token leaves inductionHypothesis => exact inductionHypothesis

@[simp]
theorem endings_leafNodes (behind leaves : List Token) :
    endings behind (Block.leafNodes leaves) = [] := by
  simpa using endings_leafNodes_append behind leaves []

end Forest

/-! ## All blocks, and what is behind them -/

mutual

theorem Node.endings_perm (behind : List Token) :
    (node : Node) → ((node.endings behind).map (·.block)).Perm node.walk
  | .leaf _ => .nil
  | .block kind children closed singleLine => by
    rw [Node.endings, Node.walk, List.map_append]
    exact (List.perm_append_singleton _ _).trans ((Forest.endings_perm behind children).cons _)

/-- The blocks that end are those that walking the forest meets, in another order. -/
theorem Forest.endings_perm (behind : List Token) :
    (forest : List Node) → ((Forest.endings behind forest).map (·.block)).Perm (Forest.walk forest)
  | [] => .nil
  | node :: rest => by
    rw [Forest.endings, Forest.walk, List.map_append]
    exact (Node.endings_perm _ node).append (Forest.endings_perm behind rest)

end

mutual

theorem Node.split_of_mem_endings {behind : List Token} {ending : Ending} :
    (node : Node) → ending ∈ node.endings behind → ∃ front,
      node.leaves ++ behind = front ++ Forest.leaves ending.block.children ++ ending.behind
  | .leaf _, member => nomatch member
  | .block kind children closed singleLine, member => by
    rcases List.mem_append.mp member with inside | itself
    · exact Forest.split_of_mem_endings children inside
    · obtain rfl := List.mem_singleton.mp itself
      exact ⟨[], rfl⟩

/-- The tokens of a block that ends, and those behind it, are the last ones of the stream. -/
theorem Forest.split_of_mem_endings {behind : List Token} {ending : Ending} :
    (forest : List Node) → ending ∈ Forest.endings behind forest → ∃ front,
      Forest.leaves forest ++ behind =
        front ++ Forest.leaves ending.block.children ++ ending.behind
  | [], member => nomatch member
  | node :: rest, member => by
    rcases List.mem_append.mp member with inside | later
    · obtain ⟨front, split⟩ := Node.split_of_mem_endings node inside
      exact ⟨front, by rw [Forest.leaves, List.append_assoc, split]⟩
    · obtain ⟨front, split⟩ := Forest.split_of_mem_endings rest later
      exact ⟨node.leaves ++ front, by simp [Forest.leaves, split]⟩

end

namespace Block

/-! ## Notices -/

/-- A notice that a block was left open. -/
def Notice.saysLeftOpen : Notice → Bool
  | .leftOpen _ | .deferredCloser .. | .deferredEnd .. => true
  | .headerCutShort .. | .keptFlat .. => false

/-- What is noted about a block that is left open in front of tokens: at the end of the input its
kind alone, else where the next token starts, and its word if it closes other blocks alone. -/
def leftOpenNotice (source : Text) (kind : Kind) : List Token → Notice
  | [] => .leftOpen kind
  | token :: _ =>
    let word := Token.smallWord (token.text source)
    if word = "end" then .deferredEnd kind token.start
    else .deferredCloser kind word token.start

/-- What is noted about blocks that end, those that are closed left out. -/
def leftOpenNotices (source : Text) (endings : List Ending) : List Notice :=
  (endings.filter (!·.block.closed)).map fun ending =>
    leftOpenNotice source ending.block.kind ending.behind

@[simp]
theorem leftOpenNotices_append (source : Text) (front back : List Ending) :
    leftOpenNotices source (front ++ back) =
      leftOpenNotices source front ++ leftOpenNotices source back := by
  simp [leftOpenNotices]

/-- What is noted about one block. -/
theorem leftOpenNotices_singleton (source : Text) (ending : Ending) :
    leftOpenNotices source [ending] =
      if ending.block.closed then []
      else [leftOpenNotice source ending.block.kind ending.behind] := by
  cases closed : ending.block.closed <;> simp [leftOpenNotices, closed]

/-- A cursor has come to note that blocks were left open. -/
def Cursor.Notes (before : Cursor) (notices : List Notice) (after : Cursor) : Prop :=
  after.log.filter Notice.saysLeftOpen = before.log.filter Notice.saysLeftOpen ++ notices

namespace Cursor.Notes

variable {before middle after : Cursor} {front back : List Notice}

theorem of_log_eq (same : after.log = before.log) : Notes before [] after := by
  rw [Notes, same, List.append_nil]

theorem trans (first : Notes before front middle) (second : Notes middle back after) :
    Notes before (front ++ back) after := by
  rw [Notes, second, first, List.append_assoc]

/-- Nothing is said about open blocks by a notice of another sort. -/
theorem of_other {notice : Notice} (noted : after.log = before.log ++ [notice])
    (other : notice.saysLeftOpen = false) : Notes before [] after := by
  simp [Notes, noted, other]

theorem of_leftOpen {notice : Notice} (noted : after.log = before.log ++ [notice])
    (leftOpen : notice.saysLeftOpen = true) : Notes before [notice] after := by
  simp [Notes, noted, leftOpen]

end Cursor.Notes

open Cursor (Notes)

section

variable {source : Text} {limit opened : Nat} {kind : Kind} {cursor after : Cursor}
  {token : Token}

/-- A header that is cut short leaves no block open. -/
theorem HeaderReads.notes {phase : Phase} {result : Header}
    (reads : HeaderReads source kind phase cursor result) : Notes cursor [] result.cursor := by
  induction reads with
  | ended stuck => exact .of_log_eq rfl
  | lineBreak taken broken => exact .of_log_eq (Cursor.log_of_advance? taken)
  | atThen taken found conditional =>
    cases phase with
    | opening =>
      exact .of_log_eq ((Cursor.log_nextOnLine _).trans (Cursor.log_of_advance? taken))
    | condition => exact .of_log_eq (Cursor.log_of_advance? taken)
  | cut taken found boundary => exact .of_other rfl rfl
  | plain taken unbroken inside further inductionHypothesis =>
    exact (Notes.of_log_eq (Cursor.log_of_advance? taken)).trans inductionHypothesis

theorem branch_notes (source : Text) (kind : Kind) (word : Option String) (cursor : Cursor) :
    Notes cursor [] (branch source kind word cursor).cursor := by
  have opening : Notes cursor [] (cursor.take source).2 := .of_log_eq (Cursor.log_take cursor)
  have looked : Notes cursor [] ((cursor.take source).2.nextOnLine source).2 :=
    opening.trans (.of_log_eq (Cursor.log_nextOnLine _))
  unfold branch
  dsimp only
  split
  · split
    · refine (looked.trans (.of_log_eq ?_)).trans (header_reads ..).notes
      rw [Cursor.log_take, Cursor.log_takeGap]
    · exact looked
  · exact opening.trans (header_reads ..).notes

/-- A terminator that is put back is noted down with where its `end` starts. -/
theorem closeWithEnd_notes (ready : cursor.Ready opened)
    (taken : cursor.advance? source = some (token, after))
    (found : (role source token).structural cursor.previous = some "end") :
    Notes cursor
      (if (closeWithEnd source kind cursor).1.isSome then []
        else [leftOpenNotice source kind (closeWithEnd source kind cursor).2.ahead])
      (closeWithEnd source kind cursor).2 := by
  by_cases own : roleOnLine source after.ahead = .word kind.opener
  · rw [closeWithEnd_of_match ready taken own]
    refine .of_log_eq ?_
    rw [Cursor.log_take, Cursor.log_takeGap, Cursor.log_of_advance? taken]
  · obtain ⟨nothing, noted⟩ := closeWithEnd_of_other ready taken own
    have ahead := (closeWithEnd_moves source kind cursor).ahead
    rw [nothing, Option.getD_none, List.nil_append, Cursor.ahead_of_advance? taken] at ahead
    have word := smallWord_of_role (structural_eq_some_iff.mp found).2
    rw [nothing, ← ahead]
    simp only [Option.isSome_none, Bool.false_eq_true, if_false, leftOpenNotice, word, if_true]
    exact .of_leftOpen noted rfl

/-- A block notes the blocks that end in it, and that it is left open itself if it is. -/
theorem block_notes {inner : Kind} {nested : Body}
    (taken : cursor.advance? source = some (token, after))
    (noted : Notes (header source inner .opening after.enter).cursor
      (leftOpenNotices source (Forest.endings nested.cursor.ahead nested.children) ++
        if nested.closed then [] else [leftOpenNotice source inner nested.cursor.ahead])
      nested.cursor) :
    Notes cursor
      (leftOpenNotices source (Node.endings nested.cursor.ahead (.block inner
        (leafNodes (token :: (header source inner .opening after.enter).leaves) ++
          nested.children) nested.closed (header source inner .opening after.enter).singleLine)))
      nested.cursor.leave := by
  have quiet : after.log = cursor.log := Cursor.log_of_advance? taken
  have opener : Notes cursor [] after.enter := .of_log_eq quiet
  have headed := opener.trans (header_reads source inner .opening after.enter).notes
  rw [Node.endings, Forest.endings_leafNodes_append, leftOpenNotices_append,
    leftOpenNotices_singleton]
  exact headed.trans noted

/-- A body notes the blocks that end in it, and that its own block is left open if it is. -/
theorem BodyReads.notes {result : Body} (reads : BodyReads source limit kind cursor result)
    (ready : cursor.Ready opened) :
    Notes cursor
      (leftOpenNotices source (Forest.endings result.cursor.ahead result.children) ++
        if result.closed then [] else [leftOpenNotice source kind result.cursor.ahead])
      result.cursor := by
  induction reads generalizing opened with
  | ended stuck =>
    have nothing := Cursor.advance?_eq_none_iff.mp stuck
    simp only [Cursor.ahead_note, nothing]
    exact .of_leftOpen rfl rfl
  | branch taken found further inductionHypothesis =>
    rename_i kind cursor after token word rest
    have moves := branch_moves source kind (some word) cursor
    simp only [Body.prepend, Forest.endings_leafNodes_append]
    exact (branch_notes source kind (some word) cursor).trans
      (inductionHypothesis (ready.moves moves))
  | tryEnd taken found =>
    rw [Forest.endings_leafNodes]
    exact closeWithEnd_notes ready taken (means_of_turn found)
  | close taken found => exact .of_log_eq (Cursor.log_of_advance? taken)
  | defer taken found =>
    rename_i kind cursor after token word
    obtain ⟨meaning, closer, foreign⟩ := means_of_turn found
    have spelled := smallWord_of_role (structural_eq_some_iff.mp meaning).2
    have other : word ≠ "end" := (Machine.closer_ne word closer).1
    simp only [Cursor.ahead_note, Cursor.ahead_fill, Cursor.ahead_of_advance? taken,
      leftOpenNotice, spelled, if_neg other]
    exact .of_leftOpen rfl rfl
  | nest taken found allowed inside further nestedHypothesis inductionHypothesis =>
    rename_i kind inner cursor after token word nested rest
    have headed := (ready.moves (.of_advance? taken)).enter.moves
      (header_moves source inner .opening after.enter)
    have left := (headed.moves inside.moves).leave
    have block := block_notes taken (nestedHypothesis headed)
    have behind : nested.cursor.ahead = Forest.leaves rest.children ++ rest.cursor.ahead :=
      further.moves.ahead
    rw [behind] at block
    simp only [Body.prepend, List.singleton_append, Forest.endings, leftOpenNotices_append,
      List.append_assoc]
    exact block.trans (inductionHypothesis left)
  | flat taken found full further inductionHypothesis =>
    rename_i kind inner cursor after token word rest
    have moves := (Cursor.Moves.of_advance? taken).note (.keptFlat limit word token.start)
    have noted : Notes cursor [] (after.note (.keptFlat limit word token.start)) :=
      .of_other (congrArg (· ++ _) (Cursor.log_of_advance? taken)) rfl
    exact noted.trans (inductionHypothesis (ready.moves moves))
  | plain taken found further inductionHypothesis =>
    have moves := Cursor.Moves.of_advance? taken
    have noted := Notes.of_log_eq (Cursor.log_of_advance? taken)
    exact noted.trans (inductionHypothesis (ready.moves moves))

/-- Reading statements notes all blocks that end up to the end of the stream. -/
theorem ForestReads.notes {nodes : List Node} {last : Cursor}
    (reads : ForestReads source limit cursor nodes last) (ready : cursor.Ready opened) :
    Notes cursor (leftOpenNotices source (Forest.endings [] nodes)) last := by
  induction reads generalizing opened with
  | ended nothing => exact .of_log_eq rfl
  | nest taken found opens allowed inside further inductionHypothesis =>
    rename_i cursor after last token word kind nested rest
    have headed := (ready.moves (.of_advance? taken)).enter.moves
      (header_moves source kind .opening after.enter)
    have left := (headed.moves inside.moves).leave
    have block := block_notes taken (inside.notes headed)
    obtain ⟨moves, ended⟩ := further.moves
    have behind : nested.cursor.ahead = Forest.leaves rest ++ [] := ended ▸ moves.ahead
    rw [behind] at block
    rw [Forest.endings, leftOpenNotices_append]
    exact block.trans (inductionHypothesis left)
  | flat taken found opens full further inductionHypothesis =>
    rename_i cursor after last token word kind rest
    have moves := (Cursor.Moves.of_advance? taken).note (.keptFlat limit word token.start)
    have noted : Notes cursor [] (after.note (.keptFlat limit word token.start)) :=
      .of_other (congrArg (· ++ _) (Cursor.log_of_advance? taken)) rfl
    exact noted.trans (inductionHypothesis (ready.moves moves))
  | plain taken found further inductionHypothesis =>
    have moves := Cursor.Moves.of_advance? taken
    have noted := Notes.of_log_eq (Cursor.log_of_advance? taken)
    exact noted.trans (inductionHypothesis (ready.moves moves))

end

/--
What the log says about blocks that were left open is what the tree says. Its endings are all its
blocks, each behind those inside it; the tokens of a block and those behind it end the stream. The
notices about blocks that were left open are one for each that is not closed, in the order of the
endings, with its kind and where the next token starts, or that there is none.
-/
theorem recover_notes_left_open (source : Text) (limit : Nat) (tokens : List Token) :
    let result := recover source limit tokens
    let endings := Forest.endings [] result.1.children
    (endings.map (·.block)).Perm (Forest.walk result.1.children) ∧
    (∀ ending ∈ endings, Forest.leaves ending.block.children ≠ [] ∧
      ∃ front, significantTokens tokens =
        front ++ Forest.leaves ending.block.children ++ ending.behind) ∧
    result.2.log.filter Notice.saysLeftOpen =
      (endings.filter (!·.block.closed)).map fun ending =>
        leftOpenNotice source ending.block.kind ending.behind := by
  have reads := forest_reads source limit (Cursor.ofTokens tokens)
  have all := Forest.endings_perm [] (recover source limit tokens).1.children
  refine ⟨all, fun ending member => ⟨?_, ?_⟩, reads.notes (.ofTokens tokens)⟩
  · obtain ⟨token, rest, starts⟩ :=
      reads.headed ending.block (all.subset (List.mem_map_of_mem member))
    rw [starts, leaves_leaf_cons]
    exact List.cons_ne_nil _ _
  · obtain ⟨front, split⟩ := Forest.split_of_mem_endings _ member
    rw [recover_leaves, List.append_nil] at split
    exact ⟨front, split⟩

end Block

end BrightBlocks
