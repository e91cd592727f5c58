import BrightBlocks.Block.Branch
import BrightBlocks.Block.Terminator
import BrightBlocks.Block.Tree

/-!
# Bodies, blocks and files

A body runs from the end of a block's header to the block's own terminator, to
a terminator that belongs to another block, or to the end of the stream. A
foreign terminator is left where it is, for the enclosing block to look at.

`bodyWithin` is the only recursion over nested blocks. Its result carries the
bound by which it ends: no more is ahead afterwards than before. `body_eq`
states what a body does with its next token without that bound.
-/

namespace BrightBlocks.Block

/-- What the body of a block does with its next token. -/
inductive Turn
  /-- Starts another branch of the conditional. -/
  | branch (word : String)
  /-- Tries to close the block by `end` and a word. -/
  | tryEnd
  /-- Closes the block by one word. -/
  | close
  /-- Leaves a closing word of another kind to an enclosing block. -/
  | defer (word : String)
  /-- Opens a block inside. -/
  | nest (word : String) (kind : Kind)
  /-- Becomes a leaf. -/
  | plain
  deriving DecidableEq, Repr

/-- What a structural word means in the body of a block. -/
def turn (kind : Kind) : Option String → Turn
  | none => .plain
  | some word =>
    if kind = .conditional ∧ word ∈ elseWords then .branch word
    else if word = "end" then .tryEnd
    else if word ∈ kind.closers then .close
    else if word ∈ closers then .defer word
    else
      match Kind.ofOpener? word with
      | some inner => .nest word inner
      | none => .plain

/-- The children that a body yields, whether it is closed, and where it has led. -/
structure Body where
  children : List Node
  closed : Bool
  cursor : Cursor

namespace Body

/-- Puts nodes in front of the children. -/
def prepend (front : List Node) (rest : Body) : Body :=
  { rest with children := front ++ rest.children }

@[simp]
theorem cursor_prepend (front : List Node) (rest : Body) :
    (rest.prepend front).cursor = rest.cursor := rfl

end Body

/-- Leaf tokens as children. -/
def leafNodes (tokens : List Token) : List Node :=
  tokens.map .leaf

/-- Reads the body of a block, with at most `limit` blocks open at a time. -/
def bodyWithin (source : Text) (limit : Nat) (kind : Kind) (cursor : Cursor) :
    { body : Body // body.cursor.ahead.length ≤ cursor.ahead.length } :=
  match taken : cursor.advance? source with
  | none => ⟨⟨[], false, cursor.note (.leftOpen kind)⟩, Nat.le_refl _⟩
  | some (token, after) =>
    have step : after.ahead.length < cursor.ahead.length := by
      simp [Cursor.ahead_of_advance? taken]
    match turn kind ((role source token).structural cursor.previous) with
    | .branch word =>
      let start := branch source kind (some word) cursor
      have shorter : start.cursor.ahead.length < cursor.ahead.length := branch_ahead_lt taken
      let rest := bodyWithin source limit kind start.cursor
      ⟨rest.val.prepend (leafNodes start.leaves), Nat.le_trans rest.property (Nat.le_of_lt shorter)⟩
    | .tryEnd =>
      let attempt := closeWithEnd source kind cursor
      ⟨⟨leafNodes (attempt.1.getD []), attempt.1.isSome, attempt.2⟩,
        closeWithEnd_ahead_le source kind cursor⟩
    | .close => ⟨⟨[.leaf token], true, after⟩, Nat.le_of_lt step⟩
    | .defer word =>
      ⟨⟨[], false, (cursor.fill 1).note (.deferredCloser kind word token.start)⟩, by simp⟩
    | .nest word inner =>
      if cursor.depth < limit then
        let opening := header source inner .opening after.enter
        have opened : opening.cursor.ahead.length ≤ after.ahead.length :=
          header_ahead_le source inner .opening after.enter
        let nested := bodyWithin source limit inner opening.cursor
        have closed : nested.val.cursor.leave.ahead.length ≤ after.ahead.length :=
          Nat.le_trans nested.property opened
        let rest := bodyWithin source limit kind nested.val.cursor.leave
        ⟨rest.val.prepend
            [.block inner (leafNodes (token :: opening.leaves) ++ nested.val.children)
              nested.val.closed opening.singleLine],
          Nat.le_trans rest.property (Nat.le_trans closed (Nat.le_of_lt step))⟩
      else
        let rest := bodyWithin source limit kind (after.note (.keptFlat limit word token.start))
        ⟨rest.val.prepend [.leaf token], Nat.le_trans rest.property (Nat.le_of_lt step)⟩
    | .plain =>
      let rest := bodyWithin source limit kind after
      ⟨rest.val.prepend [.leaf token], Nat.le_trans rest.property (Nat.le_of_lt step)⟩
  termination_by cursor.ahead.length
  decreasing_by
  · exact shorter
  · exact Nat.lt_of_le_of_lt opened step
  · exact Nat.lt_of_le_of_lt closed step
  · exact step
  · exact step

/-- Reads the body of a block, with at most `limit` blocks open at a time. -/
def body (source : Text) (limit : Nat) (kind : Kind) (cursor : Cursor) : Body :=
  (bodyWithin source limit kind cursor).val

/-- A body never puts tokens back. -/
theorem body_ahead_le (source : Text) (limit : Nat) (kind : Kind) (cursor : Cursor) :
    (body source limit kind cursor).cursor.ahead.length ≤ cursor.ahead.length :=
  (bodyWithin source limit kind cursor).property

/-- Reads a block whose opener is the next token. -/
def block (source : Text) (limit : Nat) (kind : Kind) (cursor : Cursor) : Block × Cursor :=
  let (opener, after) := cursor.enter.take source
  let opening := header source kind .opening after
  let inner := body source limit kind opening.cursor
  (⟨kind, leafNodes (opener ++ opening.leaves) ++ inner.children, inner.closed,
    opening.singleLine⟩, inner.cursor.leave)

/-- Reads a nested block if `word` opens one and the limit allows it, a leaf otherwise. -/
def statement (source : Text) (limit : Nat) (word : Option String) (cursor : Cursor) :
    List Node × Cursor :=
  match word.bind Kind.ofOpener? with
  | none =>
    let (leaves, after) := cursor.take source
    (leafNodes leaves, after)
  | some kind =>
    if cursor.depth < limit then
      let (nested, after) := block source limit kind cursor
      ([nested.node], after)
    else
      let (token, filled) := cursor.current
      let noted := filled.note (.keptFlat limit (word.getD "") token.start)
      let (leaves, after) := noted.take source
      (leafNodes leaves, after)

/-! ## One step of a body -/

/-- A word that opens nothing becomes a leaf. -/
theorem statement_of_not_opener {source : Text} {limit : Nat} {word : Option String}
    {cursor : Cursor} (plain : word.bind Kind.ofOpener? = none) :
    statement source limit word cursor =
      (leafNodes (cursor.take source).1, (cursor.take source).2) := by
  simp [statement, plain]

/-- An opener within the limit starts a block. -/
theorem statement_of_opener {source : Text} {limit : Nat} {word : String} {kind : Kind}
    {cursor : Cursor} (opens : Kind.ofOpener? word = some kind) (allowed : cursor.depth < limit) :
    statement source limit (some word) cursor =
      ([(block source limit kind cursor).1.node], (block source limit kind cursor).2) := by
  simp [statement, opens, allowed]

/-- An opener beyond the limit becomes a leaf, and that is noted. -/
theorem statement_of_full {source : Text} {limit : Nat} {word : String} {kind : Kind}
    {cursor after : Cursor} {token : Token} (opens : Kind.ofOpener? word = some kind)
    (full : ¬ cursor.depth < limit) (taken : cursor.advance? source = some (token, after)) :
    statement source limit (some word) cursor =
      ([.leaf token], after.note (.keptFlat limit word token.start)) := by
  have noted : (((cursor.fill 1).note (.keptFlat limit word token.start)).take source) =
      ([token], after.note (.keptFlat limit word token.start)) := by
    simp [Cursor.take, Cursor.advance?_note, Cursor.advance?_fill, taken]
  simp [statement, opens, full, Cursor.current_eq taken, noted, leafNodes]

/-- A body nests a block at the openers only. -/
theorem opener_of_turn_nest {kind inner : Kind} {word : Option String} {small : String}
    (nests : turn kind word = .nest small inner) :
    word = some small ∧ Kind.ofOpener? small = some inner := by
  unfold turn at nests
  repeat' split at nests
  all_goals first | contradiction | skip
  rename_i found
  injection nests with sameWord sameKind
  subst sameWord sameKind
  exact ⟨rfl, found⟩

/-- A word that a body treats as plain opens nothing. -/
theorem opener_of_turn_plain {kind : Kind} {word : Option String}
    (plain : turn kind word = .plain) : word.bind Kind.ofOpener? = none := by
  unfold turn at plain
  repeat' split at plain
  all_goals first | contradiction | skip
  · rfl
  · rename_i found
    exact found

/--
A body takes its next token as its `turn` says. Apart from the bound by which the recursion ends,
this is how a body is read.
-/
theorem body_eq (source : Text) (limit : Nat) (kind : Kind) (cursor : Cursor) :
    body source limit kind cursor =
      match cursor.advance? source with
      | none => ⟨[], false, cursor.note (.leftOpen kind)⟩
      | some (token, after) =>
        let word := (role source token).structural cursor.previous
        match turn kind word with
        | .branch word =>
          let start := branch source kind (some word) cursor
          (body source limit kind start.cursor).prepend (leafNodes start.leaves)
        | .tryEnd =>
          let attempt := closeWithEnd source kind cursor
          ⟨leafNodes (attempt.1.getD []), attempt.1.isSome, attempt.2⟩
        | .close => ⟨[.leaf token], true, after⟩
        | .defer word =>
          ⟨[], false, (cursor.fill 1).note (.deferredCloser kind word token.start)⟩
        | .nest _ _ | .plain =>
          let read := statement source limit word cursor
          (body source limit kind read.2).prepend read.1 := by
  rw [body, bodyWithin]
  split
  · rename_i stuck
    simp [stuck]
  · rename_i token after taken
    simp only [taken]
    cases found : turn kind ((role source token).structural cursor.previous) with
    | branch word => rfl
    | tryEnd => rfl
    | close => rfl
    | defer word => rfl
    | plain =>
      simp only [statement_of_not_opener (opener_of_turn_plain found), Cursor.take_eq taken]
      rfl
    | nest word inner =>
      obtain ⟨same, opens⟩ := opener_of_turn_nest found
      simp only [same]
      split
      · rename_i allowed
        simp only [statement_of_opener opens allowed, block, Cursor.take_enter_eq taken]
        rfl
      · rename_i full
        simp only [statement_of_full opens full taken]
        rfl

/-! ## Progress -/

/-- A block takes at least its opener. -/
theorem block_ahead_lt {source : Text} {limit : Nat} {kind : Kind} {cursor : Cursor}
    (some_ahead : cursor.ahead ≠ []) :
    (block source limit kind cursor).2.ahead.length < cursor.ahead.length := by
  have opener := cursor.enter.take_append_ahead source
  have header_le := header_ahead_le source kind .opening (cursor.enter.take source).2
  have body_le := body_ahead_le source limit kind
    (header source kind .opening (cursor.enter.take source).2).cursor
  have taken_lt : (cursor.enter.take source).2.ahead.length < cursor.ahead.length := by
    unfold Cursor.take
    split
    · rename_i token after taken
      have first := Cursor.ahead_of_advance? taken
      rw [Cursor.ahead_enter] at first
      simp [first]
    · rename_i stuck
      exact absurd (Cursor.advance?_eq_none_iff.mp stuck) some_ahead
  unfold block
  dsimp only
  rw [Cursor.ahead_leave]
  omega

/-- A statement takes at least one token if there is one. -/
theorem statement_ahead_lt {source : Text} {limit : Nat} {word : Option String} {cursor : Cursor}
    (some_ahead : cursor.ahead ≠ []) :
    (statement source limit word cursor).2.ahead.length < cursor.ahead.length := by
  have take_lt : ∀ other : Cursor, other.ahead = cursor.ahead →
      (other.take source).2.ahead.length < cursor.ahead.length := by
    intro other same
    unfold Cursor.take
    split
    · rename_i token after taken
      rw [← same, Cursor.ahead_of_advance? taken]
      simp
    · rename_i stuck
      exact absurd (same ▸ Cursor.advance?_eq_none_iff.mp stuck) some_ahead
  unfold statement
  split
  · exact take_lt cursor rfl
  · split
    · exact block_ahead_lt some_ahead
    · exact take_lt _ (by simp)

/-- Reads statements up to the end of the stream. -/
def forest (source : Text) (limit : Nat) (cursor : Cursor) : List Node × Cursor :=
  if _some_ahead : cursor.ahead = [] then ([], cursor)
  else
    let located := cursor.structuralWord source
    let read := statement source limit located.1 located.2
    let rest := forest source limit read.2
    (read.1 ++ rest.1, rest.2)
  termination_by cursor.ahead.length
  decreasing_by
    have same : (cursor.structuralWord source).2.ahead = cursor.ahead := by
      simp [Cursor.structuralWord]
    rw [← same]
    exact statement_ahead_lt (by rw [same]; exact _some_ahead)

/-- Reads a file: everything up to the end of the stream, which is also the end of the file. -/
def file (source : Text) (limit : Nat) (cursor : Cursor) : File × Cursor :=
  let (children, after) := forest source limit cursor
  (⟨children, after.finish.stop⟩, after)

end BrightBlocks.Block
