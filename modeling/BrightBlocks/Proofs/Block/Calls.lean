import BrightBlocks.Proofs.Block.Placement

/-!
# Calls of the recovery

`Called` says which parts of the recovery are called while a list of tokens is
recovered: with which cursor, and at which place of the tree their nodes stand. The
blocks around that place are the calls of `Call.block` that have not returned. So the
number of open blocks that a cursor carries is not what the calls are defined by, and
it is a fact about them that it counts these blocks, when a call starts and when it
returns (`Called.counts`). Looking ahead, taking tokens and putting them back are no calls
but what is done between them (`Cursor.Handles`).
-/

namespace BrightBlocks.Block

open Cursor (Moves)

/-- What may be done to a cursor without a call: looking ahead, taking tokens, putting tokens back
and noting decisions down. -/
inductive Cursor.Handles (source : Text) (cursor : Cursor) : Cursor → Prop where
  | refl : Handles source cursor cursor
  | fill {after : Cursor} (handles : Handles source cursor after) (count : Nat) :
      Handles source cursor (after.fill count)
  | advance {after next : Cursor} {token : Token} (handles : Handles source cursor after)
      (taken : after.advance? source = some (token, next)) : Handles source cursor next
  | putBack {after : Cursor} (handles : Handles source cursor after) (place : Checkpoint)
      (placed : List Token) : Handles source cursor (after.putBack place placed)
  | note {after : Cursor} (handles : Handles source cursor after) (notice : Notice) :
      Handles source cursor (after.note notice)

theorem Cursor.Handles.depth {source : Text} {cursor after : Cursor}
    (handles : Handles source cursor after) : after.depth = cursor.depth := by
  induction handles with
  | refl => rfl
  | fill handles count inductionHypothesis => exact inductionHypothesis
  | advance handles taken inductionHypothesis =>
    exact (Moves.of_advance? taken).depth.trans inductionHypothesis
  | putBack handles place placed inductionHypothesis => exact inductionHypothesis
  | note handles notice inductionHypothesis => exact inductionHypothesis

/-- A part of the recovery that places nodes. -/
inductive Call
  | file
  | statement (word : Option String)
  | block (kind : Kind)
  | header (kind : Kind) (phase : Phase)
  | body (kind : Kind)
  | branch (kind : Kind) (word : String)
  | closeWithEnd (kind : Kind)
  deriving DecidableEq, Repr

namespace Call

/-- How many blocks a call opens before it calls others. -/
def opens : Call → Nat
  | .block _ => 1
  | _ => 0

/-- The nodes that a call yields, and where it leads a cursor. -/
def run (source : Text) (limit : Nat) (cursor : Cursor) : Call → List Node × Cursor
  | .file => forest source limit cursor
  | .statement word => Block.statement source limit word cursor
  | .block kind =>
    ([(Block.block source limit kind cursor).1.node], (Block.block source limit kind cursor).2)
  | .header kind phase =>
    (leafNodes (Block.header source kind phase cursor).leaves,
      (Block.header source kind phase cursor).cursor)
  | .body kind =>
    ((Block.body source limit kind cursor).children, (Block.body source limit kind cursor).cursor)
  | .branch kind word =>
    (leafNodes (Block.branch source kind (some word) cursor).leaves,
      (Block.branch source kind (some word) cursor).cursor)
  | .closeWithEnd kind =>
    (leafNodes ((Block.closeWithEnd source kind cursor).1.getD []),
      (Block.closeWithEnd source kind cursor).2)

end Call

/-- Whether a body takes its next token as a statement. -/
def Turn.isStatement : Turn → Bool
  | .nest _ _ | .plain => true
  | _ => false

/-- The calls that are made to recover a list of tokens, one constructor for each place in the
definitions where one is made. -/
inductive Called (source : Text) (limit : Nat) (tokens : List Token) :
    Call → Place → Cursor → Prop where
  | file : Called source limit tokens .file .start (Cursor.ofTokens tokens)
  | statementOfFile {place : Place} {cursor : Cursor}
      (caller : Called source limit tokens .file place cursor) (more : cursor.ahead ≠ []) :
      Called source limit tokens (.statement (cursor.structuralWord source).1) place
        (cursor.structuralWord source).2
  | restOfFile {place : Place} {cursor : Cursor} {read : List Node × Cursor}
      (caller : Called source limit tokens .file place cursor) (more : cursor.ahead ≠ [])
      (reads : read = statement source limit (cursor.structuralWord source).1
        (cursor.structuralWord source).2) :
      Called source limit tokens .file (place.past read.1) read.2
  | block {place : Place} {cursor : Cursor} {word : String} {kind : Kind}
      (caller : Called source limit tokens (.statement (some word)) place cursor)
      (opens : Kind.ofOpener? word = some kind) (room : cursor.depth < limit) :
      Called source limit tokens (.block kind) place cursor
  | headerOfBlock {place : Place} {cursor after : Cursor} {opener : List Token} {kind : Kind}
      (caller : Called source limit tokens (.block kind) place cursor)
      (taken : cursor.enter.take source = (opener, after)) :
      Called source limit tokens (.header kind .opening)
        ((place.inside kind).past (leafNodes opener)) after
  | bodyOfBlock {place : Place} {cursor after : Cursor} {opener : List Token} {kind : Kind}
      (caller : Called source limit tokens (.block kind) place cursor)
      (taken : cursor.enter.take source = (opener, after)) :
      Called source limit tokens (.body kind)
        ((place.inside kind).past
          (leafNodes (opener ++ (header source kind .opening after).leaves)))
        (header source kind .opening after).cursor
  | restOfHeader {place : Place} {cursor after : Cursor} {token : Token} {kind : Kind}
      {phase : Phase} (caller : Called source limit tokens (.header kind phase) place cursor)
      (taken : cursor.advance? source = some (token, after))
      (unbroken : role source token ≠ .lineBreak)
      (inside : ∀ word, (role source token).structural cursor.previous = some word →
        ¬ (word = "then" ∧ kind = .conditional) ∧ word ∉ phase.boundaries kind) :
      Called source limit tokens (.header kind phase) (place.past [.leaf token]) after
  | branch {place : Place} {cursor after : Cursor} {token : Token} {kind : Kind} {word : String}
      (caller : Called source limit tokens (.body kind) place cursor)
      (taken : cursor.advance? source = some (token, after))
      (found : turn kind ((role source token).structural cursor.previous) = .branch word) :
      Called source limit tokens (.branch kind word) place cursor
  | conditionOfBranch {place : Place} {cursor : Cursor} {kind : Kind} {word : String}
      (caller : Called source limit tokens (.branch kind word) place cursor)
      (joined : word ≠ "else") :
      Called source limit tokens (.header kind .condition)
        (place.past (leafNodes (cursor.take source).1)) (cursor.take source).2
  | conditionOfElseIf {place : Place} {cursor : Cursor} {kind : Kind}
      {opening gap second : List Token} {afterOpening afterGap afterSecond : Cursor}
      (caller : Called source limit tokens (.branch kind "else") place cursor)
      (first : cursor.take source = (opening, afterOpening))
      (goes_on : role source (afterOpening.nextOnLine source).1 = .word "if")
      (blank : (afterOpening.nextOnLine source).2.takeGap source = (gap, afterGap))
      (last : afterGap.take source = (second, afterSecond)) :
      Called source limit tokens (.header kind .condition)
        (place.past (leafNodes (opening ++ gap ++ second))) afterSecond
  | bodyOfBranch {place : Place} {cursor after : Cursor} {token : Token} {kind : Kind}
      {word : String} (caller : Called source limit tokens (.body kind) place cursor)
      (taken : cursor.advance? source = some (token, after))
      (found : turn kind ((role source token).structural cursor.previous) = .branch word) :
      Called source limit tokens (.body kind)
        (place.past (leafNodes (Block.branch source kind (some word) cursor).leaves))
        (Block.branch source kind (some word) cursor).cursor
  | closeWithEnd {place : Place} {cursor after : Cursor} {token : Token} {kind : Kind}
      (caller : Called source limit tokens (.body kind) place cursor)
      (taken : cursor.advance? source = some (token, after))
      (found : turn kind ((role source token).structural cursor.previous) = .tryEnd) :
      Called source limit tokens (.closeWithEnd kind) place cursor
  | statementOfBody {place : Place} {cursor after : Cursor} {token : Token} {kind : Kind}
      {word : Option String} (caller : Called source limit tokens (.body kind) place cursor)
      (taken : cursor.advance? source = some (token, after))
      (found : (role source token).structural cursor.previous = word)
      (stays : (turn kind word).isStatement = true) :
      Called source limit tokens (.statement word) place cursor
  | restOfBody {place : Place} {cursor after : Cursor} {token : Token} {kind : Kind}
      {word : Option String} {read : List Node × Cursor}
      (caller : Called source limit tokens (.body kind) place cursor)
      (taken : cursor.advance? source = some (token, after))
      (found : (role source token).structural cursor.previous = word)
      (stays : (turn kind word).isStatement = true)
      (reads : read = statement source limit word cursor) :
      Called source limit tokens (.body kind) (place.past read.1) read.2

section

variable {source : Text} {limit : Nat} {tokens : List Token} {call : Call} {place : Place}
  {cursor : Cursor}

/-! ## The number of open blocks -/

/-- A block moves its cursor by its leaves. -/
theorem moves_of_block (source : Text) (limit : Nat) (kind : Kind) (cursor : Cursor) :
    Moves source cursor (Forest.leaves [(block source limit kind cursor).1.node])
      (block source limit kind cursor).2 := by
  have opener := take_moves source cursor.enter
  have headed := opener.trans (header_moves source kind .opening _)
  have whole := headed.trans (body_reads source limit kind _).moves
  simpa [block, Block.node, Forest.leaves, Node.leaves] using whole.leave

/-- A statement moves its cursor by its leaves. -/
theorem moves_of_statement (source : Text) (limit : Nat) (word : Option String) (cursor : Cursor) :
    Moves source cursor (Forest.leaves (statement source limit word cursor).1)
      (statement source limit word cursor).2 := by
  unfold statement
  split
  · simpa using take_moves source cursor
  · split
    · exact moves_of_block source limit _ cursor
    · have looked : Moves source cursor [] cursor.current.2 := .fill cursor 1
      simpa using (looked.note _).trans (take_moves source _)

/-- Every call moves its cursor by the leaves that it yields. -/
theorem Call.moves (source : Text) (limit : Nat) (cursor : Cursor) (call : Call) :
    Moves source cursor (Forest.leaves (call.run source limit cursor).1)
      (call.run source limit cursor).2 := by
  cases call with
  | file => exact (forest_reads source limit cursor).moves.1
  | statement word => exact moves_of_statement source limit word cursor
  | block kind => exact moves_of_block source limit kind cursor
  | header kind phase => simpa [run] using header_moves source kind phase cursor
  | body kind => exact (body_reads source limit kind cursor).moves
  | branch kind word => simpa [run] using branch_moves source kind (some word) cursor
  | closeWithEnd kind => simpa [run] using closeWithEnd_moves source kind cursor

theorem Cursor.At.still {stream : List Token} {after : Cursor}
    (standing : cursor.At source stream place) (moves : Moves source cursor [] after) :
    after.At source stream place :=
  place.past_nil ▸ standing.past_leaves moves

/-- Every call starts at its place, with room for the block that it opens if it opens one. -/
theorem Called.standing (called : Called source limit tokens call place cursor) :
    cursor.At source (significantTokens tokens) place ∧
      place.around.length + call.opens ≤ limit := by
  induction called with
  | file => exact ⟨.ofTokens source tokens, Nat.zero_le limit⟩
  | statementOfFile caller more inductionHypothesis =>
    rename_i place cursor
    obtain ⟨standing, room⟩ := inductionHypothesis
    exact ⟨standing.still (.fill cursor 1), room⟩
  | restOfFile caller more reads inductionHypothesis =>
    rename_i place cursor read
    obtain ⟨standing, room⟩ := inductionHypothesis
    have looked : Moves source cursor [] (cursor.structuralWord source).2 := .fill cursor 1
    subst reads
    exact ⟨standing.past (looked.trans (moves_of_statement source limit _ _)), room⟩
  | block caller opens room inductionHypothesis =>
    obtain ⟨standing, -⟩ := inductionHypothesis
    refine ⟨standing, ?_⟩
    rw [← standing.ready.depth]
    exact room
  | headerOfBlock caller taken inductionHypothesis =>
    rename_i place cursor after opener kind
    obtain ⟨standing, room⟩ := inductionHypothesis
    have opener := take_moves source cursor.enter
    rw [taken] at opener
    exact ⟨(standing.inside kind).past_leaves opener, room⟩
  | bodyOfBlock caller taken inductionHypothesis =>
    rename_i place cursor after opener kind
    obtain ⟨standing, room⟩ := inductionHypothesis
    have opener := take_moves source cursor.enter
    rw [taken] at opener
    exact ⟨(standing.inside kind).past_leaves (opener.trans (header_moves source kind _ after)),
      room⟩
  | restOfHeader caller taken unbroken inside inductionHypothesis =>
    obtain ⟨standing, room⟩ := inductionHypothesis
    exact ⟨standing.past_leaves (.of_advance? taken), room⟩
  | branch | closeWithEnd | statementOfBody => assumption
  | conditionOfBranch caller joined inductionHypothesis =>
    obtain ⟨standing, room⟩ := inductionHypothesis
    exact ⟨standing.past_leaves (take_moves source _), room⟩
  | conditionOfElseIf caller first goes_on blank last inductionHypothesis =>
    rename_i place cursor kind opening gap second afterOpening afterGap afterSecond
    obtain ⟨standing, room⟩ := inductionHypothesis
    have opening_moves := take_moves source cursor
    have gap_moves := takeGap_moves source (afterOpening.nextOnLine source).2
    have second_moves := take_moves source afterGap
    rw [first] at opening_moves
    rw [blank] at gap_moves
    rw [last] at second_moves
    have moves := opening_moves.trans ((nextOnLine_moves source afterOpening).trans
      (gap_moves.trans second_moves))
    refine ⟨standing.past_leaves (?_ : Moves source cursor (opening ++ gap ++ second) _), room⟩
    simpa using moves
  | bodyOfBranch caller taken found inductionHypothesis =>
    obtain ⟨standing, room⟩ := inductionHypothesis
    exact ⟨standing.past_leaves (branch_moves source _ _ _), room⟩
  | restOfBody caller taken found stays reads inductionHypothesis =>
    obtain ⟨standing, room⟩ := inductionHypothesis
    subst reads
    exact ⟨standing.past (moves_of_statement source limit _ _), room⟩

/--
The number that a cursor carries is that of the blocks that are open around it: when a call starts,
when it returns, and while tokens are handled from there on. There are never more of them than the
limit allows, nor would there be with the block that a call is about to open.
-/
theorem Called.counts (called : Called source limit tokens call place cursor) :
    (∀ after, cursor.Handles source after ∨ (call.run source limit cursor).2.Handles source after →
      after.depth = place.around.length) ∧
      place.around.length + call.opens ≤ limit := by
  obtain ⟨standing, room⟩ := called.standing
  have counted := standing.ready.depth
  refine ⟨fun after handles => ?_, room⟩
  rcases handles with handles | handles
  · exact handles.depth.trans counted
  · exact handles.depth.trans ((call.moves source limit cursor).depth.trans counted)

end

end BrightBlocks.Block
