import BrightBlocks.Proofs.Block.Bookkeeping

/-!
# Cursors that come about

`Cursor.Reached` lists what is done to a cursor over a list of tokens, one constructor for
each operation, and leaves the order open. So it holds of every cursor with which a part of
the recovery is called (`Called.reached`), of every one that comes about in between, and of
every one that a legal run by hand leads to (`Workbench.reached_of_run`).

In return it says little: no end of the input is ahead of such a cursor, and its stream ends
in one (`Reached.significant`, `Reached.finish`). What was marked, which tokens are put back
and how often a block is entered or left may be anything.
-/

namespace BrightBlocks.Block

open Cursor (Moves)

/-- The states in which the recovery of a list of tokens can be, by what leads to them. -/
inductive Cursor.Reached (source : Text) (tokens : List Token) : Cursor → Prop where
  | start : Reached source tokens (.ofTokens tokens)
  | fill {cursor : Cursor} (reached : Reached source tokens cursor) (count : Nat) :
      Reached source tokens (cursor.fill count)
  | advance {cursor after : Cursor} {token : Token} (reached : Reached source tokens cursor)
      (taken : cursor.advance? source = some (token, after)) : Reached source tokens after
  /-- Any tokens may be put back, but for an end of the input, which is never placed. -/
  | putBack {cursor : Cursor} (reached : Reached source tokens cursor) (place : Checkpoint)
      {placed : List Token} (significant : ∀ token ∈ placed, token.kind ≠ .endOfInput) :
      Reached source tokens (cursor.putBack place placed)
  | note {cursor : Cursor} (reached : Reached source tokens cursor) (notice : Notice) :
      Reached source tokens (cursor.note notice)
  | enter {cursor : Cursor} (reached : Reached source tokens cursor) :
      Reached source tokens cursor.enter
  | leave {cursor : Cursor} (reached : Reached source tokens cursor) :
      Reached source tokens cursor.leave

namespace Cursor.Reached

variable {source : Text} {limit : Nat} {tokens : List Token} {cursor after : Cursor}
  {token : Token} {kind : Kind}

theorem finish (reached : cursor.Reached source tokens) :
    cursor.finish.kind = .endOfInput := by
  induction reached with
  | start => exact (Ready.ofTokens tokens).finish
  | advance reached taken inductionHypothesis =>
    rw [(Moves.of_advance? taken).finish]
    exact inductionHypothesis
  | fill | putBack | note | enter | leave => assumption

/-- The end of the input is not among the tokens ahead. -/
theorem significant (reached : cursor.Reached source tokens) :
    ∀ token ∈ cursor.ahead, token.kind ≠ .endOfInput := by
  induction reached with
  | start =>
    intro token member
    simpa using List.mem_takeWhile_imp member
  | fill reached count inductionHypothesis =>
    rw [ahead_fill]
    exact inductionHypothesis
  | advance reached taken inductionHypothesis =>
    rw [ahead_of_advance? taken, List.forall_mem_cons] at inductionHypothesis
    exact inductionHypothesis.2
  | putBack reached place significant inductionHypothesis =>
    rw [ahead_putBack, List.forall_mem_append]
    exact ⟨significant, inductionHypothesis⟩
  | note | enter | leave => assumption

theorem ready (reached : cursor.Reached source tokens) : cursor.Ready cursor.depth :=
  ⟨rfl, reached.finish⟩

/-! ## Parts of the recovery -/

theorem take (reached : cursor.Reached source tokens) :
    (cursor.take source).2.Reached source tokens := by
  unfold Cursor.take
  split
  · rename_i taken
    exact reached.advance taken
  · exact reached

theorem takeGap (reached : cursor.Reached source tokens) :
    (cursor.takeGap source).2.Reached source tokens := by
  unfold Cursor.takeGap
  dsimp only
  split
  · exact (reached.fill 1).take
  · exact reached.fill 1

theorem nextOnLine (reached : cursor.Reached source tokens) :
    (cursor.nextOnLine source).2.Reached source tokens := by
  unfold Cursor.nextOnLine
  dsimp only
  split
  · exact (reached.fill 1).fill 2
  · exact reached.fill 1

/-- What is placed on the way from a cursor is ahead of it. -/
theorem significant_of_moves {placed : List Token} (reached : cursor.Reached source tokens)
    (moves : Moves source cursor placed after) : ∀ token ∈ placed, token.kind ≠ .endOfInput := by
  have significant := reached.significant
  rw [moves.ahead, List.forall_mem_append] at significant
  exact significant.1

theorem of_header {phase : Phase} {result : Header} (reached : cursor.Reached source tokens)
    (reads : HeaderReads source kind phase cursor result) :
    result.cursor.Reached source tokens := by
  induction reads with
  | ended stuck => exact reached
  | lineBreak taken broken => exact reached.advance taken
  | atThen taken found conditional =>
    cases phase with
    | opening => exact (reached.advance taken).nextOnLine
    | condition => exact reached.advance taken
  | cut taken found boundary => exact (reached.fill 1).note _
  | plain taken unbroken inside further inductionHypothesis =>
    exact inductionHypothesis (reached.advance taken)

theorem header (reached : cursor.Reached source tokens) (kind : Kind) (phase : Phase) :
    (Block.header source kind phase cursor).cursor.Reached source tokens :=
  reached.of_header (header_reads source kind phase cursor)

theorem branch (reached : cursor.Reached source tokens) (kind : Kind) (word : Option String) :
    (Block.branch source kind word cursor).cursor.Reached source tokens := by
  unfold Block.branch
  dsimp only
  split
  · split
    · exact reached.take.nextOnLine.takeGap.take.header kind .condition
    · exact reached.take.nextOnLine
  · exact reached.take.header kind .condition

theorem closeWithEnd (reached : cursor.Reached source tokens) (kind : Kind) :
    (Block.closeWithEnd source kind cursor).2.Reached source tokens := by
  have opening := take_moves source (cursor.fill 1)
  have placed := (reached.fill 1).significant_of_moves (opening.trans (takeGap_moves source _))
  have looked := (reached.fill 1).take.takeGap.fill 1
  unfold Block.closeWithEnd
  dsimp only
  split
  · exact looked.take
  · exact (looked.putBack cursor.checkpoint placed).note _

theorem of_body (reached : cursor.Reached source tokens) {result : Body}
    (reads : BodyReads source limit kind cursor result) :
    result.cursor.Reached source tokens := by
  induction reads with
  | ended stuck => exact reached.note _
  | branch taken found further inductionHypothesis =>
    exact inductionHypothesis (reached.branch _ _)
  | tryEnd taken found => exact reached.closeWithEnd _
  | close taken found => exact reached.advance taken
  | defer taken found => exact (reached.fill 1).note _
  | nest taken found allowed inside further nestedHypothesis inductionHypothesis =>
    have entered := (reached.advance taken).enter
    exact inductionHypothesis (nestedHypothesis (entered.header _ .opening)).leave
  | flat taken found full further inductionHypothesis =>
    exact inductionHypothesis ((reached.advance taken).note _)
  | plain taken found further inductionHypothesis =>
    exact inductionHypothesis (reached.advance taken)

theorem block (reached : cursor.Reached source tokens) (kind : Kind) :
    (Block.block source limit kind cursor).2.Reached source tokens :=
  ((reached.enter.take.header kind .opening).of_body (body_reads source limit kind _)).leave

theorem statement (reached : cursor.Reached source tokens) (word : Option String) :
    (Block.statement source limit word cursor).2.Reached source tokens := by
  unfold Block.statement
  split
  · exact reached.take
  · split
    · exact reached.block _
    · exact ((reached.fill 1).note _).take

theorem of_forest {nodes : List Node} {last : Cursor} (reached : cursor.Reached source tokens)
    (reads : ForestReads source limit cursor nodes last) : last.Reached source tokens := by
  induction reads with
  | ended nothing => exact reached
  | nest taken found opens allowed inside further inductionHypothesis =>
    have entered := (reached.advance taken).enter
    exact inductionHypothesis ((entered.header _ .opening).of_body inside).leave
  | flat taken found opens full further inductionHypothesis =>
    exact inductionHypothesis ((reached.advance taken).note _)
  | plain taken found further inductionHypothesis =>
    exact inductionHypothesis (reached.advance taken)

end Cursor.Reached

/-! ## The recovery, called and driven by hand -/

/-- Every part of the recovery is called with a cursor that comes about. -/
theorem Called.reached {source : Text} {limit : Nat} {tokens : List Token} {call : Call}
    {place : Place} {cursor : Cursor} (called : Called source limit tokens call place cursor) :
    cursor.Reached source tokens := by
  induction called with
  | file => exact .start
  | statementOfFile caller more inductionHypothesis => exact inductionHypothesis.fill 1
  | restOfFile caller more reads inductionHypothesis =>
    subst reads
    exact (inductionHypothesis.fill 1).statement _
  | headerOfBlock caller taken inductionHypothesis =>
    have opened := inductionHypothesis.enter.take
    rwa [taken] at opened
  | bodyOfBlock caller taken inductionHypothesis =>
    have opened := inductionHypothesis.enter.take
    rw [taken] at opened
    exact opened.header _ .opening
  | restOfHeader caller taken unbroken inside inductionHypothesis =>
    exact inductionHypothesis.advance taken
  | block | branch | closeWithEnd | statementOfBody => assumption
  | conditionOfBranch caller joined inductionHypothesis => exact inductionHypothesis.take
  | conditionOfElseIf caller first goes_on blank last inductionHypothesis =>
    have opened := inductionHypothesis.take
    rw [first] at opened
    have passed := opened.nextOnLine.takeGap
    rw [blank] at passed
    have named := passed.take
    rwa [last] at named
  | bodyOfBranch caller taken found inductionHypothesis => exact inductionHypothesis.branch _ _
  | restOfBody caller taken found stays reads inductionHypothesis =>
    subst reads
    exact inductionHypothesis.statement _

namespace Workbench

variable {source : Text} {limit : Nat} {tokens : List Token} {bench : Workbench}

/-- The tokens that stand in a node are no ends of the input. -/
theorem Sound.significant (sound : Sound source tokens bench) (node : Nat) :
    ∀ token ∈ Child.leaves (bench.store.children node), token.kind ≠ .endOfInput := by
  intro token member
  rw [sound.holds.leaves] at member
  obtain ⟨entry, held, rfl⟩ := List.mem_map.mp member
  have placed : entry.token ∈ bench.store.tokens :=
    List.mem_map_of_mem (List.mem_filter.mp held).1
  exact Cursor.Reached.start.significant_of_moves sound.moves _ placed

theorem reached_apply (reached : bench.cursor.Reached source tokens)
    (sound : Sound source tokens bench) (move : Move) :
    (bench.apply source limit move).cursor.Reached source tokens := by
  cases move with
  | current => exact reached.fill 1
  | peek offset => exact reached.fill (offset + 1)
  | nextOnLine => exact reached.nextOnLine
  | create | mark => exact reached
  | advance node => exact reached.take
  | rollBack index =>
    unfold Workbench.apply
    dsimp only
    split
    · rename_i mark found
      refine reached.putBack _ fun token member => ?_
      obtain ⟨child, inside, rfl⟩ := List.mem_map.mp member
      cases child with
      | leaf token =>
        exact sound.significant mark.node token
          (List.mem_filterMap.mpr ⟨_, List.mem_of_mem_drop inside, rfl⟩)
      | block inner => exact nofun
    · exact reached
  | statement node word => exact reached.statement word
  | block kind => exact reached.block kind
  | header node kind phase => exact reached.header kind phase
  | body node kind => exact reached.of_body (body_reads source limit kind bench.cursor)
  | branch node kind word => exact reached.branch kind word
  | closeWithEnd node kind => exact reached.closeWithEnd kind
  | file => exact reached.of_forest (forest_reads source limit bench.cursor)

/-- Every legal run by hand leads to a cursor that comes about. -/
theorem reached_of_run (reached : bench.cursor.Reached source tokens)
    (sound : Sound source tokens bench) {moves : List Move}
    (legal : bench.Legal source limit moves) :
    (bench.run source limit moves).cursor.Reached source tokens := by
  induction moves generalizing bench with
  | nil => exact reached
  | cons move rest inductionHypothesis =>
    obtain ⟨allowed, further⟩ := legal
    exact inductionHypothesis (reached_apply reached sound move) (sound.apply move allowed) further

end Workbench

end BrightBlocks.Block
