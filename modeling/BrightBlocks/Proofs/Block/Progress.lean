import BrightBlocks.Proofs.Block.Checked

/-!
# Every loop makes progress

A terminator that was tried and put back is met again by every block around it, so a count of
the tokens ahead does not fall with every step. What falls is that count from one turn of a
loop to the next: each turn after which a loop goes on has placed a token for good.
-/

namespace BrightBlocks.Block

/-- The check is the one that a session makes. -/
theorem Session.run_checkProgress (session : Session) (before : Nat) (place : Text) :
    (session.run (.checkProgress before place)).1 =
      ((checkProgress before place session.cursor).mapError .noProgress).map fun _ => .done := by
  simp only [Session.run, checkProgress, Int.natCast_inj]
  split <;> rfl

/-- A token stands at a cursor that has not reached the end of its stream. -/
theorem Cursor.Ready.ahead_ne_nil {cursor : Cursor} {opened : Nat} (ready : cursor.Ready opened)
    (more : cursor.current.1.kind ≠ .endOfInput) : cursor.ahead ≠ [] := by
  intro nothing
  rw [Cursor.current, Cursor.peek_eq, nothing] at more
  exact more ready.finish

/-- No part of the recovery stands still where there is a token, and none goes back. -/
structure Progresses (source : Text) (limit : Nat) : Prop where
  /-- Between the moves of one who drives the recovery by hand, a cursor is ready. -/
  driven : ∀ tokens moves, (Workbench.start tokens).Legal source limit moves →
    ((Workbench.start tokens).run source limit moves).cursor.Ready 0
  /-- So it is where a call starts while tokens are recovered. -/
  called : ∀ tokens call place cursor, Called source limit tokens call place cursor →
    cursor.Ready place.around.length
  statement : ∀ cursor opened, cursor.Ready opened → cursor.current.1.kind ≠ .endOfInput →
    ∀ word, Advances cursor (Block.statement source limit word cursor).2
  block : ∀ cursor opened, cursor.Ready opened → cursor.current.1.kind ≠ .endOfInput →
    ∀ kind, Advances cursor (Block.block source limit kind cursor).2
  branch : ∀ cursor opened, cursor.Ready opened → cursor.current.1.kind ≠ .endOfInput →
    ∀ kind word, Advances cursor (Block.branch source kind word cursor).cursor
  header : ∀ (cursor : Cursor) kind phase,
    cursor.consumed ≤ (Block.header source kind phase cursor).cursor.consumed
  body : ∀ (cursor : Cursor) kind,
    cursor.consumed ≤ (Block.body source limit kind cursor).cursor.consumed
  closeWithEnd : ∀ (cursor : Cursor) kind,
    cursor.consumed ≤ (Block.closeWithEnd source kind cursor).2.consumed
  /-- The loop of a header ends, wherever it starts. -/
  headerEnds : ∀ (cursor : Cursor) kind phase steps, cursor.ahead.length < steps →
    Checked.header source kind phase steps cursor = .ok (Block.header source kind phase cursor)
  /-- The loop of a body ends, wherever it starts, and no check in it fails. -/
  bodyEnds : ∀ (cursor : Cursor) kind steps, 3 * cursor.ahead.length < steps →
    Checked.body source limit steps kind cursor = .ok (Block.body source limit kind cursor)
  /-- The recovery ends with a tree, and no check in it fails. -/
  ends : ∀ tokens steps, 3 * (significantTokens tokens).length < steps →
    Checked.recover source limit steps tokens = .ok (recover source limit tokens)

/--
Where there is a token, a statement, a block and a branch place one for good, and a header, a
body and a terminator never leave fewer tokens placed than there were. So no check for progress
fails, and the recovery of any list of tokens ends with a tree.
-/
theorem recovery_progresses (source : Text) (limit : Nat) : Progresses source limit where
  driven tokens moves legal :=
    have sound := (Workbench.Sound.start source tokens).run moves legal
    (Cursor.Ready.ofTokens tokens).moves sound.moves
  called tokens call place cursor called := called.standing.1.ready
  statement cursor opened ready more word :=
    (moves_of_statement source limit word cursor).advances
      (statement_ahead_lt (ready.ahead_ne_nil more))
  block cursor opened ready more kind :=
    (moves_of_block source limit kind cursor).advances
      (block_ahead_lt (ready.ahead_ne_nil more))
  branch cursor opened ready more kind word := by
    cases taken : cursor.advance? source with
    | none => exact absurd (Cursor.advance?_eq_none_iff.mp taken) (ready.ahead_ne_nil more)
    | some pair => exact (branch_moves source kind word cursor).advances (branch_ahead_lt taken)
  header cursor kind phase := (header_moves source kind phase cursor).consumed_le
  body cursor kind := (body_reads source limit kind cursor).moves.consumed_le
  closeWithEnd cursor kind := (closeWithEnd_moves source kind cursor).consumed_le
  headerEnds cursor kind phase steps enough := Checked.header_eq enough
  bodyEnds cursor kind steps enough := Checked.body_eq enough
  ends tokens steps enough := Checked.recover_eq enough

/-- The terminator of the outer block is met, tried and put back by the inner one first. -/
theorem recovery_progresses_past_foreign_end :
    let source := "sub a\nif b\nend sub".toList
    let tokens := Token.tokenize source
    let cursor := Cursor.ofTokens tokens
    (cursor.Ready 0 ∧ cursor.current.1.kind ≠ .endOfInput ∧
        3 * (significantTokens tokens).length < 40) ∧
      Advances cursor (statement source 2 (some "sub") cursor).2 ∧
      Checked.recover source 2 40 tokens = .ok (recover source 2 tokens) := by
  intro source tokens cursor
  have ready : cursor.Ready 0 := .ofTokens tokens
  have more : cursor.current.1.kind ≠ .endOfInput := by decide +kernel
  have enough : 3 * (significantTokens tokens).length < 40 := by decide +kernel
  clear_value source
  have progresses := recovery_progresses source 2
  exact ⟨⟨ready, more, enough⟩, progresses.statement cursor 0 ready more _,
    progresses.ends tokens 40 enough⟩

end BrightBlocks.Block
