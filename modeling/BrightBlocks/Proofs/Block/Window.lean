import BrightBlocks.Proofs.Block.RecoveryOnDemand

/-!
# The window of the recovery

An attempt at `end` looks three tokens far and may put two of them back, for the enclosing block
to make the same attempt on top. The buffer does not grow by that, however many blocks are open:
whatever was put back is read again before anything is drawn.

`reading_within_window` says it of every part of the recovery, from any place with no more than
`window` tokens in the buffer, and of the recovery of a stream from its start.
-/

namespace BrightBlocks.Block

/-- Every token that was drawn is placed or in the buffer. -/
def Intake.Balanced (intake : Intake) : Prop :=
  intake.drawn = intake.consumed + intake.buffer.length

/-- Reading ends with the value, where the cursor stands, and within the window. -/
def EndsInWindow {α : Type} (before : Intake) (answer : Option (α × Intake)) (value : α)
    (cursor : Cursor) : Prop :=
  ∃ after, answer = some (value, after) ∧ after.cursor = cursor ∧
    after.buffer.length ≤ window ∧ before.peak ≤ after.peak ∧ after.peak ≤ max before.peak window ∧
    (before.Balanced → after.Balanced)

/-- Every part of the recovery, started at the intake with so many steps, ends as it does at the
cursor that stands there, and within the window. -/
structure ReadsInWindow (source : Text) (limit steps : Nat) (intake : Intake) : Prop where
  statement (word : Option String) :
    EndsInWindow intake (OnDemand.statement source limit steps word intake)
      (statement source limit word intake.cursor).1 (statement source limit word intake.cursor).2
  block (kind : Kind) :
    EndsInWindow intake (OnDemand.block source limit steps kind intake)
      (block source limit kind intake.cursor).1 (block source limit kind intake.cursor).2
  header (kind : Kind) (phase : Phase) :
    let result := header source kind phase intake.cursor
    EndsInWindow intake (OnDemand.header source kind phase steps intake)
      (result.leaves, result.singleLine) result.cursor
  body (kind : Kind) :
    let result := body source limit kind intake.cursor
    EndsInWindow intake (OnDemand.body source limit steps kind intake)
      (result.children, result.closed) result.cursor
  branch (kind : Kind) (word : Option String) :
    let result := branch source kind word intake.cursor
    EndsInWindow intake (OnDemand.branch source kind steps word intake)
      (result.leaves, result.singleLine) result.cursor
  closeWithEnd (kind : Kind) :
    EndsInWindow intake (some (OnDemand.closeWithEnd source kind intake))
      (closeWithEnd source kind intake.cursor).1 (closeWithEnd source kind intake.cursor).2

theorem Intake.Keeps.balanced {before after : Intake} (keeps : Keeps before after)
    (balanced : before.Balanced) : after.Balanced := by
  have drawn := keeps.drawn
  simp only [Balanced, extent] at balanced drawn ⊢
  omega

theorem Answers.endsInWindow {α : Type} {before : Intake} {answer : Option (α × Intake)} {value : α}
    {cursor : Cursor} (answers : Answers before answer value cursor)
    (within : before.buffer.length ≤ window) : EndsInWindow before answer value cursor := by
  obtain ⟨after, found, stands, keeps⟩ := answers
  have buffer := keeps.buffer
  have peak := keeps.peak
  rw [Nat.max_eq_right within] at buffer peak
  exact ⟨after, found, stands, buffer, keeps.rises, peak, keeps.balanced⟩

/--
From any place with at most three tokens in the buffer, every part of the recovery ends with at
most three there, and with as many drawn as are placed or in the buffer if that was so before; three
steps for each token ahead and three more are enough. The recovery of a stream never holds more than
three tokens that it has not placed, and ends with none. All of them have the answers that the
recovery has when the end of the stream is looked for first.
-/
theorem reading_within_window (source : Text) (limit : Nat) :
    (∀ (intake : Intake) (steps : Nat), intake.buffer.length ≤ window →
      3 * intake.cursor.ahead.length + 3 ≤ steps → ReadsInWindow source limit steps intake) ∧
    ∀ tokens : List Token, ∃ last,
      OnDemand.recover source limit tokens = some ((recover source limit tokens).1, last) ∧
      last.cursor = (recover source limit tokens).2 ∧
      last.peak ≤ window ∧ last.buffer = [] ∧ last.drawn = last.consumed := by
  refine ⟨fun intake steps within enough => ?_, fun tokens => ?_⟩
  · exact {
      statement := fun _ => (OnDemand.statement_answers enough).endsInWindow within
      block := fun _ => (OnDemand.block_answers (by omega)).endsInWindow within
      header := fun _ _ => (OnDemand.header_answers (by omega)).endsInWindow within
      body := fun _ => (OnDemand.body_answers (by omega)).endsInWindow within
      branch := fun _ _ => (OnDemand.branch_answers (by omega)).endsInWindow within
      closeWithEnd := fun kind =>
        (OnDemand.closeWithEnd_answers kind intake).endsInWindow within }
  · obtain ⟨last, found, stands, keeps⟩ := OnDemand.recover_answers source limit tokens
    have empty : last.buffer = [] := by
      have nothing := (recover_moves source limit tokens).2
      rw [← stands] at nothing
      exact (List.append_eq_nil_iff.mp nothing).1
    have balanced : last.Balanced := keeps.balanced rfl
    refine ⟨last, found, stands, keeps.peak, empty, ?_⟩
    rw [balanced, empty]
    rfl

/-- An `end` that is tried in vain draws two tokens, and all three are in the buffer then. -/
theorem reading_within_window_of_foreign_end :
    let source := "end if".toList
    let first : Token := ⟨.keyword, 0, 3⟩
    let behind : List Token := [⟨.whitespace, 3, 4⟩, ⟨.keyword, 4, 6⟩]
    let intake : Intake :=
      { Intake.ofTokens behind with buffer := [first], drawn := 1, peak := 1, held := by decide }
    let after : Cursor := ⟨first :: behind, [], Token.endOfInput 6, 0, none, 0,
      [.deferredEnd .whileLoop 0]⟩
    intake.buffer.length ≤ window ∧ 3 * intake.cursor.ahead.length + 3 ≤ 12 ∧ intake.Balanced ∧
      EndsInWindow intake (some (OnDemand.closeWithEnd source .whileLoop intake)) none after := by
  intro source first behind intake after
  have within : intake.buffer.length ≤ window := by decide
  have enough : 3 * intake.cursor.ahead.length + 3 ≤ 12 := by decide
  have fails : closeWithEnd source .whileLoop intake.cursor = (none, after) := by decide +kernel
  have reads := (reading_within_window source 1).1 intake 12 within enough
  have attempt := reads.closeWithEnd .whileLoop
  rw [fails] at attempt
  exact ⟨within, enough, rfl, attempt⟩

/-- Two open blocks put an `end` back, and three tokens are in the buffer each time. -/
example :
    let source : Text := "while a\nsub b\nend if".toList
    (OnDemand.recover source 2 (Token.tokenize source)).map (·.2.peak) = some 3 := by
  decide +kernel

end BrightBlocks.Block
