import BrightBlocks.Proofs.Block.IntakeKeeps
import BrightBlocks.Proofs.Block.OnDemand

/-!
# Answers of the recovery on demand

`Answers` is what is shown of every part of the recovery on demand: there is an answer, it is that
of the recovery at the cursor where the intake stands, and the intake is kept as `Intake.Keeps`
says. A header or a condition needs one step more than there are tokens ahead; a terminator needs
none.
-/

namespace BrightBlocks.Block

/-! ## Looking first makes no difference -/

section

variable (source : Text) (limit : Nat) (cursor : Cursor)

theorem Cursor.enter_fill : (cursor.fill 1).enter = cursor.enter.fill 1 := rfl

theorem Cursor.current_fill : (cursor.fill 1).current = cursor.current := by
  simp only [current, peek, Nat.zero_add, fill_fill]

theorem Cursor.take_fill : (cursor.fill 1).take source = cursor.take source := by
  simp only [take, advance?_fill]
  cases taken : cursor.advance? source with
  | some pair => rfl
  | none =>
    have nothing := advance?_eq_none_iff.mp taken
    dsimp only
    rw [fill_of_unread_eq_nil (List.append_eq_nil_iff.mp nothing).2]

theorem branch_fill (kind : Kind) (word : Option String) :
    branch source kind word (cursor.fill 1) = branch source kind word cursor := by
  simp only [branch, Cursor.take_fill]

theorem closeWithEnd_fill (kind : Kind) :
    closeWithEnd source kind (cursor.fill 1) = closeWithEnd source kind cursor := by
  simp only [closeWithEnd, Cursor.current_fill]
  rfl

theorem statement_fill (word : Option String) :
    statement source limit word (cursor.fill 1) = statement source limit word cursor := by
  have depth : (cursor.fill 1).depth = cursor.depth := rfl
  simp only [statement, block, Cursor.enter_fill, Cursor.take_fill, Cursor.current_fill, depth]

end

/-! ## Every part has the answer of the recovery -/

/-- A reading ends with the value, where the cursor stands, and keeps to the window. -/
def Answers {α : Type} (before : Intake) (answer : Option (α × Intake)) (value : α)
    (cursor : Cursor) : Prop :=
  ∃ after, answer = some (value, after) ∧ after.cursor = cursor ∧ Intake.Keeps before after

/-- A header is read, with the answer of the recovery. -/
def AnswersHeader (before : Intake) (answer : Option ((List Token × Bool) × Intake))
    (result : Header) : Prop :=
  Answers before answer (result.leaves, result.singleLine) result.cursor

/-- A body is read, with the answer of the recovery. -/
def AnswersBody (before : Intake) (answer : Option ((List Node × Bool) × Intake))
    (result : Body) : Prop :=
  Answers before answer (result.children, result.closed) result.cursor

namespace Answers

variable {α β : Type} {before after : Intake} {answer : Option (α × Intake)} {value : α}
  {result : β} {cursor last : Cursor}

theorem done (keeps : Intake.Keeps before after) (stands : after.cursor = cursor) :
    Answers before (some (value, after)) value cursor :=
  ⟨after, rfl, stands, keeps⟩

/-- A reading behind another. -/
theorem bind {next : α × Intake → Option (β × Intake)}
    (first : Answers before answer value cursor)
    (second : ∀ after, after.cursor = cursor → Answers after (next (value, after)) result last) :
    Answers before (answer >>= next) result last := by
  obtain ⟨after, rfl, stands, keeps⟩ := first
  obtain ⟨final, found, stands', keeps'⟩ := second after stands
  exact ⟨final, found, stands', keeps.trans keeps'⟩

/-- A reading behind operations of the intake. -/
theorem after_keeps (keeps : Intake.Keeps before after)
    (answers : Answers after answer value cursor) : Answers before answer value cursor := by
  obtain ⟨final, found, stands, keeps'⟩ := answers
  exact ⟨final, found, stands, keeps.trans keeps'⟩

end Answers

namespace OnDemand

open Intake

variable {source : Text} {limit : Nat}

theorem cursor_codeFollows (intake : Intake) :
    Block.codeFollows source intake.cursor =
      ((codeFollows source intake).1, (codeFollows source intake).2.cursor) :=
  congrArg (fun seen : Token × Cursor => (isCode source seen.1, seen.2))
    (intake.cursor_nextOnLine source)

theorem codeAtThen_answers (phase : Phase) (token : Token) (intake : Intake) :
    Answers intake (some (codeAtThen source phase intake))
      (headerAtThen source phase token intake.cursor).singleLine
      (headerAtThen source phase token intake.cursor).cursor := by
  cases phase with
  | condition => exact .done (.refl intake) rfl
  | opening =>
    simp only [headerAtThen, cursor_codeFollows]
    exact .done (intake.nextOnLine_keeps source) rfl

/-- A header takes a step for each of its tokens, and one to see its end. -/
theorem header_answers {kind : Kind} {phase : Phase} {intake : Intake} {steps : Nat}
    (enough : intake.cursor.ahead.length < steps) :
    AnswersHeader intake (header source kind phase steps intake)
      (Block.header source kind phase intake.cursor) := by
  induction steps generalizing intake with
  | zero => contradiction
  | succ steps inductionHypothesis =>
    rw [header]
    fun_cases Block.header source kind phase intake.cursor with
    | case1 stuck =>
      obtain ⟨looked, found, same⟩ := next?_of_advance?_none stuck
      rw [found]
      exact .done (next?_keeps found) same
    | case2 token after taken tokenRole broken =>
      obtain ⟨looked, found, _, moved⟩ := next?_of_advance?_some taken
      simp only [found, take_of_next? found]
      rw [if_pos broken]
      exact .done (shift_keeps found) moved
    | case3 token after taken tokenRole unbroken word at_then =>
      obtain ⟨looked, found, _, rfl⟩ := next?_of_advance?_some taken
      simp only [found, take_of_next? found, previous_of_next? found]
      rw [if_neg unbroken, if_pos at_then]
      obtain ⟨last, follows, stands, keeps⟩ :=
        @codeAtThen_answers source phase token (looked.shift source token)
      refine ⟨last, ?_, stands, (shift_keeps found).trans keeps⟩
      rw [Option.some.inj follows, leaves_headerAtThen]
    | case4 token after taken tokenRole unbroken word not_then boundary early =>
      obtain ⟨looked, found, same, _⟩ := next?_of_advance?_some taken
      simp only [found, take_of_next? found, previous_of_next? found]
      rw [if_neg unbroken, if_neg not_then, early]
      refine .done ((next?_keeps found).trans (note_keeps _ _)) ?_
      rw [← same]
      rfl
    | case5 token after taken tokenRole unbroken word not_then outside rest =>
      obtain ⟨looked, found, _, rfl⟩ := next?_of_advance?_some taken
      rw [Cursor.ahead_of_advance? taken, List.length_cons, Nat.add_lt_add_iff_right] at enough
      simp only [found, take_of_next? found, previous_of_next? found]
      rw [if_neg unbroken, if_neg not_then, outside]
      refine .after_keeps (@shift_keeps source _ _ _ found) ?_
      refine (inductionHypothesis enough).bind fun last stands => ?_
      exact .done (.refl last) stands

/-- The condition of a branch is a header. -/
theorem branch_answers {kind : Kind} {word : Option String} {intake : Intake} {steps : Nat}
    (enough : intake.cursor.ahead.length < steps) :
    AnswersHeader intake (branch source kind steps word intake)
      (Block.branch source kind word intake.cursor) := by
  have opened := intake.take_keeps source
  have looked := opened.trans (nextOnLine_keeps _ source)
  have passed := (looked.trans (takeGap_keeps _ source)).trans (take_keeps _ source)
  have opened_moves := take_moves source intake.cursor
  have passed_moves := ((opened_moves.trans (nextOnLine_moves source _)).trans
    (takeGap_moves source _)).trans (take_moves source _)
  have opened_le := Nat.lt_of_le_of_lt opened_moves.ahead_le enough
  have passed_le := Nat.lt_of_le_of_lt passed_moves.ahead_le enough
  unfold branch Block.branch
  simp only [cursor_take, cursor_nextOnLine, cursor_takeGap] at opened_le passed_le ⊢
  split
  · split
    · refine .after_keeps passed ((header_answers passed_le).bind fun last stands => ?_)
      exact .done (.refl last) stands
    · exact .done looked rfl
  · refine .after_keeps opened ((header_answers opened_le).bind fun last stands => ?_)
    exact .done (.refl last) stands

/-- An attempt at `end` places the same tokens and puts the same tokens back. -/
theorem cursor_closeWithEnd (kind : Kind) (intake : Intake) :
    Block.closeWithEnd source kind intake.cursor =
      ((closeWithEnd source kind intake).1, (closeWithEnd source kind intake).2.cursor) := by
  unfold Block.closeWithEnd closeWithEnd
  simp only [cursor_take, cursor_takeGap, cursor_current]
  split <;> rfl

/-- An attempt at `end` holds three tokens at most, or what it held before. -/
theorem closeWithEnd_keeps (kind : Kind) (intake : Intake) :
    Keeps intake (closeWithEnd source kind intake).2 := by
  have opened := intake.current_keeps.trans (take_keeps _ source)
  have passed := (opened.trans (takeGap_keeps _ source)).trans (current_keeps _)
  unfold closeWithEnd
  dsimp only
  split
  · exact passed.trans (take_keeps _ source)
  · refine (putBack_keeps passed ?_ ?_).trans (note_keeps _ _)
    · rw [consumed_current, consumed_takeGap, consumed_take, consumed_current, List.length_append,
        Nat.add_assoc]
      rfl
    · have drawn := intake.length_buffer_current
      have opening := intake.current.2.length_take source
      have gap := (intake.current.2.take source).2.length_takeGap source
      have looked := ((intake.current.2.take source).2.takeGap source).2.length_buffer_current
      rw [List.length_append, window]
      omega

/-- An attempt at `end` on demand is the attempt. -/
theorem closeWithEnd_answers (kind : Kind) (intake : Intake) :
    Answers intake (some (closeWithEnd source kind intake))
      (Block.closeWithEnd source kind intake.cursor).1
      (Block.closeWithEnd source kind intake.cursor).2 := by
  rw [cursor_closeWithEnd]
  exact .done (closeWithEnd_keeps kind intake) rfl

end OnDemand

end BrightBlocks.Block
