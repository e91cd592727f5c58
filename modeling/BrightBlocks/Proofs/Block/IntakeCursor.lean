import BrightBlocks.Proofs.Block.Intake
import BrightBlocks.Proofs.Block.Movement

/-!
# An intake and its cursor

Each operation of an intake is the operation of the cursor at the same place. Drawing is no
operation of the cursor: it fills the cursor's buffer from the tokens that are still ahead.
-/

namespace BrightBlocks.Block

namespace Cursor

/-- Filling a buffer that holds enough does nothing. -/
theorem fill_of_le {cursor : Cursor} {count : Nat} (enough : count ≤ cursor.buffer.length) :
    cursor.fill count = cursor := by
  simp [fill, Nat.sub_eq_zero_of_le enough]

/-- Filling a buffer at the end of the stream does nothing. -/
theorem fill_of_unread_eq_nil {cursor : Cursor} (ended : cursor.unread = []) (count : Nat) :
    cursor.fill count = cursor := by
  cases cursor
  simp_all [fill]

/-- Drawing one token first does not change how the buffer is filled. -/
theorem fill_succ_fill {cursor : Cursor} {count : Nat} (missing : cursor.buffer.length < count) :
    (cursor.fill (cursor.buffer.length + 1)).fill count = cursor.fill count := by
  obtain ⟨more, rfl⟩ := Nat.exists_eq_add_of_lt missing
  cases cursor with
  | mk buffer unread =>
    cases unread with
    | nil => simp [fill]
    | cons token rest =>
      have all : buffer.length + more + 1 - buffer.length = more + 1 := by omega
      have left : buffer.length + more + 1 - (buffer.length + 1) = more := by omega
      simp [fill, all, left]

end Cursor

namespace Intake

variable {source : Text} {intake : Intake}

theorem cursor_ofTokens (tokens : List Token) :
    (ofTokens tokens).cursor = Cursor.ofTokens tokens := by
  simp [cursor, ofTokens, Cursor.ofTokens, coming, ending, finishOf_eq_endBehind]

/-- A draw moves one token into the buffer, if one is left. -/
theorem cursor_draw (going : intake.finish = none) :
    intake.draw.cursor = intake.cursor.fill (intake.cursor.buffer.length + 1) := by
  unfold draw
  split
  · rename_i nothing
    simp [cursor, coming, ending, going, nothing, Cursor.fill, significantTokens, endBehind]
  · rename_i token rest found
    split
    · rename_i ends
      simp [cursor, coming, ending, going, found, ends, Cursor.fill, significantTokens, endBehind]
    · rename_i goesOn
      simp [cursor, coming, ending, going, found, goesOn, Cursor.fill, significantTokens,
        endBehind]

/-- Looking ahead finds what the cursor finds, and draws as many tokens. -/
theorem cursor_peek (intake : Intake) (offset : Nat) :
    intake.cursor.peek offset = ((intake.peek offset).1, (intake.peek offset).2.cursor) := by
  fun_induction peek intake offset with
  | case1 intake token found =>
    have inside : offset + 1 ≤ intake.cursor.buffer.length :=
      (List.getElem?_eq_some_iff.mp found).1
    simp only [Cursor.peek, Cursor.fill_of_le inside]
    simp [cursor, found]
  | case2 intake missing token ended =>
    have nothing : intake.cursor.unread = [] := by simp [cursor, coming, ended]
    simp only [Cursor.peek, Cursor.fill_of_unread_eq_nil nothing]
    simp [cursor, missing, ending, ended]
  | case3 intake missing going inductionHypothesis =>
    have short : intake.cursor.buffer.length < offset + 1 :=
      Nat.lt_succ_of_le (List.getElem?_eq_none_iff.mp missing)
    rw [← inductionHypothesis, cursor_draw going]
    simp only [Cursor.peek, Cursor.fill_succ_fill short]

theorem cursor_current (intake : Intake) :
    intake.cursor.current = (intake.current.1, intake.current.2.cursor) :=
  cursor_peek intake 0

/-- Looking at the next token draws it. -/
theorem cursor_current_snd (intake : Intake) :
    intake.current.2.cursor = intake.cursor.fill 1 :=
  (congrArg Prod.snd intake.cursor_current).symm

/-- Looking again draws nothing. -/
theorem peek_peek (intake : Intake) (offset : Nat) :
    (intake.peek offset).2.peek offset = intake.peek offset := by
  fun_induction peek intake offset with
  | case1 intake token found => rw [peek, found]
  | case2 intake missing token ended =>
    rw [peek, missing]
    dsimp only
    split
    · rename_i other found
      rw [Option.some.inj (found.symm.trans ended)]
    · rename_i going
      exact absurd (going.symm.trans ended) (Option.some_ne_none token).symm
  | case3 intake missing going inductionHypothesis => exact inductionHypothesis

theorem next?_next? (intake : Intake) : intake.next?.2.next? = intake.next? := by
  have again : intake.current.2.current = intake.current := intake.peek_peek 0
  simp only [next?, again]

/-- Nothing is next where the cursor does not advance. -/
theorem next?_of_advance?_none (stuck : intake.cursor.advance? source = none) :
    ∃ looked, intake.next? = (none, looked) ∧ looked.cursor = intake.cursor := by
  have nothing := Cursor.advance?_eq_none_iff.mp stuck
  obtain ⟨empty, unread⟩ := List.append_eq_nil_iff.mp nothing
  have same : intake.current.2.cursor = intake.cursor := by
    rw [cursor_current_snd, Cursor.fill_of_unread_eq_nil unread]
  have held : intake.current.2.buffer = [] := (congrArg Cursor.buffer same).trans empty
  exact ⟨intake.current.2, by rw [next?, held]; rfl, same⟩

/-- What the cursor advances over is next, and placing it leads to the same place. -/
theorem next?_of_advance?_some {token : Token} {after : Cursor}
    (taken : intake.cursor.advance? source = some (token, after)) :
    ∃ looked, intake.next? = (some token, looked) ∧ looked.cursor = intake.cursor.fill 1 ∧
      (looked.shift source token).cursor = after := by
  have same := intake.cursor_current_snd
  unfold Cursor.advance? at taken
  dsimp only at taken
  split at taken
  · contradiction
  · rename_i front rest found
    obtain ⟨rfl, rfl⟩ := Prod.mk.inj (Option.some.inj taken)
    have held : intake.current.2.buffer = front :: rest :=
      (congrArg Cursor.buffer same).trans found
    refine ⟨intake.current.2, by rw [next?, held]; rfl, same, ?_⟩
    rw [← same]
    simp only [cursor, shift, held]
    rfl

/-- Looking for what is next passes no word. -/
theorem previous_of_next? {front : Option Token} {looked : Intake}
    (found : intake.next? = (front, looked)) : looked.previous = intake.cursor.previous := by
  obtain ⟨_, rfl⟩ := Prod.mk.inj found
  exact congrArg Cursor.previous intake.cursor_current_snd

/-- Taking what is next places it. -/
theorem take_of_next? {token : Token} {looked : Intake}
    (found : intake.next? = (some token, looked)) :
    looked.take source = ([token], looked.shift source token) := by
  have again := intake.next?_next?
  rw [found] at again
  rw [take, again]

/-- Taking a token takes what the cursor takes. -/
theorem cursor_take (intake : Intake) (source : Text) :
    intake.cursor.take source = ((intake.take source).1, (intake.take source).2.cursor) := by
  cases taken : intake.cursor.advance? source with
  | none =>
    obtain ⟨looked, found, same⟩ := next?_of_advance?_none taken
    rw [Cursor.take, taken, take, found, ← same]
  | some pair =>
    obtain ⟨token, after⟩ := pair
    obtain ⟨looked, found, _, rfl⟩ := next?_of_advance?_some taken
    rw [Cursor.take, taken, take, found]

theorem cursor_note (intake : Intake) (notice : Notice) :
    intake.cursor.note notice = (intake.note notice).cursor := rfl

theorem cursor_enter (intake : Intake) : intake.cursor.enter = intake.enter.cursor := rfl

theorem cursor_takeGap (intake : Intake) (source : Text) :
    intake.cursor.takeGap source =
      ((intake.takeGap source).1, (intake.takeGap source).2.cursor) := by
  unfold Cursor.takeGap takeGap
  simp only [cursor_current]
  split
  · exact cursor_take _ source
  · rfl

theorem cursor_nextOnLine (intake : Intake) (source : Text) :
    intake.cursor.nextOnLine source =
      ((intake.nextOnLine source).1, (intake.nextOnLine source).2.cursor) := by
  unfold Cursor.nextOnLine nextOnLine
  simp only [cursor_current]
  split
  · exact cursor_peek _ 1
  · rfl

end Intake

end BrightBlocks.Block
