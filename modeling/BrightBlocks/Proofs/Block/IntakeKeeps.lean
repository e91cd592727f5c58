import BrightBlocks.Proofs.Block.IntakeCursor

/-!
# What the operations of an intake keep

However an intake is worked with, it holds no more tokens than the window allows, it counts every
token that it has drawn, and it draws none from behind the end of the input (`Intake.Keeps`).
-/

namespace BrightBlocks.Block

namespace Intake

variable {source : Text} {intake : Intake}

/-- How many tokens are placed or in the buffer. -/
def extent (intake : Intake) : Nat :=
  intake.consumed + intake.buffer.length

/-- What stands behind the end of the input, which is never drawn. -/
def beyond (intake : Intake) : List Token :=
  match intake.finish with
  | some _ => intake.unread
  | none => tokensBeyond intake.unread

/-- What holds of all reading between two places. -/
structure Keeps (before after : Intake) : Prop where
  /-- The buffer does not grow beyond the window. -/
  buffer : after.buffer.length ≤ max before.buffer.length window
  /-- Nor did it on the way. -/
  peak : after.peak ≤ max before.peak (max before.buffer.length window)
  rises : before.peak ≤ after.peak
  /-- Each token that was drawn is placed or in the buffer. -/
  drawn : after.drawn + before.extent = before.drawn + after.extent
  /-- Nothing is drawn from behind the end. -/
  beyond : after.beyond = before.beyond

namespace Keeps

variable {before middle after : Intake}

theorem refl (intake : Intake) : Keeps intake intake :=
  ⟨Nat.le_max_left _ _, Nat.le_max_left _ _, Nat.le_refl _, rfl, rfl⟩

theorem trans (first : Keeps before middle) (second : Keeps middle after) : Keeps before after where
  buffer := by
    have first_buffer := first.buffer
    have second_buffer := second.buffer
    omega
  peak := by
    have first_buffer := first.buffer
    have first_peak := first.peak
    have second_peak := second.peak
    omega
  rises := Nat.le_trans first.rises second.rises
  drawn := by
    have first_drawn := first.drawn
    have second_drawn := second.drawn
    omega
  beyond := second.beyond.trans first.beyond

end Keeps

/-- A draw puts at most one token into the buffer and leaves what is behind the end. -/
theorem draw_keeps (going : intake.finish = none) (short : intake.buffer.length < window) :
    Keeps intake intake.draw := by
  unfold draw
  split
  · rename_i nothing
    refine ⟨Nat.le_max_left _ _, Nat.le_max_left _ _, Nat.le_refl _, rfl, ?_⟩
    simp [beyond, going, nothing, tokensBeyond]
  · rename_i token rest found
    split
    · rename_i ends
      refine ⟨Nat.le_max_left _ _, Nat.le_max_left _ _, Nat.le_refl _, rfl, ?_⟩
      simp [beyond, going, found, tokensBeyond, ends]
    · rename_i goesOn
      refine ⟨?_, ?_, Nat.le_max_left _ _, ?_, ?_⟩
      · simp only [List.length_append, List.length_singleton]
        omega
      · dsimp only
        omega
      · simp only [extent, List.length_append, List.length_singleton]
        omega
      · simp [beyond, going, found, tokensBeyond, goesOn]

/-- Looking ahead within the window keeps to it. -/
theorem peek_keeps {offset : Nat} (within : offset < window) (intake : Intake) :
    Keeps intake (intake.peek offset).2 := by
  fun_induction peek intake offset with
  | case1 intake token found => exact .refl intake
  | case2 intake missing token ended => exact .refl intake
  | case3 intake missing going inductionHypothesis =>
    have short := List.getElem?_eq_none_iff.mp missing
    exact (draw_keeps going (Nat.lt_of_le_of_lt short within)).trans inductionHypothesis

theorem current_keeps (intake : Intake) : Keeps intake intake.current.2 :=
  peek_keeps (by decide) intake

theorem next?_keeps {front : Option Token} {looked : Intake}
    (found : intake.next? = (front, looked)) : Keeps intake looked := by
  obtain ⟨_, rfl⟩ := Prod.mk.inj found
  exact intake.current_keeps

theorem length_buffer_current (intake : Intake) :
    intake.current.2.buffer.length ≤ max intake.buffer.length 1 := by
  have same := congrArg (fun cursor => cursor.buffer.length) intake.cursor_current_snd
  simp only [cursor, Cursor.fill, List.length_append, List.length_take] at same
  omega

/-- What is next stands at the front of the buffer. -/
theorem length_buffer_of_next? {token : Token} {looked : Intake}
    (found : intake.next? = (some token, looked)) :
    (looked.shift source token).buffer.length + 1 = looked.buffer.length := by
  obtain ⟨front, rfl⟩ := Prod.mk.inj found
  obtain ⟨rest, held⟩ := List.head?_eq_some_iff.mp front
  simp [shift, held]

/-- A token that is taken leaves room for another. -/
theorem length_take (intake : Intake) (source : Text) :
    (intake.take source).1.length ≤ 1 ∧
      (intake.take source).1.length + (intake.take source).2.buffer.length ≤
        max intake.buffer.length 1 := by
  have drawn : intake.next?.2.buffer.length ≤ max intake.buffer.length 1 :=
    intake.length_buffer_current
  rw [take]
  rcases found : intake.next? with ⟨_ | token, looked⟩
  · rw [found] at drawn
    simpa using drawn
  · rw [found, ← @length_buffer_of_next? source _ _ _ found] at drawn
    simp only [List.length_singleton]
    omega

/-- Placing what is next keeps to the window. -/
theorem shift_keeps {token : Token} {looked : Intake}
    (found : intake.next? = (some token, looked)) : Keeps intake (looked.shift source token) := by
  have shorter := @length_buffer_of_next? source _ _ _ found
  refine (next?_keeps found).trans ⟨?_, Nat.le_max_left _ _, Nat.le_refl _, ?_, rfl⟩
  · omega
  · simp only [extent]
    rw [← shorter]
    simp only [shift]
    omega

theorem take_keeps (intake : Intake) (source : Text) : Keeps intake (intake.take source).2 := by
  rw [take]
  rcases found : intake.next? with ⟨_ | token, looked⟩
  · exact next?_keeps found
  · exact shift_keeps found

theorem length_takeGap (intake : Intake) (source : Text) :
    (intake.takeGap source).1.length ≤ 1 ∧
      (intake.takeGap source).1.length + (intake.takeGap source).2.buffer.length ≤
        max intake.buffer.length 1 := by
  have looked := intake.length_buffer_current
  unfold takeGap
  dsimp only
  split
  · have taken := intake.current.2.length_take source
    omega
  · simpa using looked

theorem takeGap_keeps (intake : Intake) (source : Text) :
    Keeps intake (intake.takeGap source).2 := by
  refine intake.current_keeps.trans ?_
  unfold takeGap
  dsimp only
  split
  · exact take_keeps _ source
  · exact .refl _

theorem nextOnLine_keeps (intake : Intake) (source : Text) :
    Keeps intake (intake.nextOnLine source).2 := by
  refine intake.current_keeps.trans ?_
  unfold nextOnLine
  dsimp only
  split
  · exact peek_keeps (by decide) _
  · exact .refl _

theorem consumed_current (intake : Intake) : intake.current.2.consumed = intake.consumed :=
  congrArg Cursor.consumed intake.cursor_current_snd

theorem consumed_take (intake : Intake) (source : Text) :
    (intake.take source).2.consumed = intake.consumed + (intake.take source).1.length := by
  have moves := take_moves source intake.cursor
  rw [cursor_take] at moves
  exact moves.consumed

theorem consumed_takeGap (intake : Intake) (source : Text) :
    (intake.takeGap source).2.consumed = intake.consumed + (intake.takeGap source).1.length := by
  have moves := takeGap_moves source intake.cursor
  rw [cursor_takeGap] at moves
  exact moves.consumed

/-- Tokens that are put back are held as before. -/
theorem putBack_keeps {before : Intake} {place : Cursor.Checkpoint} {placed : List Token}
    (keeps : Keeps before intake) (counts : intake.consumed = place.consumed + placed.length)
    (fits : placed.length + intake.buffer.length ≤ max before.buffer.length window) :
    Keeps before (intake.putBack place placed) where
  buffer := by
    rw [putBack, List.length_append]
    exact fits
  peak := by
    have reached := keeps.peak
    simp only [putBack]
    omega
  rises := Nat.le_trans keeps.rises (Nat.le_max_left _ _)
  drawn := by
    have drawn := keeps.drawn
    simp only [putBack, extent, List.length_append] at drawn ⊢
    omega
  beyond := keeps.beyond

theorem note_keeps (intake : Intake) (notice : Notice) : Keeps intake (intake.note notice) :=
  ⟨Nat.le_max_left _ _, Nat.le_max_left _ _, Nat.le_refl _, rfl, rfl⟩

theorem enter_keeps (intake : Intake) : Keeps intake intake.enter :=
  ⟨Nat.le_max_left _ _, Nat.le_max_left _ _, Nat.le_refl _, rfl, rfl⟩

theorem leave_keeps (intake : Intake) : Keeps intake intake.leave :=
  ⟨Nat.le_max_left _ _, Nat.le_max_left _ _, Nat.le_refl _, rfl, rfl⟩

end Intake

end BrightBlocks.Block
