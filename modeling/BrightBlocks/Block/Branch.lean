import BrightBlocks.Block.Header

/-!
# Branches of a conditional

A branch starts with `else`, `else if`, `elseif` or `elsif`. All but the plain
`else` have a condition. The `if` after an `else` on the same line belongs to
the branch and opens nothing.
-/

namespace BrightBlocks.Block

/-- Puts leaves in front of a header. -/
def Header.prepend (front : List Token) (rest : Header) : Header :=
  { rest with leaves := front ++ rest.leaves }

/-- Reads the start of a branch, whose first token counts as the word `word`. -/
def branch (source : Text) (kind : Kind) (word : Option String) (cursor : Cursor) : Header :=
  let (opening, afterOpening) := cursor.take source
  if word = some "else" then
    let (next, looked) := afterOpening.nextOnLine source
    if role source next = .word "if" then
      let (gap, afterGap) := looked.takeGap source
      let (second, afterSecond) := afterGap.take source
      (header source kind .condition afterSecond).prepend (opening ++ gap ++ second)
    else
      ⟨opening, false, looked⟩
  else
    (header source kind .condition afterOpening).prepend opening

/-- The leaves of a branch and what it leaves ahead make up what was ahead. -/
theorem branch_append_ahead (source : Text) (kind : Kind) (word : Option String)
    (cursor : Cursor) :
    (branch source kind word cursor).leaves ++ (branch source kind word cursor).cursor.ahead =
      cursor.ahead := by
  have opening := cursor.take_append_ahead source
  unfold branch
  dsimp only
  split
  · split
    · simp only [Header.prepend, List.append_assoc, header_append_ahead, Cursor.take_append_ahead,
        Cursor.takeGap_append_ahead, Cursor.ahead_nextOnLine, opening]
    · simpa using opening
  · simp only [Header.prepend, List.append_assoc, header_append_ahead, opening]

/-- A branch takes at least its first token. -/
theorem branch_ahead_lt {source : Text} {kind : Kind} {word : Option String} {cursor after : Cursor}
    {token : Token} (taken : cursor.advance? source = some (token, after)) :
    (branch source kind word cursor).cursor.ahead.length < cursor.ahead.length := by
  have first : cursor.take source = ([token], after) := by simp [Cursor.take, taken]
  have whole := branch_append_ahead source kind word cursor
  have nonempty : 0 < (branch source kind word cursor).leaves.length := by
    unfold branch
    rw [first]
    dsimp only
    split
    · split <;> simp [Header.prepend]
    · simp [Header.prepend]
  rw [← whole, List.length_append]
  omega

end BrightBlocks.Block
