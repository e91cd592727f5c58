import BrightBlocks.Block.Cursor

/-!
# Terminators of two words

Every terminator that starts with `end` is tried: its tokens are placed one by
one, and put back when the word after `end` turns out not to be the block's own.
Then the enclosing block meets the same `end` again.
-/

namespace BrightBlocks.Block

/--
Tries to close a block at `end`. Yields the leaves of the terminator, or nothing
when the word that follows on the line is not the block's own.
-/
def closeWithEnd (source : Text) (kind : Kind) (cursor : Cursor) :
    Option (List Token) × Cursor :=
  let place := cursor.checkpoint
  let (first, drawn) := cursor.current
  let (opening, afterOpening) := drawn.take source
  let (gap, afterGap) := afterOpening.takeGap source
  let (last, looked) := afterGap.current
  if role source last = .word kind.opener then
    let (closing, after) := looked.take source
    (some (opening ++ gap ++ closing), after)
  else
    (none, (looked.putBack place (opening ++ gap)).note (.deferredEnd kind first.start))

/-- A terminator and what it leaves ahead make up what was ahead; without one all is ahead. -/
theorem closeWithEnd_append_ahead (source : Text) (kind : Kind) (cursor : Cursor) :
    (closeWithEnd source kind cursor).1.getD [] ++ (closeWithEnd source kind cursor).2.ahead =
      cursor.ahead := by
  unfold closeWithEnd
  dsimp only
  split
  · simp only [Option.getD_some, List.append_assoc, Cursor.take_append_ahead,
      Cursor.takeGap_append_ahead, Cursor.ahead_current]
  · simp only [Option.getD_none, List.nil_append, Cursor.ahead_note, Cursor.ahead_putBack,
      List.append_assoc, Cursor.ahead_current, Cursor.takeGap_append_ahead,
      Cursor.take_append_ahead]

/-- Trying a terminator never leaves more ahead than there was. -/
theorem closeWithEnd_ahead_le (source : Text) (kind : Kind) (cursor : Cursor) :
    (closeWithEnd source kind cursor).2.ahead.length ≤ cursor.ahead.length := by
  rw [← closeWithEnd_append_ahead source kind cursor, List.length_append]
  omega

end BrightBlocks.Block
