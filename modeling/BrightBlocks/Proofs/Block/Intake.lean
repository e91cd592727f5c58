import BrightBlocks.Block.Cursor

/-!
# Taking tokens in

A `Cursor` is made from a stream whose end has been looked for. An `Intake` stands before a
stream that nobody has looked at: any tokens, with ends of input anywhere or nowhere among them.
It draws one token at a time and only when it is asked for one that is not in its buffer. The
draw that comes to an end of input, or to the end of the stream, fixes the token that ends the
input for good; nothing is drawn after that. `Intake.cursor` is the cursor that stands at the same
place.
-/

namespace BrightBlocks.Block

/-- How many tokens the recovery holds at most that it has not placed. -/
def window : Nat := 3

/-- A place in a stream of tokens that are drawn on demand. -/
structure Intake where
  /-- Tokens that were drawn and are not placed. -/
  buffer : List Token
  /-- Tokens that were not drawn yet. -/
  unread : List Token
  /-- The token that ends the input, once it has been met. -/
  finish : Option Token
  /-- Where the last token that was drawn stops. -/
  reached : Int
  /-- How many tokens have been placed. -/
  consumed : Nat
  /-- The last significant word of the line so far. -/
  previous : Option String
  /-- How many blocks are open. -/
  depth : Nat
  /-- The notices so far, the first one in front. -/
  log : List Notice
  /-- How many tokens have been drawn, ends of input not counted. -/
  drawn : Nat
  /-- The largest number of tokens that the buffer has held. -/
  peak : Nat
  /-- The mark covers what the buffer holds now. -/
  held : buffer.length ≤ peak
  deriving DecidableEq, Repr

/-- The token that ends a stream of which the last token drawn stops at `reached`. -/
def endBehind (reached : Int) : List Token → Token
  | [] => Token.endOfInput reached
  | token :: rest => if token.kind = .endOfInput then token else endBehind token.stop rest

/-- What stands behind the first end of input. -/
def tokensBeyond (tokens : List Token) : List Token :=
  (tokens.dropWhile (·.kind ≠ .endOfInput)).tail

namespace Intake

/-- The intake at the start of a stream. -/
def ofTokens (tokens : List Token) : Intake where
  buffer := []
  unread := tokens
  finish := none
  reached := 0
  consumed := 0
  previous := none
  depth := 0
  log := []
  drawn := 0
  peak := 0
  held := Nat.le_refl 0

/-- Draws the next token of the stream into the buffer, or meets the end of the input. -/
def draw (intake : Intake) : Intake :=
  match intake.unread with
  | [] => { intake with finish := some (Token.endOfInput intake.reached) }
  | token :: rest =>
    if token.kind = .endOfInput then { intake with unread := rest, finish := some token }
    else
      { intake with
        buffer := intake.buffer ++ [token]
        unread := rest
        reached := token.stop
        drawn := intake.drawn + 1
        peak := max intake.peak (intake.buffer.length + 1)
        held := List.length_append ▸ Nat.le_max_right _ _ }

/-- Each draw uses a token up or meets the end of the input. -/
theorem draw_decreases {intake : Intake} (going : intake.finish = none) :
    (if intake.draw.finish.isSome then 0 else intake.draw.unread.length + 1) <
      if intake.finish.isSome then 0 else intake.unread.length + 1 := by
  unfold draw
  split
  · simp [going]
  · rename_i token rest found
    split <;> simp [going, found]

/-- The token `offset` places ahead, or the end of the input. Draws until one of them is known. -/
def peek (intake : Intake) (offset : Nat) : Token × Intake :=
  match intake.buffer[offset]? with
  | some token => (token, intake)
  | none =>
    match _going : intake.finish with
    | some token => (token, intake)
    | none => intake.draw.peek offset
  termination_by if intake.finish.isSome then 0 else intake.unread.length + 1
  decreasing_by exact draw_decreases _going

/-- The next token to be placed, or the end of the input. -/
def current (intake : Intake) : Token × Intake :=
  intake.peek 0

/-- The next token to be placed, nothing at the end of the input. -/
def next? (intake : Intake) : Option Token × Intake :=
  let looked := intake.current.2
  (looked.buffer.head?, looked)

/-- Places the token at the front of the buffer. -/
def shift (intake : Intake) (source : Text) (token : Token) : Intake :=
  { intake with
    buffer := intake.buffer.tail
    consumed := intake.consumed + 1
    previous := (role source token).follow intake.previous
    held := Nat.le_trans (by simp) intake.held }

/-- Takes the next token if there is one. -/
def take (intake : Intake) (source : Text) : List Token × Intake :=
  match intake.next? with
  | (none, looked) => ([], looked)
  | (some token, looked) => ([token], looked.shift source token)

/-- Takes the next token if it is a gap within the line. -/
def takeGap (intake : Intake) (source : Text) : List Token × Intake :=
  let (token, looked) := intake.current
  if role source token = .gap then looked.take source else ([], looked)

/-- The next token, or the one after it when the next one is a gap within the line. -/
def nextOnLine (intake : Intake) (source : Text) : Token × Intake :=
  let (token, looked) := intake.current
  if role source token = .gap then looked.peek 1 else (token, looked)

/-- The place of an intake. -/
def checkpoint (intake : Intake) : Cursor.Checkpoint :=
  ⟨intake.consumed, intake.previous⟩

/-- Returns the tokens that were placed since a checkpoint to the front of the buffer. -/
def putBack (intake : Intake) (place : Cursor.Checkpoint) (placed : List Token) : Intake :=
  { intake with
    buffer := placed ++ intake.buffer
    consumed := place.consumed
    previous := place.previous
    peak := max intake.peak (placed.length + intake.buffer.length)
    held := List.length_append ▸ Nat.le_max_right _ _ }

/-- Notes a decision down. -/
def note (intake : Intake) (notice : Notice) : Intake :=
  { intake with log := intake.log ++ [notice] }

/-- Opens a block. -/
def enter (intake : Intake) : Intake :=
  { intake with depth := intake.depth + 1 }

/-- Leaves the block that was opened last. -/
def leave (intake : Intake) : Intake :=
  { intake with depth := intake.depth - 1 }

/-! ## The cursor at the same place -/

/-- The tokens that can still be drawn. -/
def coming (intake : Intake) : List Token :=
  match intake.finish with
  | some _ => []
  | none => significantTokens intake.unread

/-- The token that ends the input, whether it has been met or not. -/
def ending (intake : Intake) : Token :=
  intake.finish.getD (endBehind intake.reached intake.unread)

/-- The cursor that stands where the intake stands. -/
def cursor (intake : Intake) : Cursor where
  buffer := intake.buffer
  unread := intake.coming
  finish := intake.ending
  consumed := intake.consumed
  previous := intake.previous
  depth := intake.depth
  log := intake.log

end Intake

/-- The end that a cursor starts with is the one that drawing comes to. -/
theorem finishOf_eq_endBehind (tokens : List Token) : finishOf tokens = endBehind 0 tokens := by
  have general (reached : Int) (tokens : List Token) :
      (match tokens.find? (·.kind = .endOfInput) with
        | some token => token
        | none => Token.endOfInput ((tokens.getLast?.map (·.stop)).getD reached)) =
      endBehind reached tokens := by
    induction tokens generalizing reached with
    | nil => rfl
    | cons token rest inductionHypothesis =>
      rw [endBehind]
      by_cases ends : token.kind = .endOfInput
      · simp [ends]
      · rw [if_neg ends, ← inductionHypothesis, List.find?_cons_of_neg (by simpa using ends),
          List.getLast?_cons]
        cases rest.getLast? <;> rfl
  exact general 0 tokens

end BrightBlocks.Block
