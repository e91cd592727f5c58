import BrightBlocks.Block.Notice
import BrightBlocks.Block.Vocabulary

/-!
# Cursors over tokens

A cursor stands before the tokens that have not been placed in a tree yet. It
draws tokens from the stream only when they are asked for, and keeps those that
were drawn but not placed in a buffer. The stream ends at its first end-of-input
token; where it has none, one is made after its last token.

`ahead` lists what is still to be placed, drawn or not. Looking ahead leaves it
alone, `advance?` takes its first token, and `putBack` returns tokens to its
front.
-/

namespace BrightBlocks.Block

/-- A place in a stream of tokens, with all that placing tokens depends on. -/
structure Cursor where
  /-- Tokens that were drawn and are not placed yet. -/
  buffer : List Token
  /-- Tokens that were not drawn yet. -/
  unread : List Token
  /-- The token that ends the stream. -/
  finish : Token
  /-- How many tokens have been placed. -/
  consumed : Nat
  /-- The last significant word of the line so far. -/
  previous : Option String
  /-- How many blocks are open. -/
  depth : Nat
  /-- The notices so far, the first one in front. -/
  log : List Notice
  deriving DecidableEq, Repr

/-- The tokens before the first end-of-input token. -/
def significantTokens (tokens : List Token) : List Token :=
  tokens.takeWhile (·.kind ≠ .endOfInput)

/-- The token that ends a stream: its first end-of-input token, or one made after its last token. -/
def finishOf (tokens : List Token) : Token :=
  match tokens.find? (·.kind = .endOfInput) with
  | some token => token
  | none => Token.endOfInput ((tokens.getLast?.map (·.stop)).getD 0)

namespace Cursor

/-- The cursor at the start of a stream. -/
def ofTokens (tokens : List Token) : Cursor where
  buffer := []
  unread := significantTokens tokens
  finish := finishOf tokens
  consumed := 0
  previous := none
  depth := 0
  log := []

/-- The tokens that are still to be placed. -/
def ahead (cursor : Cursor) : List Token :=
  cursor.buffer ++ cursor.unread

/-- Draws tokens until `count` of them are in the buffer or the stream has ended. -/
def fill (cursor : Cursor) (count : Nat) : Cursor :=
  let missing := count - cursor.buffer.length
  { cursor with
    buffer := cursor.buffer ++ cursor.unread.take missing
    unread := cursor.unread.drop missing }

/-- The token `offset` places ahead, or the end of the stream. -/
def peek (cursor : Cursor) (offset : Nat) : Token × Cursor :=
  let filled := cursor.fill (offset + 1)
  (filled.buffer[offset]?.getD filled.finish, filled)

/-- The next token to be placed, or the end of the stream. -/
def current (cursor : Cursor) : Token × Cursor :=
  cursor.peek 0

/-- Takes the next token, nothing at the end of the stream. -/
def advance? (cursor : Cursor) (source : Text) : Option (Token × Cursor) :=
  let filled := cursor.fill 1
  match filled.buffer with
  | [] => none
  | token :: rest =>
    some (token,
      { filled with
        buffer := rest
        consumed := filled.consumed + 1
        previous := (role source token).follow filled.previous })

/-- Takes the next token if there is one. -/
def take (cursor : Cursor) (source : Text) : List Token × Cursor :=
  match cursor.advance? source with
  | some (token, after) => ([token], after)
  | none => ([], cursor)

/-- Takes the next token if it is a gap within the line. -/
def takeGap (cursor : Cursor) (source : Text) : List Token × Cursor :=
  let (token, filled) := cursor.current
  if role source token = .gap then filled.take source else ([], filled)

/-- The next token, or the one after it when the next one is a gap within the line. -/
def nextOnLine (cursor : Cursor) (source : Text) : Token × Cursor :=
  let (token, filled) := cursor.current
  if role source token = .gap then filled.peek 1 else (token, filled)

/-- The word that the next token contributes to the structure. -/
def structuralWord (cursor : Cursor) (source : Text) : Option String × Cursor :=
  let (token, filled) := cursor.current
  ((role source token).structural filled.previous, filled)

/-- What has to be known to come back to a place. -/
structure Checkpoint where
  consumed : Nat
  previous : Option String
  deriving DecidableEq, Repr

/-- The place of a cursor. -/
def checkpoint (cursor : Cursor) : Checkpoint :=
  ⟨cursor.consumed, cursor.previous⟩

/-- Returns the tokens that were placed since a checkpoint to the front of the stream. -/
def putBack (cursor : Cursor) (place : Checkpoint) (placed : List Token) : Cursor :=
  { cursor with
    buffer := placed ++ cursor.buffer
    consumed := place.consumed
    previous := place.previous }

/-- Notes a decision down. -/
def note (cursor : Cursor) (notice : Notice) : Cursor :=
  { cursor with log := cursor.log ++ [notice] }

/-- Opens a block. -/
def enter (cursor : Cursor) : Cursor :=
  { cursor with depth := cursor.depth + 1 }

/-- Leaves the block that was opened last. -/
def leave (cursor : Cursor) : Cursor :=
  { cursor with depth := cursor.depth - 1 }

/-! ## What operations do to the tokens ahead -/

@[simp]
theorem ahead_fill (cursor : Cursor) (count : Nat) : (cursor.fill count).ahead = cursor.ahead := by
  simp [fill, ahead]

@[simp]
theorem ahead_peek (cursor : Cursor) (offset : Nat) :
    (cursor.peek offset).2.ahead = cursor.ahead := by
  simp [peek]

@[simp]
theorem ahead_current (cursor : Cursor) : cursor.current.2.ahead = cursor.ahead := by
  simp [current]

@[simp]
theorem ahead_note (cursor : Cursor) (notice : Notice) :
    (cursor.note notice).ahead = cursor.ahead := rfl

@[simp]
theorem ahead_enter (cursor : Cursor) : cursor.enter.ahead = cursor.ahead := rfl

@[simp]
theorem ahead_leave (cursor : Cursor) : cursor.leave.ahead = cursor.ahead := rfl

@[simp]
theorem ahead_putBack (cursor : Cursor) (place : Checkpoint) (placed : List Token) :
    (cursor.putBack place placed).ahead = placed ++ cursor.ahead := by
  simp [putBack, ahead]

/-- Advancing takes exactly the first of the tokens ahead. -/
theorem ahead_of_advance? {cursor after : Cursor} {source : Text} {token : Token}
    (taken : cursor.advance? source = some (token, after)) :
    cursor.ahead = token :: after.ahead := by
  rw [← ahead_fill cursor 1]
  unfold advance? at taken
  dsimp only at taken
  split at taken
  · contradiction
  · rename_i front rest found
    simp only [Option.some.injEq, Prod.mk.injEq] at taken
    obtain ⟨rfl, rfl⟩ := taken
    simp [ahead, found]

/-- A cursor advances unless nothing is ahead. -/
theorem advance?_eq_none_iff {cursor : Cursor} {source : Text} :
    cursor.advance? source = none ↔ cursor.ahead = [] := by
  constructor
  · intro stuck
    unfold advance? at stuck
    dsimp only at stuck
    split at stuck
    · rename_i found
      simp only [fill, List.append_eq_nil_iff, List.take_eq_nil_iff] at found
      obtain ⟨empty, rest⟩ := found
      simp only [empty, List.length_nil, Nat.sub_zero, Nat.one_ne_zero, false_or] at rest
      simp [ahead, empty, rest]
    · contradiction
  · intro nothing
    cases taken : cursor.advance? source with
    | none => rfl
    | some pair =>
      obtain ⟨token, after⟩ := pair
      have first := ahead_of_advance? taken
      simp [nothing] at first

/-- What `take` yields and what it leaves ahead make up what was ahead. -/
theorem take_append_ahead (cursor : Cursor) (source : Text) :
    (cursor.take source).1 ++ (cursor.take source).2.ahead = cursor.ahead := by
  unfold take
  split
  · rename_i token after taken
    simp [ahead_of_advance? taken]
  · simp

/-- What `takeGap` yields and what it leaves ahead make up what was ahead. -/
theorem takeGap_append_ahead (cursor : Cursor) (source : Text) :
    (cursor.takeGap source).1 ++ (cursor.takeGap source).2.ahead = cursor.ahead := by
  unfold takeGap
  dsimp only
  split
  · rw [take_append_ahead, ahead_current]
  · simp

@[simp]
theorem ahead_nextOnLine (cursor : Cursor) (source : Text) :
    (cursor.nextOnLine source).2.ahead = cursor.ahead := by
  unfold nextOnLine
  dsimp only
  split <;> simp

/-! ## What is taken next -/

/-- Opening a block does not change what is taken next. -/
theorem advance?_enter (cursor : Cursor) (source : Text) :
    cursor.enter.advance? source =
      (cursor.advance? source).map fun (token, after) => (token, after.enter) := by
  have same : (cursor.enter.fill 1).buffer = (cursor.fill 1).buffer := rfl
  unfold advance?
  dsimp only
  rw [same]
  cases (cursor.fill 1).buffer <;> rfl

/-- Drawing a token twice is drawing it once. -/
theorem fill_fill (cursor : Cursor) : (cursor.fill 1).fill 1 = cursor.fill 1 := by
  cases cursor with
  | mk buffer unread =>
    cases buffer <;> cases unread <;> simp [fill]

/-- Looking at the next token does not change what is taken next. -/
theorem advance?_fill (cursor : Cursor) (source : Text) :
    (cursor.fill 1).advance? source = cursor.advance? source := by
  simp only [advance?, fill_fill]

theorem take_eq {cursor after : Cursor} {source : Text} {token : Token}
    (taken : cursor.advance? source = some (token, after)) :
    cursor.take source = ([token], after) := by
  simp [take, taken]

theorem take_enter_eq {cursor after : Cursor} {source : Text} {token : Token}
    (taken : cursor.advance? source = some (token, after)) :
    cursor.enter.take source = ([token], after.enter) := by
  simp [take, advance?_enter, taken]

/-- Noting a decision down does not change what is taken next. -/
theorem advance?_note (cursor : Cursor) (source : Text) (notice : Notice) :
    (cursor.note notice).advance? source =
      (cursor.advance? source).map fun (token, after) => (token, after.note notice) := by
  have same : ((cursor.note notice).fill 1).buffer = (cursor.fill 1).buffer := rfl
  unfold advance?
  dsimp only
  rw [same]
  cases (cursor.fill 1).buffer <;> rfl

/-- The current token is the one that is taken next. -/
theorem current_eq {cursor after : Cursor} {source : Text} {token : Token}
    (taken : cursor.advance? source = some (token, after)) :
    cursor.current = (token, cursor.fill 1) := by
  unfold advance? at taken
  dsimp only at taken
  split at taken
  · contradiction
  · rename_i front rest found
    simp only [Option.some.injEq, Prod.mk.injEq] at taken
    obtain ⟨rfl, _⟩ := taken
    simp [current, peek, found]

end Cursor

end BrightBlocks.Block
