import BrightBlocks.Proofs.Block.BodyRules
import BrightBlocks.Proofs.Block.Movement

/-!
# What is looked at on the line

A cursor looks for the next token of its line by drawing from the stream; the
machine is handed the tokens behind the one that it reads. Both find the same
role (`role_nextOnLine`, `codeFollows_eq`), and two tokens are enough for it
(`roleOnLine_take`).

Looking, and taking what was found, notes nothing down.
-/

namespace BrightBlocks.Block

variable {source : Text}

/-! ## Tokens handed over -/

/-- Two tokens decide the role of the next one on the line. -/
@[simp]
theorem roleOnLine_take (tokens : List Token) :
    roleOnLine source (tokens.take 2) = roleOnLine source tokens := by
  cases tokens with
  | nil => rfl
  | cons token rest => cases rest <;> rfl

@[simp]
theorem codeOnLine_take (tokens : List Token) :
    codeOnLine source (tokens.take 2) = codeOnLine source tokens := by
  simp [codeOnLine]

@[simp]
theorem Machine.stageOfElse_take (word : String) (tokens : List Token) :
    stageOfElse source word (tokens.take 2) = stageOfElse source word tokens := by
  simp [stageOfElse]

/-! ## Notices -/

namespace Cursor

theorem log_of_advance? {cursor after : Cursor} {token : Token}
    (taken : cursor.advance? source = some (token, after)) : after.log = cursor.log := by
  unfold advance? at taken
  dsimp only at taken
  split at taken
  · contradiction
  · simp only [Option.some.injEq, Prod.mk.injEq] at taken
    obtain ⟨-, rfl⟩ := taken
    rfl

@[simp]
theorem log_take (cursor : Cursor) : (cursor.take source).2.log = cursor.log := by
  unfold take
  split
  · rename_i taken
    exact log_of_advance? taken
  · rfl

@[simp]
theorem log_takeGap (cursor : Cursor) : (cursor.takeGap source).2.log = cursor.log := by
  unfold takeGap
  dsimp only
  split
  · rw [log_take]
    rfl
  · rfl

@[simp]
theorem log_nextOnLine (cursor : Cursor) : (cursor.nextOnLine source).2.log = cursor.log := by
  unfold nextOnLine
  dsimp only
  split <;> rfl

/-! ## Tokens ahead -/

/-- Looking ahead finds a token that is ahead, or the end of the stream. -/
theorem peek_eq (cursor : Cursor) (offset : Nat) :
    (cursor.peek offset).1 = cursor.ahead[offset]?.getD cursor.finish := by
  have drawn : (cursor.fill (offset + 1)).buffer[offset]? = cursor.ahead[offset]? := by
    show (cursor.buffer ++ cursor.unread.take (offset + 1 - cursor.buffer.length))[offset]? =
      (cursor.buffer ++ cursor.unread)[offset]?
    rw [List.getElem?_append, List.getElem?_append]
    split
    · rfl
    · exact List.getElem?_take_of_lt (by omega)
  show (cursor.fill (offset + 1)).buffer[offset]?.getD cursor.finish = _
  rw [drawn]

/-- A cursor of a stream that has an end, with a given number of blocks open. -/
structure Ready (cursor : Cursor) (opened : Nat) : Prop where
  depth : cursor.depth = opened
  finish : cursor.finish.kind = .endOfInput

namespace Ready

variable {cursor after : Cursor} {opened : Nat}

theorem ofTokens (tokens : List Token) : Ready (ofTokens tokens) 0 where
  depth := rfl
  finish := by
    show (finishOf tokens).kind = .endOfInput
    unfold finishOf
    split
    · rename_i found
      simpa using List.find?_some found
    · rfl

theorem moves {placed : List Token} (ready : cursor.Ready opened)
    (moves : Moves source cursor placed after) : after.Ready opened :=
  ⟨moves.depth.trans ready.depth, by rw [moves.finish]; exact ready.finish⟩

theorem enter (ready : cursor.Ready opened) : cursor.enter.Ready (opened + 1) :=
  ⟨congrArg (· + 1) ready.depth, ready.finish⟩

theorem leave (ready : cursor.Ready (opened + 1)) : cursor.leave.Ready opened :=
  ⟨congrArg (· - 1) ready.depth, ready.finish⟩

theorem note (ready : cursor.Ready opened) (notice : Notice) : (cursor.note notice).Ready opened :=
  ⟨ready.depth, ready.finish⟩

theorem role_finish (ready : cursor.Ready opened) : role source cursor.finish = .endOfInput := by
  simp [role, ready.finish]

/-- The role that is found on the line is that of a token ahead. -/
theorem role_nextOnLine (ready : cursor.Ready opened) :
    role source (cursor.nextOnLine source).1 = roleOnLine source cursor.ahead := by
  have ended : role source cursor.finish = .endOfInput := ready.role_finish
  unfold nextOnLine
  dsimp only
  rw [current, peek_eq]
  cases ahead : cursor.ahead with
  | nil => simp [roleOnLine, ended]
  | cons token rest =>
    have second : (peek (cursor.peek 0).2 1).1 = rest[0]?.getD cursor.finish := by
      rw [peek_eq, ahead_peek, ahead]
      rfl
    by_cases gap : role source token = .gap
    · cases rest <;> simp [roleOnLine, gap, second, ended]
    · simp [roleOnLine, gap]

/-- After a gap the next token is the one that was found on the line. -/
theorem role_current_takeGap (ready : cursor.Ready opened) :
    role source (cursor.takeGap source).2.current.1 = roleOnLine source cursor.ahead := by
  have ended : role source cursor.finish = .endOfInput := ready.role_finish
  have moves := takeGap_moves source cursor
  have whole := moves.ahead
  rw [current, peek_eq, moves.finish]
  unfold takeGap at whole ⊢
  dsimp only at whole ⊢
  rw [current, peek_eq] at whole ⊢
  cases taken : cursor.advance? source with
  | none =>
    have nothing := advance?_eq_none_iff.mp taken
    simp [nothing, roleOnLine, ended, Cursor.peek]
  | some pair =>
    obtain ⟨token, after⟩ := pair
    have ahead := ahead_of_advance? taken
    have drawn : (cursor.peek 0).2.take source = ([token], after) := by
      rw [take_eq]
      exact (advance?_fill cursor source).trans taken
    by_cases gap : role source token = .gap
    · cases rest : after.ahead <;> simp [ahead, gap, drawn, roleOnLine, rest, ended]
    · simp [ahead, gap, roleOnLine]

end Ready

end Cursor

open Cursor (Moves)

/-- Code follows on the line of a cursor if it does in the tokens ahead. -/
theorem codeFollows_eq {cursor : Cursor} {opened : Nat} (ready : cursor.Ready opened) :
    (codeFollows source cursor).1 = codeOnLine source cursor.ahead := by
  have same : role source (cursor.nextOnLine source).1 = roleOnLine source cursor.ahead :=
    ready.role_nextOnLine
  cases found : roleOnLine source cursor.ahead <;> simp [codeFollows, codeOnLine, same, found]

/-- Only a gap is taken as one. -/
theorem role_of_mem_takeGap {cursor : Cursor} {token : Token}
    (member : token ∈ (cursor.takeGap source).1) : role source token = .gap := by
  unfold Cursor.takeGap at member
  dsimp only at member
  split at member
  · rename_i gap
    cases taken : cursor.advance? source with
    | none =>
      have stuck := (Cursor.advance?_fill cursor source).trans taken
      simp [Cursor.take, Cursor.current, Cursor.peek, stuck] at member
    | some pair =>
      obtain ⟨first, after⟩ := pair
      rw [Cursor.current_eq taken] at gap member
      rw [Cursor.take_eq ((Cursor.advance?_fill cursor source).trans taken),
        List.mem_singleton] at member
      rw [member]
      exact gap
  · contradiction

/-- A word that was found on the line is the token after the gap. -/
theorem take_takeGap {cursor : Cursor} {opened : Nat} {word : String}
    (ready : cursor.Ready opened) (found : roleOnLine source cursor.ahead = .word word) :
    ∃ last, ((cursor.takeGap source).2.take source).1 = [last] ∧
      role source last = .word word := by
  have reached : role source (cursor.takeGap source).2.current.1 = .word word :=
    ready.role_current_takeGap.trans found
  cases taken : (cursor.takeGap source).2.advance? source with
  | none =>
    -- at the end of the stream there is no word
    have nothing := Cursor.advance?_eq_none_iff.mp taken
    rw [Cursor.current, Cursor.peek_eq, nothing, (takeGap_moves source cursor).finish] at reached
    have ended : role source cursor.finish = .endOfInput := ready.role_finish
    simp [ended] at reached
  | some pair =>
    obtain ⟨last, after⟩ := pair
    rw [Cursor.current_eq taken] at reached
    exact ⟨last, by rw [Cursor.take_eq taken], reached⟩

end BrightBlocks.Block
