import BrightBlocks.Proofs.Block.RecoveryOnDemand

/-!
# The end of the stream

Where the input ends is found out by drawing: at the first end of input, or when the stream has
no more tokens. The recovery on demand comes to it by whatever it looks for, with tokens in its
buffer that it may yet put back. `outcome_eq` says that this does not matter, for any stream: the
outcome is that of the recovery, and what stands behind the first end of input is not drawn.

`recover_up_to_end` compares streams that differ in their ends only.
-/

namespace BrightBlocks.Block

/-- What shows when a stream has been recovered on demand. -/
structure Outcome where
  file : File
  /-- How many tokens have been placed. -/
  consumed : Nat
  log : List Notice
  /-- The tokens that have not been drawn. -/
  unread : List Token

/-- A place where looking ahead found no token is at the end of the input, which has been met. -/
theorem Intake.finish_of_peek {intake : Intake} {offset : Nat}
    (missing : (intake.peek offset).2.buffer[offset]? = none) :
    (intake.peek offset).2.finish = some (intake.peek offset).1 := by
  fun_induction peek intake offset with
  | case1 intake token found => exact absurd (found.symm.trans missing) (Option.some_ne_none token)
  | case2 intake _ token ended => exact ended
  | case3 intake _ going inductionHypothesis => exact inductionHypothesis missing

namespace OnDemand

/-- The outcome of recovering a stream on demand. -/
def outcome (source : Text) (limit : Nat) (tokens : List Token) : Option Outcome := do
  let (file, last) ← recover source limit tokens
  some ⟨file, last.consumed, last.log, last.unread⟩

/-- A file is read until the end of the input has been met. -/
theorem finish_of_recover {source : Text} {limit : Nat} {tokens : List Token} {file : File}
    {last : Intake} (found : recover source limit tokens = some (file, last))
    (empty : last.buffer = []) : ∃ finish, last.finish = some finish := by
  obtain ⟨⟨children, after⟩, -, found⟩ := Option.bind_eq_some_iff.mp found
  obtain ⟨-, rfl⟩ := Prod.mk.inj (Option.some.inj found)
  exact ⟨_, Intake.finish_of_peek (by rw [empty]; rfl)⟩

/-- A stream has the outcome of the recovery, and is not drawn from behind its first end. -/
theorem outcome_eq (source : Text) (limit : Nat) (tokens : List Token) :
    outcome source limit tokens =
      some ⟨(Block.recover source limit tokens).1, (Block.recover source limit tokens).2.consumed,
        (Block.recover source limit tokens).2.log, tokensBeyond tokens⟩ := by
  obtain ⟨last, found, stands, keeps⟩ := recover_answers source limit tokens
  have nothing := (recover_moves source limit tokens).2
  rw [← stands] at nothing ⊢
  obtain ⟨finish, met⟩ := finish_of_recover found (List.append_eq_nil_iff.mp nothing).1
  have unread : last.unread = tokensBeyond tokens := by
    have beyond := keeps.beyond
    simp only [Intake.beyond, met] at beyond
    exact beyond
  rw [outcome, found, ← unread]
  rfl

end OnDemand

section

variable {tokens : List Token} (significant : ∀ token ∈ tokens, token.kind ≠ .endOfInput)

include significant

theorem tokensBeyond_append (behind : List Token) :
    tokensBeyond (tokens ++ behind) = tokensBeyond behind := by
  rw [tokensBeyond, List.dropWhile_append_of_pos (by simpa using significant), tokensBeyond]

/-- An end of input behind the last token is the one that is made there. -/
theorem ofTokens_append_end (more : List Token) :
    Cursor.ofTokens
        (tokens ++ Token.endOfInput ((tokens.getLast?.map (·.stop)).getD 0) :: more) =
      Cursor.ofTokens tokens := by
  have before (behind : List Token) :
      significantTokens (tokens ++ behind) = tokens ++ significantTokens behind :=
    List.takeWhile_append_of_pos (by simpa using significant)
  have inside : tokens.find? (·.kind = .endOfInput) = none := by simpa using significant
  have stream := before []
  rw [List.append_nil] at stream
  simp only [Cursor.ofTokens, before, stream, finishOf, List.find?_append, inside]
  rfl

/--
A missing or an early end of input makes no difference. Tokens with none among them are recovered
in the same way alone, followed by the end of input behind the last of them, and followed by that
end and any more tokens: the same file, the same number of tokens placed, the same notices. What
stands behind the end is not drawn.
-/
theorem recover_up_to_end (source : Text) (limit : Nat) :
    let finish := Token.endOfInput ((tokens.getLast?.map (·.stop)).getD 0)
    let whole := recover source limit tokens
    let outcome (unread : List Token) : Outcome :=
      ⟨whole.1, whole.2.consumed, whole.2.log, unread⟩
    OnDemand.outcome source limit tokens = some (outcome []) ∧
    OnDemand.outcome source limit (tokens ++ [finish]) = some (outcome []) ∧
    ∀ more : List Token,
      OnDemand.outcome source limit (tokens ++ finish :: more) = some (outcome more) ∧
      recover source limit (tokens ++ finish :: more) = whole := by
  intro finish whole outcome
  have same (more : List Token) : recover source limit (tokens ++ finish :: more) = whole :=
    congrArg (file source limit) (ofTokens_append_end significant more)
  have ended (more : List Token) :
      OnDemand.outcome source limit (tokens ++ finish :: more) = some (outcome more) := by
    rw [OnDemand.outcome_eq, same, tokensBeyond_append significant]
    rfl
  refine ⟨?_, ended [], fun more => ⟨ended more, same more⟩⟩
  have alone := tokensBeyond_append significant []
  rw [List.append_nil] at alone
  rw [OnDemand.outcome_eq, alone]
  rfl

end

/-- The word that would close a loop stands behind the end of the input, and is not drawn. -/
theorem recover_up_to_end_in_loop :
    let source : Text := "while a\nend while".toList
    let tokens := (Token.tokensFrom 0 source).take 5
    let more := [Token.mk .whitespace 11 12, .mk .keyword 12 17]
    (∀ token ∈ tokens, token.kind ≠ .endOfInput) ∧
      (tokens.getLast?.map (·.stop)).getD 0 = 11 ∧
      OnDemand.outcome source 2 (tokens ++ Token.endOfInput 11 :: more) =
        some ⟨(recover source 2 tokens).1, 5, [.deferredEnd .whileLoop 8], more⟩ := by
  intro source tokens more
  have significant : ∀ token ∈ tokens, token.kind ≠ .endOfInput := by decide +kernel
  have last : (tokens.getLast?.map (·.stop)).getD 0 = 11 := by decide +kernel
  have consumed : (recover source 2 tokens).2.consumed = 5 := by decide +kernel
  have log : (recover source 2 tokens).2.log = [.deferredEnd .whileLoop 8] := by decide +kernel
  have ended := ((recover_up_to_end significant source 2).2.2 more).1
  rw [last, consumed, log] at ended
  exact ⟨significant, last, ended⟩

end BrightBlocks.Block
