import Mathlib.Data.List.TakeWhile
import BrightBlocks.Proofs.Block.Movement
import BrightBlocks.Proofs.Token.Tiling

/-!
# The recovery keeps every token

The leaves of a recovered file are the tokens before the end of the input, each
once and in their order, whatever the tokens are and however deep blocks may
nest. With `tokensFrom_tiles` it follows that the leaves of a parsed source
spell the source.

Which block a token ends up in is no part of this module.
-/

namespace BrightBlocks.Block

/-- Recovering blocks moves a cursor over the whole stream by the leaves of the file. -/
theorem recover_moves (source : Text) (limit : Nat) (tokens : List Token) :
    Cursor.Moves source (Cursor.ofTokens tokens)
        (Forest.leaves (recover source limit tokens).1.children)
        (recover source limit tokens).2 ∧
      (recover source limit tokens).2.ahead = [] :=
  (forest_reads source limit (Cursor.ofTokens tokens)).moves

theorem recover_leaves (source : Text) (limit : Nat) (tokens : List Token) :
    Forest.leaves (recover source limit tokens).1.children = significantTokens tokens := by
  obtain ⟨moves, ended⟩ := recover_moves source limit tokens
  have ahead := moves.ahead
  rw [ended, List.append_nil] at ahead
  exact ahead.symm

theorem recover_length (source : Text) (limit : Nat) (tokens : List Token) :
    (recover source limit tokens).1.length = (finishOf tokens).stop :=
  congrArg Token.stop (recover_moves source limit tokens).1.finish

/-! ## Tokens of a source -/

theorem significantTokens_tokenize (source : Text) :
    significantTokens (Token.tokenize source) = Token.tokensFrom 0 source := by
  have significant := (Token.tokensFrom_tiles 0 source).significant
  unfold significantTokens Token.tokenize
  rw [List.takeWhile_append_of_pos (by simpa using significant)]
  simp [Token.endOfInput]

theorem finishOf_tokenize (source : Text) :
    finishOf (Token.tokenize source) = Token.endOfInput source.length := by
  have significant := (Token.tokensFrom_tiles 0 source).significant
  have found : (Token.tokenize source).find? (·.kind = .endOfInput) =
      some (Token.endOfInput source.length) := by
    have none_before : (Token.tokensFrom 0 source).find? (·.kind = .endOfInput) = none := by
      simpa using significant
    simp [Token.tokenize, List.find?_append, none_before, Token.endOfInput]
  rw [finishOf, found]

/-- The leaves of a parsed source are its tokens. -/
theorem parse_leaves (source : Text) (limit : Nat) :
    Forest.leaves (parse source limit).children = Token.tokensFrom 0 source :=
  (recover_leaves source limit _).trans (significantTokens_tokenize source)

/-! ## Conservation -/

/--
Recovering blocks places every token before the first end of the input once and in order, counts
them, leaves all blocks, and ends the file where the input ends. Hence a parsed source is spelled by
its leaves, and its file covers exactly the source.
-/
theorem recover_conserves_tokens :
    (∀ (source : Text) (limit : Nat) (tokens : List Token),
      let before := tokens.takeWhile (·.kind ≠ .endOfInput)
      let result := recover source limit tokens
      Forest.leaves result.1.children = before ∧
      result.2.consumed = before.length ∧
      result.2.depth = 0 ∧
      (∀ leaf ∈ Forest.leaves result.1.children, leaf.kind ≠ .endOfInput) ∧
      result.1.length =
        match tokens.find? (·.kind = .endOfInput) with
        | some finish => finish.stop
        | none =>
          match before.getLast? with
          | some last => last.stop
          | none => 0) ∧
    ∀ (source : Text) (limit : Nat),
      Forest.text (parse source limit).children source = source ∧
      (Tree.file (parse source limit)).start = 0 ∧
      (Tree.file (parse source limit)).stop = source.length := by
  refine ⟨fun source limit tokens => ?_, fun source limit => ?_⟩
  · dsimp only
    obtain ⟨moves, -⟩ := recover_moves source limit tokens
    have leaves := recover_leaves source limit tokens
    refine ⟨leaves, ?_, moves.depth, ?_, ?_⟩
    · have consumed := moves.consumed
      rw [leaves] at consumed
      exact consumed.trans (Nat.zero_add _)
    · intro leaf member
      rw [leaves] at member
      simpa using List.mem_takeWhile_imp member
    · rw [recover_length, finishOf]
      cases found : tokens.find? (·.kind = .endOfInput) with
      | some finish => rfl
      | none =>
        have all_before : tokens.takeWhile (·.kind ≠ .endOfInput) = tokens := by
          rw [List.takeWhile_eq_self_iff]
          simpa using found
        rw [all_before]
        cases tokens.getLast? <;> rfl
  · refine ⟨?_, rfl, ?_⟩
    · rw [Forest.text, parse, recover_leaves, significantTokens_tokenize]
      exact Token.tokensFrom_zero_text source
    · show (recover source limit (Token.tokenize source)).1.length = source.length
      rw [recover_length, finishOf_tokenize]
      rfl

end BrightBlocks.Block
