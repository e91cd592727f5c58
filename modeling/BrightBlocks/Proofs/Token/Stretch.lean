import BrightBlocks.Proofs.Token.Piece

/-!
# Stretches of tokens

Consecutive tokens of a text are the tokens of the part of the text that they cover
(`tokensFrom_split`). In front of them the text can be cut off since a token starts afresh;
behind them it can because a token stays what it is when the text ends there
(`Cut.ends`).

A text that starts or ends inside a token has other tokens.
-/

namespace BrightBlocks.Token

/-- Where the tokens of a text are parted, the text is parted into theirs. -/
theorem tokensFrom_split {position : Nat} {text : Text} {front back : List Token}
    (split : tokensFrom position text = front ++ back) :
    ∃ first second, text = first ++ second ∧ tokensFrom position first = front ∧
      tokensFrom (position + first.length) second = back := by
  induction text using cut_induction generalizing position front with
  | nil =>
    rw [tokensFrom_nil, List.nil_eq, List.append_eq_nil_iff] at split
    obtain ⟨rfl, rfl⟩ := split
    exact ⟨[], [], rfl, tokensFrom_nil _, tokensFrom_nil _⟩
  | cut char body rest kind cut inductionHypothesis =>
    cases front with
    | nil => exact ⟨[], char :: (body ++ rest), rfl, tokensFrom_nil _, split⟩
    | cons token front =>
      rw [tokensFrom_of_cut cut, List.cons_append, List.cons.injEq] at split
      obtain ⟨rfl, split⟩ := split
      obtain ⟨first, second, rfl, front_eq, back_eq⟩ := inductionHypothesis split
      have ends : Cut char body first.head? kind := by
        cases first with
        | nil => exact cut.ends
        | cons next more => exact cut
      have reach : position + (char :: (body ++ first)).length =
          position + 1 + body.length + first.length := by
        simp only [List.length_cons, List.length_append]
        omega
      refine ⟨char :: (body ++ first), second, by simp, ?_, ?_⟩
      · rw [tokensFrom_of_cut ends, front_eq]
      · rw [reach, back_eq]

/-- Consecutive tokens of a source are those of the part that they cover, at their offset. -/
theorem exists_stretch {source : Text} {before own behind : List Token}
    (split : tokensFrom 0 source = before ++ (own ++ behind)) :
    ∃ front text back, source = front ++ (text ++ back) ∧
      own = (tokensFrom 0 text).map (shift front.length) := by
  obtain ⟨front, others, rfl, -, further⟩ := tokensFrom_split split
  obtain ⟨text, back, rfl, covered, -⟩ := tokensFrom_split further
  refine ⟨front, text, back, rfl, ?_⟩
  rw [← covered, ← tokensFrom_shift]

end BrightBlocks.Token
