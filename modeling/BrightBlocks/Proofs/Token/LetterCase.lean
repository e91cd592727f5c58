import BrightBlocks.Proofs.Text.LetterCase
import BrightBlocks.Token.Reader

/-!
# Scanning does not depend on case

Two sources that differ in the case of letters from A to Z alone have the same tokens, with
the same kinds and offsets (`tokenize_foldCase`). Whatever `lexeme` asks of a text comes out
the same: a letter is one in either case and no sign is a letter, so that a token reaches as
far, and a word is looked up in its small form (`lexeme_foldCase`).
-/

namespace BrightBlocks.Token

open Text (CaseBlind foldCase toLower_eq_iff toLower_mem_iff)

theorem caseBlind_isWordChar : CaseBlind isWordChar := .of_capitals (by decide +kernel)

theorem caseBlind_continuesName : CaseBlind continuesName := .of_capitals (by decide +kernel)

theorem caseBlind_startsName : CaseBlind startsName := .of_capitals (by decide +kernel)

theorem caseBlind_continuesNumber : CaseBlind continuesNumber := .of_capitals (by decide +kernel)

theorem caseBlind_punctuation : CaseBlind fun char => punctuation.lookup char :=
  .of_capitals (by decide +kernel)

/-! ## How far a token reaches -/

theorem length_takeWhile_foldCase {accepts : Char → Bool} (blind : CaseBlind accepts)
    (text : Text) : (text.foldCase.takeWhile accepts).length = (text.takeWhile accepts).length := by
  rw [Text.foldCase_takeWhile blind, Text.length_foldCase]

theorem length_restOfLine_foldCase (text : Text) :
    (restOfLine text.foldCase).length = (restOfLine text).length := by
  rw [restOfLine, Text.before_foldCase (by decide), Text.length_foldCase, restOfLine]

theorem startsRemark_foldCase (text : Text) : startsRemark text.foldCase = startsRemark text := by
  match text with
  | [] | [_] | [_, _] => rfl
  | first :: second :: third :: rest =>
    simp only [Text.foldCase_cons, startsRemark, Text.caseBlind_lowercaseChar _,
      Text.any_head?_foldCase caseBlind_isWordChar]

theorem operatorTail_foldCase (first : Char) (rest : Text) :
    operatorTail first.toLower rest.foldCase = operatorTail first rest := by
  cases rest with
  | nil => rfl
  | cons second rest =>
    rw [Text.foldCase_cons, operatorTail, operatorTail]
    simp (disch := decide) only [toLower_eq_iff, toLower_mem_iff,
      Text.toLower_eq_toLower_and_mem_iff, Text.head?_foldCase_eq_iff]

theorem stringTail_foldCase (rest : Text) : stringTail rest.foldCase = stringTail rest := by
  simp (disch := decide) only [stringTail, Text.before_foldCase, Text.length_foldCase]

theorem nameTail_foldCase (rest : Text) : nameTail rest.foldCase = nameTail rest := by
  have designator : CaseBlind fun char => decide (char ∈ typeDesignators) :=
    .of_capitals (by decide +kernel)
  simp only [nameTail, length_takeWhile_foldCase caseBlind_continuesName, Text.foldCase_drop,
    Text.any_head?_foldCase designator]

/-! ## What kind a token is of -/

theorem smallWord_foldCase (word : Text) : smallWord word.foldCase = smallWord word := by
  rw [smallWord, Text.lowercase_foldCase, smallWord]

/-- The mark of a hexadecimal number may be a capital. -/
theorem startsHexadecimal_foldCase (text : Text) :
    (text.foldCase.head? = some 'h' ∨ text.foldCase.head? = some 'H') ↔
      (text.head? = some 'h' ∨ text.head? = some 'H') := by
  have mark : CaseBlind fun char => decide (char = 'h' ∨ char = 'H') :=
    .of_capitals (by decide +kernel)
  cases text with
  | nil => rfl
  | cons first rest => simpa using decide_eq_decide.mp (mark first)

/-- The token that a text starts with does not depend on the case of letters from A to Z. -/
theorem lexeme_foldCase (first : Char) (rest : Text) :
    lexeme first.toLower rest.foldCase = lexeme first rest := by
  have remark := startsRemark_foldCase (first :: rest)
  have word := smallWord_foldCase (first :: rest.take (nameTail rest))
  have sign : punctuation.lookup first.toLower = punctuation.lookup first :=
    caseBlind_punctuation first
  rw [Text.foldCase_cons] at remark word
  unfold lexeme kindOfWord
  -- the conditions in the order of the rules, then how far each of them reaches
  simp (disch := decide) only [toLower_eq_iff, Text.head?_foldCase_eq_iff, remark,
    Text.caseBlind_isDecimal first, startsHexadecimal_foldCase, caseBlind_startsName first,
    Text.caseBlind_isBlank first, sign, toLower_mem_iff,
    length_restOfLine_foldCase, stringTail_foldCase,
    length_takeWhile_foldCase caseBlind_continuesNumber,
    Text.foldCase_drop, length_takeWhile_foldCase Text.caseBlind_isHexDigit,
    Text.foldCase_take, nameTail_foldCase, word,
    length_takeWhile_foldCase Text.caseBlind_isBlank, operatorTail_foldCase]

/-! ## Tokens -/

theorem tokensFrom_foldCase (position : Nat) (text : Text) :
    tokensFrom position text.foldCase = tokensFrom position text := by
  fun_induction tokensFrom position text with
  | case1 position => rw [Text.foldCase_nil, tokensFrom]
  | case2 position first rest found next inductionHypothesis =>
    rw [Text.foldCase_cons, tokensFrom, lexeme_foldCase, Text.foldCase_drop, inductionHypothesis]

/-- Sources that differ in the case of letters from A to Z have the same tokens. -/
theorem tokenize_foldCase (source : Text) : tokenize source.foldCase = tokenize source := by
  rw [tokenize, tokensFrom_foldCase, Text.length_foldCase, tokenize]

theorem text_foldCase (token : Token) (source : Text) :
    token.text source.foldCase = foldCase (token.text source) :=
  Text.foldCase_slice token.start token.stop source

theorem breaksLine_foldCase (token : Token) (source : Text) :
    token.breaksLine source.foldCase = token.breaksLine source := by
  rw [breaksLine, text_foldCase, Text.contains_foldCase (by decide), breaksLine]

end BrightBlocks.Token
