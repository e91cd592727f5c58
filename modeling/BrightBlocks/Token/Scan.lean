import BrightBlocks.Text.Blank
import BrightBlocks.Text.Decimal
import BrightBlocks.Text.Letter
import BrightBlocks.Token.Basic
import BrightBlocks.Token.Vocabulary

/-!
# Scanning

Scanning cuts a text into tokens that touch each other and leave nothing out.
Every character starts a token of some kind, so scanning never fails; what fits
no rule becomes a token of its own.

`lexeme` decides a token from its first character and what follows it. The rules
are tried in a fixed order. Its answer counts the characters after the first,
so every token makes progress, and `lexeme_tail_le` says that no token reaches
beyond the text. `tokensFrom` repeats it until the text ends.
-/

namespace BrightBlocks.Token

/-- A letter or a decimal digit. -/
def isWordChar (char : Char) : Bool :=
  Text.isLetter char || Text.isDecimal char

/-- A character that continues a name. -/
def continuesName (char : Char) : Bool :=
  isWordChar char || char = '_'

/-- A character that starts a name or a directive. -/
def startsName (char : Char) : Bool :=
  Text.isLetter char || char = '_' || char = '#'

/-- A character that continues a decimal number. Dots are not counted. -/
def continuesNumber (char : Char) : Bool :=
  Text.isDecimal char || char = '.'

/-- The characters up to the next line break, which is not among them. -/
def restOfLine (text : Text) : Text :=
  text.before '\n'

/-- Whether a text starts with the word `rem` in any case, with no letter or digit after it. -/
def startsRemark : Text → Bool
  | first :: second :: third :: rest =>
    Text.lowercaseChar first = ['r'] && Text.lowercaseChar second = ['e'] &&
      Text.lowercaseChar third = ['m'] && !(rest.head?.any isWordChar)
  | _ => false

/-- How many characters an operator takes after its first one. -/
def operatorTail (first : Char) : Text → Nat
  | [] => 0
  | second :: rest =>
    if second = '=' ∧ first ∈ ['+', '-', '*', '/', '\\', '<', '>'] then 1
    else if second = first ∧ first ∈ ['+', '-'] then 1
    else if second = first ∧ first ∈ ['<', '>'] then if rest.head? = some '=' then 2 else 1
    else if first = '<' ∧ second = '>' then 1
    else 0

/-- How many characters a string takes after its opening quote: all if no quote closes it. -/
def stringTail (rest : Text) : Nat :=
  let content := rest.before '"'
  if content.length < rest.length then content.length + 1 else content.length

/-- How many characters a name takes after its first one, a type designator included. -/
def nameTail (rest : Text) : Nat :=
  let letters := rest.takeWhile continuesName
  if (rest.drop letters.length).head?.any (· ∈ typeDesignators) then letters.length + 1
  else letters.length

/-- The kind of a token and the number of its characters after the first. -/
structure Lexeme where
  kind : Kind
  tail : Nat
  deriving DecidableEq, Repr

/-- The token that starts with the character `first` when `rest` follows it. -/
def lexeme (first : Char) (rest : Text) : Lexeme :=
  if first = '\'' then
    ⟨if rest.head? = some '\'' then .remComment else .lineComment, (restOfLine rest).length⟩
  else if startsRemark (first :: rest) then ⟨.remComment, (restOfLine rest).length⟩
  else if first = '"' then ⟨.stringLiteral, stringTail rest⟩
  else if Text.isDecimal first then ⟨.numberLiteral, (rest.takeWhile continuesNumber).length⟩
  else if first = '&' ∧ (rest.head? = some 'h' ∨ rest.head? = some 'H') then
    ⟨.numberLiteral, 1 + ((rest.drop 1).takeWhile Text.isHexDigit).length⟩
  else if startsName first then
    ⟨kindOfWord (first :: rest.take (nameTail rest)), nameTail rest⟩
  else if Text.isBlank first then ⟨.whitespace, (rest.takeWhile Text.isBlank).length⟩
  else
    match punctuation.lookup first with
    | some kind => ⟨kind, 0⟩
    | none =>
      if first ∈ operatorChars then ⟨.operator, operatorTail first rest⟩
      else ⟨.badCharacter, 0⟩

/-! ## No token reaches beyond the text -/

/-- The run of accepted characters in front of a text is no longer than the text. -/
theorem length_takeWhile_le (accepts : Char → Bool) (text : Text) :
    (text.takeWhile accepts).length ≤ text.length :=
  (List.takeWhile_prefix accepts).length_le

/-- An operator takes no more than what follows its first character. -/
theorem operatorTail_le (first : Char) (rest : Text) : operatorTail first rest ≤ rest.length := by
  unfold operatorTail
  split
  · exact Nat.le_refl 0
  · rename_i second more
    have one : 1 ≤ (second :: more).length := Nat.succ_le_succ (Nat.zero_le _)
    split
    · exact one
    split
    · exact one
    split
    · split
      · rename_i compound
        cases more with
        | nil => contradiction
        | cons third others => exact Nat.succ_le_succ (Nat.succ_le_succ (Nat.zero_le _))
      · exact one
    split
    · exact one
    · exact Nat.zero_le _

/-- A string takes no more than what follows its opening quote. -/
theorem stringTail_le (rest : Text) : stringTail rest ≤ rest.length := by
  have content := length_takeWhile_le (· ≠ '"') rest
  unfold stringTail Text.before
  dsimp only
  split <;> omega

/-- A name takes no more than what follows its first character. -/
theorem nameTail_le (rest : Text) : nameTail rest ≤ rest.length := by
  have run := length_takeWhile_le continuesName rest
  unfold nameTail
  dsimp only
  split
  · rename_i designated
    have more : rest.drop (rest.takeWhile continuesName).length ≠ [] := by
      intro none_left
      simp [none_left] at designated
    have left := List.length_pos_iff.mpr more
    rw [List.length_drop] at left
    omega
  · exact run

/-- A hexadecimal number takes no more than what follows its first character. -/
theorem hexTail_le {rest : Text} (nonempty : rest ≠ []) :
    1 + ((rest.drop 1).takeWhile Text.isHexDigit).length ≤ rest.length := by
  have run := length_takeWhile_le Text.isHexDigit (rest.drop 1)
  have some_left := List.length_pos_iff.mpr nonempty
  rw [List.length_drop] at run
  omega

/-- A token does not reach beyond what follows its first character. -/
theorem lexeme_tail_le (first : Char) (rest : Text) : (lexeme first rest).tail ≤ rest.length := by
  unfold lexeme
  split
  · exact length_takeWhile_le _ rest
  split
  · exact length_takeWhile_le _ rest
  split
  · exact stringTail_le rest
  split
  · exact length_takeWhile_le _ rest
  split
  · rename_i hex
    refine hexTail_le ?_
    rintro rfl
    simp at hex
  split
  · exact nameTail_le rest
  split
  · exact length_takeWhile_le _ rest
  split
  · exact Nat.zero_le _
  split
  · exact operatorTail_le first rest
  · exact Nat.zero_le _

/-! ## Scanning to the end -/

/-- The tokens of a text that stands at offset `position` of the source. -/
def tokensFrom (position : Nat) : Text → List Token
  | [] => []
  | first :: rest =>
    let found := lexeme first rest
    let next := position + 1 + found.tail
    ⟨found.kind, position, next⟩ :: tokensFrom next (rest.drop found.tail)
  termination_by text => text.length
  decreasing_by simp only [List.length_cons, List.length_drop]; omega

end BrightBlocks.Token
