import BrightBlocks.Proofs.Token.Reach

/-!
# Which rule cuts a token

The rules of the scanner are tried in an order. For each of them, a token that starts with a
character of its class is cut by this rule, whatever follows: no earlier rule applies.
-/

namespace BrightBlocks.Token

section

variable {first : Char} (rest : Text)

theorem lexeme_quote :
    lexeme '\'' rest =
      ⟨if rest.head? = some '\'' then .remComment else .lineComment, (restOfLine rest).length⟩ :=
  if_pos rfl

variable {rest} in
theorem lexeme_remark (spelled : startsRemark (first :: rest) = true) :
    lexeme first rest = ⟨.remComment, (restOfLine rest).length⟩ := by
  have no_quote : first ≠ '\'' := by
    rcases first_of_startsRemark spelled with rfl | rfl <;> decide
  simp only [lexeme, if_neg no_quote, if_pos spelled]

/-- A character that is no `r` starts no remark. -/
theorem no_remark_of_first (other : first ≠ 'r' ∧ first ≠ 'R') :
    startsRemark (first :: rest) ≠ true := by
  intro spelled
  rcases first_of_startsRemark spelled with rfl | rfl <;> simp at other

theorem lexeme_string : lexeme '"' rest = ⟨.stringLiteral, stringTail rest⟩ := by
  have no_remark := no_remark_of_first rest (by decide : '"' ≠ 'r' ∧ '"' ≠ 'R')
  simp only [lexeme, if_neg no_remark]
  rfl

theorem lexeme_decimal (digit : Text.isDecimal first = true) :
    lexeme first rest = ⟨.numberLiteral, (rest.takeWhile continuesNumber).length⟩ := by
  have other : ∀ char, Text.isDecimal char = false → first ≠ char := by
    rintro char no_digit rfl
    simp [digit] at no_digit
  have no_remark := no_remark_of_first rest ⟨other 'r' (by decide), other 'R' (by decide)⟩
  simp only [lexeme, if_neg (other '\'' (by decide)), if_neg no_remark,
    if_neg (other '"' (by decide)), if_pos digit]

theorem lexeme_hexadecimal (letter : rest.head? = some 'h' ∨ rest.head? = some 'H') :
    lexeme '&' rest =
      ⟨.numberLiteral, 1 + ((rest.drop 1).takeWhile Text.isHexDigit).length⟩ := by
  have no_remark := no_remark_of_first rest (by decide : '&' ≠ 'r' ∧ '&' ≠ 'R')
  have no_digit : Text.isDecimal '&' ≠ true := by decide
  have no_quote : '&' ≠ '\'' := by decide
  have no_string : '&' ≠ '"' := by decide
  simp only [lexeme, if_neg no_quote, if_neg no_remark, if_neg no_string, if_neg no_digit]
  exact if_pos ⟨trivial, letter⟩

variable {rest} in
theorem lexeme_name (starts : startsName first = true) (no_digit : Text.isDecimal first = false)
    (no_remark : startsRemark (first :: rest) = false) :
    lexeme first rest =
      ⟨kindOfWord (first :: rest.take (nameTail rest)), nameTail rest⟩ := by
  have other : ∀ char, startsName char = false → first ≠ char := by
    rintro char no_name rfl
    simp [starts] at no_name
  have no_hex : ¬ (first = '&' ∧ (rest.head? = some 'h' ∨ rest.head? = some 'H')) :=
    fun both => other '&' (by decide) both.1
  simp only [lexeme, if_neg (other '\'' (by decide)), no_remark, if_neg (other '"' (by decide)),
    no_digit, if_neg no_hex, if_pos starts, Bool.false_eq_true, if_false]

theorem lexeme_blank (starts : Text.isBlank first = true) (no_digit : Text.isDecimal first = false)
    (no_name : startsName first = false) :
    lexeme first rest = ⟨.whitespace, (rest.takeWhile Text.isBlank).length⟩ := by
  have other : ∀ char, Text.isBlank char = false → first ≠ char := by
    rintro char no_blank rfl
    simp [starts] at no_blank
  have no_remark := no_remark_of_first rest ⟨other 'r' (by decide), other 'R' (by decide)⟩
  have no_hex : ¬ (first = '&' ∧ (rest.head? = some 'h' ∨ rest.head? = some 'H')) :=
    fun both => other '&' (by decide) both.1
  simp only [lexeme, if_neg (other '\'' (by decide)), if_neg no_remark,
    if_neg (other '"' (by decide)), no_digit, if_neg no_hex, no_name, if_pos starts,
    Bool.false_eq_true, if_false]

/-- Signs are no letters, digits, quotes or blanks. -/
theorem sign_apart : ∀ sign ∈ Token.punctuation.map Prod.fst ++ operatorChars,
    (sign ≠ '\'' ∧ sign ≠ '"') ∧ (sign ≠ 'r' ∧ sign ≠ 'R') ∧ Text.isDecimal sign = false ∧
      startsName sign = false ∧ Text.isBlank sign = false :=
  List.all_iff_forall_prop.mp (by decide)

/-- What is neither a quote, a letter, a digit nor a blank is a sign, or fits no rule. -/
theorem lexeme_sign (no_quote : first ≠ '\'' ∧ first ≠ '"') (no_letter : first ≠ 'r' ∧ first ≠ 'R')
    (no_digit : Text.isDecimal first = false) (no_name : startsName first = false)
    (no_blank : Text.isBlank first = false)
    (no_hex : ¬ (first = '&' ∧ (rest.head? = some 'h' ∨ rest.head? = some 'H'))) :
    lexeme first rest =
      match Token.punctuation.lookup first with
      | some kind => ⟨kind, 0⟩
      | none =>
        if first ∈ operatorChars then ⟨.operator, operatorTail first rest⟩
        else ⟨.badCharacter, 0⟩ := by
  have no_number : ¬ Text.isDecimal first = true := by simp [no_digit]
  have no_word : ¬ startsName first = true := by simp [no_name]
  have solid : ¬ Text.isBlank first = true := by simp [no_blank]
  exact (if_neg no_quote.1).trans <| (if_neg (no_remark_of_first rest no_letter)).trans <|
    (if_neg no_quote.2).trans <| (if_neg no_number).trans <| (if_neg no_hex).trans <|
    (if_neg no_word).trans (if_neg solid)

theorem lexeme_punctuation {kind : Kind} (listed : Token.punctuation.lookup first = some kind) :
    lexeme first rest = ⟨kind, 0⟩ := by
  obtain ⟨front, back, split, -⟩ := List.lookup_eq_some_iff.mp listed
  have member : first ∈ Token.punctuation.map Prod.fst :=
    List.mem_map.mpr ⟨(first, kind), split ▸ by simp, rfl⟩
  obtain ⟨no_quote, no_letter, no_digit, no_name, no_blank⟩ :=
    sign_apart first (List.mem_append_left _ member)
  have no_hex : ¬ (first = '&' ∧ (rest.head? = some 'h' ∨ rest.head? = some 'H')) := by
    rintro ⟨rfl, -⟩
    exact absurd member (by decide)
  rw [lexeme_sign rest no_quote no_letter no_digit no_name no_blank no_hex, listed]

theorem operator_not_punctuation :
    ∀ sign ∈ operatorChars, Token.punctuation.lookup sign = none :=
  List.all_iff_forall_prop.mp (by decide)

theorem lexeme_operator (listed : first ∈ operatorChars)
    (no_hex : ¬ (first = '&' ∧ (rest.head? = some 'h' ∨ rest.head? = some 'H'))) :
    lexeme first rest = ⟨.operator, operatorTail first rest⟩ := by
  obtain ⟨no_quote, no_letter, no_digit, no_name, no_blank⟩ :=
    sign_apart first (List.mem_append_right _ listed)
  rw [lexeme_sign rest no_quote no_letter no_digit no_name no_blank no_hex,
    operator_not_punctuation first listed]
  exact if_pos listed

end

end BrightBlocks.Token
