import BrightBlocks.Proofs.Token.Rule
import BrightBlocks.Proofs.Token.Tiling

/-!
# Where tokens are cut

`Cut first body next kind` says that the character `first` and the text `body`
are one token of the given kind when `next` is the character behind them, or when
nothing is behind them. It holds of a text exactly where `lexeme` cuts
(`cut_lexeme`, `lexeme_of_cut`). A token is thus decided by its own characters and
by at most one behind them.
-/

namespace BrightBlocks.Token

/-- The characters of one token: its first one, those after it, and the one behind the token. -/
inductive Cut (first : Char) : Text → Option Char → Kind → Prop where
  | lineComment {body : Text} {next : Option Char} (mark : first = '\'')
      (single : body.head? ≠ some '\'') (line : Run (· ≠ '\n') body next) :
      Cut first body next .lineComment
  | quotedRemark {body : Text} {next : Option Char} (mark : first = '\'')
      (double : body.head? = some '\'') (line : Run (· ≠ '\n') body next) :
      Cut first body next .remComment
  | remark {body : Text} {next : Option Char} (spelled : startsRemark (first :: body) = true)
      (line : Run (· ≠ '\n') body next) :
      Cut first body next .remComment
  | closedString {content : Text} {next : Option Char} (mark : first = '"')
      (content_plain : ∀ char ∈ content, char ≠ '"') :
      Cut first (content ++ ['"']) next .stringLiteral
  | openString {content : Text} (mark : first = '"')
      (content_plain : ∀ char ∈ content, char ≠ '"') :
      Cut first content none .stringLiteral
  | decimal {body : Text} {next : Option Char} (digit : Text.isDecimal first = true)
      (number : Run continuesNumber body next) :
      Cut first body next .numberLiteral
  | hexadecimal {second : Char} {digits : Text} {next : Option Char} (mark : first = '&')
      (letter : second = 'h' ∨ second = 'H') (number : Run Text.isHexDigit digits next) :
      Cut first (second :: digits) next .numberLiteral
  | name {letters : Text} {next : Option Char} (starts : startsName first = true)
      (no_digit : Text.isDecimal first = false) (letters_run : Run continuesName letters next)
      (undesignated : ∀ char ∈ next, char ∉ typeDesignators)
      (no_remark : startsRemark (first :: letters) = false) :
      Cut first letters next (kindOfWord (first :: letters))
  | designatedName {letters : Text} {designator : Char} {next : Option Char}
      (starts : startsName first = true) (no_digit : Text.isDecimal first = false)
      (letters_inside : ∀ char ∈ letters, continuesName char = true)
      (designated : designator ∈ typeDesignators)
      (no_remark : startsRemark (first :: letters) = false) :
      Cut first (letters ++ [designator]) next (kindOfWord (first :: (letters ++ [designator])))
  | blank {body : Text} {next : Option Char} (starts : Text.isBlank first = true)
      (no_digit : Text.isDecimal first = false) (no_name : startsName first = false)
      (blanks : Run Text.isBlank body next) :
      Cut first body next .whitespace
  | punctuation {kind : Kind} {next : Option Char}
      (listed : Token.punctuation.lookup first = some kind) :
      Cut first [] next kind
  | operator {body : Text} {next : Option Char} (listed : first ∈ operatorChars)
      (no_number : first = '&' → ∀ char ∈ next, char ≠ 'h' ∧ char ≠ 'H')
      (extends_to : operatorTail first (body ++ next.toList) = body.length) :
      Cut first body next .operator
  | bad {next : Option Char} (no_quote : first ≠ '\'' ∧ first ≠ '"')
      (no_digit : Text.isDecimal first = false) (no_name : startsName first = false)
      (no_blank : Text.isBlank first = false)
      (no_sign : Token.punctuation.lookup first = none ∧ first ∉ operatorChars) :
      Cut first [] next .badCharacter

/-! ## Tokens are where they are cut -/

/-- Where the characters of a token stand, they are cut off as this token. -/
theorem lexeme_of_cut {first : Char} {body rest : Text} {kind : Kind}
    (cut : Cut first body rest.head? kind) :
    lexeme first (body ++ rest) = ⟨kind, body.length⟩ := by
  generalize behind : rest.head? = next at cut
  cases cut with
  | lineComment mark single line =>
    subst behind mark
    have no_double : (body ++ rest).head? ≠ some '\'' := by
      cases body with
      | nil =>
        intro double
        exact absurd (line.stops '\'' double) (by decide)
      | cons second more => simpa using single
    rw [lexeme_quote, if_neg no_double, restOfLine, Text.before, line.takeWhile_eq]
  | quotedRemark mark double line =>
    subst behind mark
    have doubled : (body ++ rest).head? = some '\'' := by simp [List.head?_append, double]
    rw [lexeme_quote, if_pos doubled, restOfLine, Text.before, line.takeWhile_eq]
  | remark spelled line =>
    subst behind
    rw [lexeme_remark ((startsRemark_line first line).trans spelled), restOfLine, Text.before,
      line.takeWhile_eq]
  | @closedString content _ mark plain =>
    subst mark
    rw [List.append_assoc, List.singleton_append, lexeme_string, stringTail_of_closed plain]
    simp
  | openString mark plain =>
    subst mark
    obtain rfl := List.head?_eq_none_iff.mp behind
    rw [List.append_nil, lexeme_string, stringTail_of_open plain]
  | decimal digit number =>
    subst behind
    rw [lexeme_decimal _ digit, number.takeWhile_eq]
  | hexadecimal mark letter number =>
    subst behind mark
    rw [lexeme_hexadecimal _ (by simpa using letter), List.cons_append, List.drop_one,
      List.tail_cons, number.takeWhile_eq, List.length_cons, Nat.add_comm]
  | name starts no_digit letters_run undesignated no_remark =>
    subst behind
    rw [← startsRemark_append first body letters_run.stops] at no_remark
    rw [lexeme_name starts no_digit no_remark,
      nameTail_of_undesignated letters_run undesignated, List.take_left]
  | @designatedName letters designator _ starts no_digit letters_inside designated no_remark =>
    have stops : ∀ char ∈ (designator :: rest).head?, continuesName char = false := by
      simpa using continuesName_designator designator designated
    have far := (startsRemark_append first letters stops).trans no_remark
    have reaches : (letters ++ designator :: rest).take (letters.length + 1) =
        letters ++ [designator] := by
      simp [List.take_append, List.take_of_length_le]
    rw [List.append_assoc, List.singleton_append, lexeme_name starts no_digit far,
      nameTail_of_designated letters_inside designated, reaches]
    simp
  | blank starts no_digit no_name blanks =>
    subst behind
    rw [lexeme_blank _ starts no_digit no_name, blanks.takeWhile_eq]
  | punctuation listed => exact lexeme_punctuation _ listed
  | operator listed no_number extends_to =>
    subst behind
    have reaches := (operatorTail_append first body rest).mpr extends_to
    have no_hex : ¬ (first = '&' ∧
        ((body ++ rest).head? = some 'h' ∨ (body ++ rest).head? = some 'H')) := by
      rintro ⟨rfl, letter⟩
      cases body with
      | nil => rcases letter with found | found <;> simpa using no_number rfl _ found
      | cons second more =>
        -- no operator goes on behind an ampersand
        have short : operatorTail '&' (second :: more ++ rest) = 0 := by simp [operatorTail]
        rw [short] at reaches
        contradiction
    rw [lexeme_operator _ listed no_hex, reaches]
  | bad no_quote no_digit no_name no_blank no_sign =>
    have no_letter : first ≠ 'r' ∧ first ≠ 'R' := by
      constructor <;> rintro rfl <;> exact absurd no_name (by decide)
    have no_hex : ¬ (first = '&' ∧
        (([] ++ rest).head? = some 'h' ∨ ([] ++ rest).head? = some 'H')) := by
      rintro ⟨rfl, -⟩
      exact absurd (by decide) no_sign.2
    rw [lexeme_sign _ no_quote no_letter no_digit no_name no_blank no_hex, no_sign.1]
    exact if_neg no_sign.2

/-- A name is cut behind its letters, or behind the type designator that follows them. -/
theorem cut_name {first : Char} {rest : Text} (starts : startsName first = true)
    (no_digit : Text.isDecimal first = false) (no_remark : startsRemark (first :: rest) = false) :
    Cut first (rest.take (nameTail rest)) (rest.drop (nameTail rest)).head?
      (kindOfWord (first :: rest.take (nameTail rest))) := by
  have run := run_take continuesName rest
  have whole := List.take_append_drop (rest.takeWhile continuesName).length rest
  generalize rest.take (rest.takeWhile continuesName).length = letters at run whole
  generalize rest.drop (rest.takeWhile continuesName).length = behind at run whole
  subst whole
  have near := startsRemark_append first letters run.stops
  rw [no_remark] at near
  by_cases designated : ∃ designator ∈ behind.head?, designator ∈ typeDesignators
  · obtain ⟨designator, found, listed⟩ := designated
    obtain ⟨more, rfl⟩ : ∃ more, behind = designator :: more :=
      List.head?_eq_some_iff.mp found
    have tail : nameTail (letters ++ designator :: more) = letters.length + 1 :=
      nameTail_of_designated run.inside listed
    have reaches : (letters ++ designator :: more).take (letters.length + 1) =
        letters ++ [designator] := by
      simp [List.take_append, List.take_of_length_le]
    rw [tail, reaches]
    exact .designatedName starts no_digit run.inside listed near.symm
  · have undesignated : ∀ char ∈ behind.head?, char ∉ typeDesignators :=
      fun char found listed => designated ⟨char, found, listed⟩
    rw [nameTail_of_undesignated run undesignated, List.take_left, List.drop_left]
    exact .name starts no_digit run undesignated near.symm

/-- A string is cut behind its closing quote, or where the text ends. -/
theorem cut_string (rest : Text) :
    Cut '"' (rest.take (stringTail rest)) (rest.drop (stringTail rest)).head? .stringLiteral := by
  have run := run_take (· ≠ '"') rest
  have whole := List.take_append_drop (rest.takeWhile (· ≠ '"')).length rest
  generalize rest.take (rest.takeWhile (· ≠ '"')).length = content at run whole
  generalize rest.drop (rest.takeWhile (· ≠ '"')).length = behind at run whole
  subst whole
  have plain : ∀ char ∈ content, char ≠ '"' := by simpa using run.inside
  cases behind with
  | nil =>
    rw [List.append_nil, stringTail_of_open plain, List.take_length, List.drop_length]
    exact .openString rfl plain
  | cons quote more =>
    obtain rfl : quote = '"' := by simpa using run.stops quote rfl
    have reaches : (content ++ '"' :: more).take (content.length + 1) = content ++ ['"'] := by
      simp [List.take_append, List.take_of_length_le]
    rw [stringTail_of_closed plain, reaches]
    exact .closedString rfl plain

/-- Whatever is cut off as a token has the characters of one. -/
theorem cut_lexeme (first : Char) (rest : Text) :
    Cut first (rest.take (lexeme first rest).tail) (rest.drop (lexeme first rest).tail).head?
      (lexeme first rest).kind := by
  have whole (count : Nat) : rest.take count ++ rest.drop count = rest :=
    List.take_append_drop count rest
  by_cases quote : first = '\''
  · subst quote
    have line := run_take (· ≠ '\n') rest
    rw [lexeme_quote]
    by_cases double : rest.head? = some '\''
    · have doubled : (rest.take (restOfLine rest).length).head? = some '\'' := by
        obtain ⟨more, rfl⟩ := List.head?_eq_some_iff.mp double
        simp [restOfLine, Text.before]
      rw [if_pos double]
      exact .quotedRemark rfl doubled line
    · have single : (rest.take (restOfLine rest).length).head? ≠ some '\'' := by
        intro doubled
        apply double
        obtain ⟨more, split⟩ := List.head?_eq_some_iff.mp doubled
        rw [← whole (restOfLine rest).length, split]
        rfl
      rw [if_neg double]
      exact .lineComment rfl single line
  by_cases spelled : startsRemark (first :: rest) = true
  · rw [lexeme_remark spelled]
    have line : Run (· ≠ '\n') (rest.take (restOfLine rest).length)
        (rest.drop (restOfLine rest).length).head? :=
      run_take (· ≠ '\n') rest
    rw [← whole (restOfLine rest).length, startsRemark_line first line] at spelled
    exact .remark spelled line
  by_cases string : first = '"'
  · subst string
    rw [lexeme_string]
    exact cut_string rest
  by_cases digit : Text.isDecimal first = true
  · rw [lexeme_decimal rest digit]
    exact .decimal digit (run_take continuesNumber rest)
  by_cases hex : first = '&' ∧ (rest.head? = some 'h' ∨ rest.head? = some 'H')
  · obtain ⟨rfl, letter⟩ := hex
    rw [lexeme_hexadecimal rest letter]
    obtain ⟨second, more, rfl⟩ : ∃ second more, rest = second :: more :=
      List.exists_cons_of_ne_nil (by rintro rfl; simp at letter)
    rw [List.drop_one, List.tail_cons, Nat.add_comm]
    dsimp only
    rw [List.take_succ_cons, List.drop_succ_cons]
    exact .hexadecimal rfl (by simpa using letter) (run_take Text.isHexDigit more)
  have no_digit := Bool.eq_false_iff.mpr digit
  by_cases name : startsName first = true
  · have no_remark := Bool.eq_false_iff.mpr spelled
    rw [lexeme_name name no_digit no_remark]
    exact cut_name name no_digit no_remark
  have no_name := Bool.eq_false_iff.mpr name
  by_cases blank : Text.isBlank first = true
  · rw [lexeme_blank rest blank no_digit no_name]
    exact .blank blank no_digit no_name (run_take Text.isBlank rest)
  cases listed : Token.punctuation.lookup first with
  | some kind =>
    rw [lexeme_punctuation rest listed]
    exact .punctuation listed
  | none =>
    by_cases operator : first ∈ operatorChars
    · rw [lexeme_operator rest operator hex]
      dsimp only
      have reach := operatorTail_le first rest
      have tail : (rest.take (operatorTail first rest)).length = operatorTail first rest := by
        rw [List.length_take, Nat.min_eq_left reach]
      refine .operator operator ?_ ?_
      · rintro rfl
        have short : operatorTail '&' rest = 0 := by cases rest <;> simp [operatorTail]
        rw [short, List.drop_zero]
        intro char found
        constructor <;> rintro rfl <;> exact hex ⟨rfl, by simp_all⟩
      · apply (operatorTail_append first _ _).mp
        rw [whole, tail]
    · have no_letter : first ≠ 'r' ∧ first ≠ 'R' := by
        constructor <;> rintro rfl <;> exact name (by decide)
      rw [lexeme_sign rest ⟨quote, string⟩ no_letter no_digit no_name (Bool.eq_false_iff.mpr blank)
        hex, listed]
      dsimp only
      rw [if_neg operator]
      exact .bad ⟨quote, string⟩ no_digit no_name (Bool.eq_false_iff.mpr blank) ⟨listed, operator⟩

end BrightBlocks.Token
