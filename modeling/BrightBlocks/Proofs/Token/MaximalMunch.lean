import BrightBlocks.Proofs.Token.Locality

/-!
# Tokens are maximal munches

`Munch rest kind text` describes a token by its kind: which characters it may be made of, and
why it does not go on with the first characters of `rest`, the part of the range behind it.
The description knows classes of characters and the list of the operators, but no order in
which rules are tried: that a remark is no name, and a hexadecimal number no operator, is left
to the characters. Every token of a range is described so (`tokenizeRange_munches`).

Which of several descriptions applies to a text is no part of this module.
-/

namespace BrightBlocks.Token

/-- The operators, none of which has more than three characters. -/
def operators : List Text :=
  ["+", "-", "*", "/", "\\", "^", "=", "<", ">", "&", "+=", "-=", "*=", "/=", "\\=", "<=", ">=",
    "++", "--", "<>", "<<", ">>", "<<=", ">>="].map String.toList

/-- A comment reaches from its mark to the end of its line, or of the range. -/
inductive CommentMunch (rest : Text) : Kind → Text → Prop where
  | quote {body : Text} (single : (body ++ rest).head? ≠ some '\'')
      (line : Run (· ≠ '\n') ('\'' :: body) rest.head?) :
      CommentMunch rest .lineComment ('\'' :: body)
  | quotes {body : Text} (line : Run (· ≠ '\n') ('\'' :: '\'' :: body) rest.head?) :
      CommentMunch rest .remComment ('\'' :: '\'' :: body)
  | word {first second third : Char} {body : Text} (starts : first = 'r' ∨ first = 'R')
      (goes_on : second = 'e' ∨ second = 'E') (ends : third = 'm' ∨ third = 'M')
      (apart : ∀ char ∈ (body ++ rest).head?, isWordChar char = false)
      (line : Run (· ≠ '\n') (first :: second :: third :: body) rest.head?) :
      CommentMunch rest .remComment (first :: second :: third :: body)

/-- A string reaches to the next quote, or to the end of the range if there is none. -/
inductive StringMunch (rest : Text) : Text → Prop where
  | closed {content : Text} (plain : '"' ∉ content) :
      StringMunch rest ('"' :: (content ++ ['"']))
  | unclosed {content : Text} (plain : '"' ∉ content) (ended : rest = []) :
      StringMunch rest ('"' :: content)

/-- A number takes all digits, and dots where it is a decimal one. -/
inductive NumberMunch (rest : Text) : Text → Prop where
  | decimal {first : Char} {body : Text} (digit : Text.isDecimal first = true)
      (number : Run continuesNumber body rest.head?) :
      NumberMunch rest (first :: body)
  | hexadecimal {letter : Char} {digits : Text} (marked : letter = 'h' ∨ letter = 'H')
      (number : Run Text.isHexDigit digits rest.head?) :
      NumberMunch rest ('&' :: letter :: digits)

/-- A name takes all its letters, and a type designator if one stands behind them. -/
inductive NameMunch (rest : Text) : Text → Prop where
  | undesignated {first : Char} {letters : Text} (starts : startsName first = true)
      (name : Run continuesName letters rest.head?)
      (bare : ∀ char ∈ rest.head?, char ∉ typeDesignators) :
      NameMunch rest (first :: letters)
  | designated {first designator : Char} {letters : Text} (starts : startsName first = true)
      (name : ∀ char ∈ letters, continuesName char = true)
      (designates : designator ∈ typeDesignators) :
      NameMunch rest (first :: (letters ++ [designator]))

/-- An operator is one of the listed ones, and none of them is longer at its place. -/
structure OperatorMunch (rest text : Text) : Prop where
  listed : text ∈ operators
  longest : ∀ other ∈ operators, other <+: text ++ rest → other.length ≤ text.length

/-- A character that starts no token of any other kind. -/
structure Unfit (char : Char) : Prop where
  no_quote : char ≠ '\'' ∧ char ≠ '"'
  no_digit : Text.isDecimal char = false
  no_name : startsName char = false
  no_blank : Text.isBlank char = false
  no_sign : punctuation.lookup char = none ∧ char ∉ operatorChars

/-- The characters of a token of each kind, with `rest` behind them in the range. -/
def Munch (rest : Text) : Kind → Text → Prop
  | .whitespace, text => text ≠ [] ∧ Run Text.isBlank text rest.head?
  | .lineComment, text => CommentMunch rest .lineComment text
  | .remComment, text => CommentMunch rest .remComment text
  | .stringLiteral, text => StringMunch rest text
  | .numberLiteral, text => NumberMunch rest text
  | .operator, text => OperatorMunch rest text
  | .badCharacter, text => ∃ char, text = [char] ∧ Unfit char
  | .endOfInput, text => text = [] ∧ rest = []
  | kind, text =>
    if kind.isWord then NameMunch rest text ∧ kind = kindOfWord text
    else ∃ char, text = [char] ∧ punctuation.lookup char = some kind

/-! ## Operators -/

/-- What is taken for an operator is one. -/
theorem cons_take_operatorTail_mem {first : Char} (listed : first ∈ operatorChars) (text : Text) :
    first :: text.take (operatorTail first text) ∈ operators := by
  have alone : ∀ char ∈ operatorChars, [char] ∈ operators :=
    List.all_iff_forall_prop.mp (by decide)
  have assigning : ∀ char ∈ ['+', '-', '*', '/', '\\', '<', '>'], [char, '='] ∈ operators :=
    List.all_iff_forall_prop.mp (by decide)
  have twice : ∀ char ∈ ['+', '-', '<', '>'], [char, char] ∈ operators :=
    List.all_iff_forall_prop.mp (by decide)
  have shifting : ∀ char ∈ ['<', '>'], [char, char, '='] ∈ operators :=
    List.all_iff_forall_prop.mp (by decide)
  cases text with
  | nil => exact alone first listed
  | cons second rest =>
    simp only [operatorTail]
    split_ifs with assigns counts shifts compound differs
    · simpa [assigns.1] using assigning first assigns.2
    · rw [counts.1]
      exact twice first (List.mem_append_left ['<', '>'] counts.2)
    · obtain ⟨more, rfl⟩ := List.head?_eq_some_iff.mp compound
      rw [shifts.1]
      exact shifting first shifts.2
    · rw [shifts.1]
      exact twice first (List.mem_cons_of_mem _ (List.mem_cons_of_mem _ shifts.2))
    · obtain ⟨rfl, rfl⟩ := differs
      show ['<', '>'] ∈ operators
      decide
    · exact alone first listed

/-- Where a text starts with an operator, no less than the operator is taken. -/
theorem length_le_of_operator {first : Char} {text other : Text} (listed : other ∈ operators)
    (leads : other <+: first :: text) : other.length ≤ operatorTail first text + 1 := by
  obtain ⟨behind, split⟩ := leads
  -- a doubled sign takes the equals sign behind it as well
  have doubled : 1 ≤ if behind.head? = some '=' then 2 else 1 := by split <;> decide
  have all : ∀ operator ∈ operators, ∃ char tail, operator = char :: tail ∧
      tail.length ≤ operatorTail char (tail ++ behind) := by
    simp [operators, operatorTail, doubled]
  obtain ⟨char, tail, rfl, reaches⟩ := all other listed
  obtain ⟨rfl, rfl⟩ := List.cons.inj split
  exact Nat.succ_le_succ reaches

/-! ## Comments -/

/-- A remark starts with its three letters, and with no fourth one. -/
theorem exists_of_startsRemark {text : Text} (spelled : startsRemark text = true) :
    ∃ first second third more, text = first :: second :: third :: more ∧
      (first = 'r' ∨ first = 'R') ∧ (second = 'e' ∨ second = 'E') ∧
      (third = 'm' ∨ third = 'M') ∧ ∀ char ∈ more.head?, isWordChar char = false := by
  unfold startsRemark at spelled
  split at spelled
  · rename_i first second third more
    simp only [Bool.and_eq_true, decide_eq_true_eq, Bool.not_eq_true'] at spelled
    obtain ⟨⟨⟨starts, goes_on⟩, ends⟩, apart⟩ := spelled
    refine ⟨first, second, third, more, rfl, Text.eq_of_lowercaseChar_eq_r starts,
      Text.eq_of_lowercaseChar_eq_e goes_on, Text.eq_of_lowercaseChar_eq_m ends, ?_⟩
    intro char found
    rw [Option.mem_def] at found
    simpa [found] using apart
  · contradiction

section

variable {body rest : Text}

/-- Behind the line of a comment stands a line break, if anything. -/
theorem eq_lineBreak_of_line (line : Run (· ≠ '\n') body rest.head?) :
    ∀ char ∈ rest.head?, char = '\n' := by
  intro char found
  simpa using line.stops char found

/-- What holds of the line break holds behind a comment where it holds inside. -/
theorem forall_head?_append {refuses : Char → Prop} (line : Run (· ≠ '\n') body rest.head?)
    (inside : ∀ char ∈ body.head?, refuses char) (lineBreak : refuses '\n') :
    ∀ char ∈ (body ++ rest).head?, refuses char := by
  cases body with
  | nil =>
    intro char found
    exact eq_lineBreak_of_line line char found ▸ lineBreak
  | cons char more => exact inside

end

/-! ## Every token is a munch -/

section

variable {first : Char} {body rest : Text} {kind : Kind}

theorem munch_of_isWord (word : kind.isWord = true) {text : Text} :
    Munch rest kind text ↔ NameMunch rest text ∧ kind = kindOfWord text := by
  cases kind <;> simp [Kind.isWord] at word <;> simp [Munch, Kind.isWord]

theorem munch_of_punctuation {char : Char} (listed : punctuation.lookup char = some kind) :
    Munch rest kind [char] := by
  have found : ∃ sign, [char] = [sign] ∧ punctuation.lookup sign = some kind :=
    ⟨char, rfl, listed⟩
  have kinds : ∀ entry ∈ punctuation, entry.2 ∈
      [.leftParen, .rightParen, .leftBrace, .rightBrace, .leftBracket, .rightBracket, .dot,
        .comma, .colon] := by
    decide
  obtain ⟨front, back, split, -⟩ := List.lookup_eq_some_iff.mp listed
  have among := kinds (char, kind) (split ▸ by simp)
  simp only [List.mem_cons, List.not_mem_nil, or_false] at among
  rcases among with rfl | rfl | rfl | rfl | rfl | rfl | rfl | rfl | rfl <;> exact found

theorem Run.cons {accepts : Char → Bool} {run : Text} {next : Option Char}
    (accepted : accepts first = true) (found : Run accepts run next) :
    Run accepts (first :: run) next :=
  ⟨List.forall_mem_cons.mpr ⟨accepted, found.inside⟩, found.stops⟩

/-- A token that is cut off is a munch of its kind. -/
theorem Cut.munch (cut : Cut first body rest.head? kind) : Munch rest kind (first :: body) := by
  generalize behind : rest.head? = next at cut
  cases cut with
  | lineComment mark single line =>
    subst mark
    rw [← behind] at line
    refine .quote (fun found => ?_) (line.cons (by decide))
    have other : ∀ char ∈ (body ++ rest).head?, char ≠ '\'' :=
      forall_head?_append line (fun char found same => single (same ▸ found)) (by decide)
    exact other '\'' found rfl
  | quotedRemark mark double line =>
    subst mark
    obtain ⟨more, rfl⟩ := List.head?_eq_some_iff.mp double
    exact .quotes ((behind ▸ line).cons (by decide))
  | remark spelled line =>
    obtain ⟨first, second, third, more, same, starts, goes_on, ends, apart⟩ :=
      exists_of_startsRemark spelled
    obtain ⟨rfl, rfl⟩ := List.cons.inj same
    rw [← behind] at line
    have further : Run (· ≠ '\n') more rest.head? :=
      ⟨fun char member => line.inside char (by simp [member]), line.stops⟩
    refine .word starts goes_on ends (forall_head?_append further apart (by decide))
      (line.cons ?_)
    rcases starts with rfl | rfl <;> decide
  | @closedString content _ mark plain =>
    subst mark
    exact .closed fun member => plain '"' member rfl
  | openString mark plain =>
    subst mark
    exact .unclosed (fun member => plain '"' member rfl) (List.head?_eq_none_iff.mp behind)
  | decimal digit number => exact .decimal digit (behind ▸ number)
  | hexadecimal mark letter number => exact mark ▸ .hexadecimal letter (behind ▸ number)
  | name starts no_digit letters_run undesignated no_remark =>
    rw [munch_of_isWord (isWord_kindOfWord _)]
    exact ⟨.undesignated starts (behind ▸ letters_run) (behind ▸ undesignated), rfl⟩
  | designatedName starts no_digit inside designated no_remark =>
    rw [munch_of_isWord (isWord_kindOfWord _)]
    exact ⟨.designated starts inside designated, rfl⟩
  | blank starts no_digit no_name blanks =>
    exact ⟨List.cons_ne_nil _ _, .cons starts (behind ▸ blanks)⟩
  | punctuation listed => exact munch_of_punctuation listed
  | operator listed no_number extends_to =>
    rw [← behind, ← operatorTail_append] at extends_to
    have member := cons_take_operatorTail_mem listed (body ++ rest)
    rw [extends_to, List.take_left] at member
    refine ⟨member, fun other among leads => ?_⟩
    have reach : other.length ≤ operatorTail first (body ++ rest) + 1 :=
      length_le_of_operator among leads
    rwa [extends_to] at reach
  | bad no_quote no_digit no_name no_blank no_sign =>
    exact ⟨first, rfl, no_quote, no_digit, no_name, no_blank, no_sign⟩

end

/-! ## Ranges -/

/-- Every token of a part of a source is a munch, up to the end of the part. -/
theorem munch_of_mem_tokensFrom {source text : Text} {position stop : Nat}
    (stands : text = (source.drop position).take (stop - position)) :
    ∀ token ∈ tokensFrom position text,
      Munch (source.slice token.stop stop) token.kind (token.text source) := by
  intro token member
  obtain ⟨first, body, cut, own, -⟩ := exists_cut_of_mem_tokensFrom stands token member
  rw [own]
  exact cut.munch

/-- White space is taken as a whole, so that no more of it comes next. -/
theorem not_both_blank {left right : Piece} {next : Option Char}
    (touches : left.Fits right.text.head?) (fits : right.Fits next) :
    ¬ (left.kind = .whitespace ∧ right.kind = .whitespace) := by
  rintro ⟨white, more⟩
  obtain @⟨second, tail, other, behind⟩ := fits
  obtain @⟨first, body, kind, cut⟩ := touches
  have stops := (cut.blanks white).2.stops second rfl
  rw [(behind.blanks more).1] at stops
  contradiction

theorem not_both_blank_tokensFrom {source text : Text} {position : Nat}
    (stands : text <+: source.drop position) :
    (tokensFrom position text).IsChain fun left right =>
      ¬ (left.kind = .whitespace ∧ right.kind = .whitespace) := by
  have chain : (pieces text).IsChain fun left right =>
      ¬ (left.kind = .whitespace ∧ right.kind = .whitespace) := by
    refine (pieces_chain text).imp_of_mem_imp ?_
    intro left right _ member touches
    obtain ⟨next, fits⟩ := fits_of_mem_pieces member
    exact not_both_blank touches fits
  rwa [← map_piece_tokensFrom stands, List.isChain_map] at chain

/--
Every token of a range is a maximal munch of its kind: it is made of the characters of the kind and
goes on as long as they do, up to the end of the range. No two tokens of white space touch.
-/
theorem tokenizeRange_munches (source : Text) (start stop : Int) (first : 0 ≤ start)
    (ordered : start ≤ stop) (within : stop ≤ source.length) :
    ∃ tokens, tokenizeRange source start (some stop) = .ok tokens ∧
      (∀ token ∈ tokens, Munch (source.slice token.stop stop) token.kind (token.text source)) ∧
      tokens.IsChain fun left right =>
        ¬ (left.kind = .whitespace ∧ right.kind = .whitespace) := by
  obtain ⟨start, rfl⟩ := Int.eq_ofNat_of_zero_le first
  obtain ⟨stop, rfl⟩ := Int.eq_ofNat_of_zero_le (Int.le_trans first ordered)
  have forwards : start ≤ stop := Int.ofNat_le.mp ordered
  have inside : stop ≤ source.length := Int.ofNat_le.mp within
  refine ⟨_, tokenizeRange_eq forwards inside, ?_, ?_⟩
  · have ended : Munch (source.slice (endOfInput stop).stop stop) (endOfInput stop).kind
        ((endOfInput stop).text source) := by
      have nothing : source.slice stop stop = [] := by
        rw [slice_ofNat, Nat.sub_self, List.take_zero]
      exact ⟨nothing, nothing⟩
    rw [List.forall_mem_append, List.forall_mem_singleton]
    exact ⟨munch_of_mem_tokensFrom rfl, ended⟩
  · have chain := not_both_blank_tokensFrom (List.take_prefix (stop - start) (source.drop start))
    refine List.isChain_append.mpr ⟨chain, .singleton _, ?_⟩
    rintro left _ right last ⟨-, blank⟩
    obtain rfl : endOfInput stop = right := by simpa using last
    contradiction

/-- A range that starts behind the first letter of a name and ends inside a hexadecimal number. -/
theorem tokenizeRange_munches_inside_number :
    let source : Text := "ab$<>=\t\n&hFFg rem_x".toList
    ((0 : Int) ≤ 1 ∧ (1 : Int) ≤ 11 ∧ (11 : Int) ≤ source.length) ∧
    ∃ tokens, tokenizeRange source 1 (some 11) = .ok tokens ∧
      (∀ token ∈ tokens, Munch (source.slice token.stop 11) token.kind (token.text source)) ∧
      tokens.IsChain fun left right =>
        ¬ (left.kind = .whitespace ∧ right.kind = .whitespace) := by
  intro source
  have within : (11 : Int) ≤ source.length := by decide
  exact ⟨⟨by decide, by decide, within⟩,
    tokenizeRange_munches source 1 11 (by decide) (by decide) within⟩

end BrightBlocks.Token
