import BrightBlocks.Proofs.Token.Reader

/-!
# Scanning character by character

`scanToken_eq` says that scanning by single characters never fails, and that it cuts the same tokens
as `nextToken`.

The range may end anywhere, inside a comment, a string, a number or an
operator, for no rule takes a character that it has not seen in the range.
-/

namespace BrightBlocks.Token

namespace Reader

section

variable {reader : Reader} {first : Char} {rest : Text}

/-! ## The rules -/

/-- The first character of a remark does not end its line. -/
theorem first_ne_of_startsRemark (remark : startsRemark (first :: rest) = true) :
    first ≠ '\n' := by
  rintro rfl
  have letter : Text.lowercaseChar '\n' ≠ ['r'] := by decide
  unfold startsRemark at remark
  split at remark
  · rename_i same
    injection same with same
    subst same
    simp [letter] at remark
  · contradiction

/-- A line is read from its first character to the line break. -/
theorem readLine_eq (split : reader.rest = first :: rest) (inside : first ≠ '\n') :
    reader.readWhile (· ≠ '\n') = .ok (reader.skip (1 + (restOfLine rest).length)) := by
  rw [readWhile_eq, skip_takeWhile split (by simpa using inside)]
  rfl

/-- A run of accepted characters is read when its first character is one of them. -/
theorem readRun_eq (split : reader.rest = first :: rest) {accepts : Char → Bool}
    (accepted : accepts first = true) :
    reader.readWhile accepts = .ok (reader.skip (1 + (rest.takeWhile accepts).length)) := by
  rw [readWhile_eq, skip_takeWhile split accepted]

/-- A string is read up to its closing quote, or to the end of the range. -/
theorem scanString_eq (split : reader.rest = first :: rest) :
    reader.scanString = .ok (reader.skip (1 + stringTail rest)) := by
  have closing : stringTail rest = (rest.before '"').length +
      if (rest.drop (rest.before '"').length).head?.any (fun _ => true) then 1 else 0 := by
    unfold stringTail
    cases left : rest.drop (rest.before '"').length with
    | nil =>
      have short : ¬ (rest.before '"').length < rest.length := by
        have := List.drop_eq_nil_iff.mp left
        omega
      simp [short]
    | cons quote more =>
      have long : (rest.before '"').length < rest.length := by
        have length := congrArg List.length left
        rw [List.length_drop, List.length_cons] at length
        omega
      simp [long]
  unfold scanString
  simp only [readChar_of_rest split, readWhile_eq, rest_skip_one split, bind, Except.bind]
  rw [readIf_eq, rest_skip, rest_skip_one split, skip_skip, skip_skip, closing]
  rfl

/-- A hexadecimal number is read from its two marks to its last digit. -/
theorem scanHex_eq (split : reader.rest = first :: rest) (more : rest ≠ []) :
    reader.scanHex =
      .ok (reader.skip (1 + (1 + ((rest.drop 1).takeWhile Text.isHexDigit).length))) := by
  have second : (reader.skip 1).readChar = .ok (reader.skip 2) := by
    rw [readChar_eq (by rwa [rest_skip_one split]), skip_skip]
  have behind : (reader.skip 2).rest = rest.drop 1 := by
    rw [rest_skip, split, List.drop_succ_cons]
  unfold scanHex
  simp only [readChar_of_rest split, second, bind, Except.bind]
  rw [readWhile_eq, behind, skip_skip, ← Nat.add_assoc]

/-- A name is read together with the type designator that may follow it. -/
theorem scanName_eq (split : reader.rest = first :: rest) :
    reader.scanName = .ok (reader.skip (1 + nameTail rest)) := by
  have designated : nameTail rest = (rest.takeWhile continuesName).length +
      if (rest.drop (rest.takeWhile continuesName).length).head?.any (· ∈ typeDesignators) then 1
      else 0 := by
    unfold nameTail
    dsimp only
    split <;> rfl
  unfold scanName
  simp only [readChar_of_rest split, readWhile_eq, rest_skip_one split, bind, Except.bind]
  rw [readIf_eq, rest_skip, rest_skip_one split, skip_skip, skip_skip, designated]

/-- The characters of a name are its first character and the tail. -/
theorem slice_name (split : reader.rest = first :: rest) :
    reader.source.slice reader.position (reader.skip (1 + nameTail rest)).position =
      first :: rest.take (nameTail rest) := by
  have reach := nameTail_le rest
  rw [slice_skip (by rw [split, List.length_cons]; omega), split, Nat.add_comm,
    List.take_succ_cons]

/-- A token is read character by character up to where it is cut off the rest. -/
theorem scanLexeme_eq (split : reader.rest = first :: rest) :
    reader.scanLexeme first =
      .ok ((lexeme first rest).kind, reader.skip (1 + (lexeme first rest).tail)) := by
  have one := readChar_of_rest split
  have remark : reader.atRemark = startsRemark (first :: rest) := by rw [atRemark, split]
  unfold scanLexeme lexeme
  simp only [remark, peek_one split, one, bind, Except.bind, pure, Except.pure]
  by_cases quote : first = '\''
  · rw [if_pos quote, if_pos quote, readLine_eq split (by simp [quote])]
  rw [if_neg quote, if_neg quote]
  by_cases rem : startsRemark (first :: rest) = true
  · rw [if_pos rem, if_pos rem, readLine_eq split (first_ne_of_startsRemark rem)]
  rw [if_neg rem, if_neg rem]
  by_cases string : first = '"'
  · rw [if_pos string, if_pos string, scanString_eq split]
  rw [if_neg string, if_neg string]
  by_cases decimal : Text.isDecimal first = true
  · rw [if_pos decimal, if_pos decimal, readRun_eq split (by simp [continuesNumber, decimal])]
  rw [if_neg decimal, if_neg decimal]
  by_cases hex : first = '&' ∧ (rest.head? = some 'h' ∨ rest.head? = some 'H')
  · rw [if_pos hex, if_pos hex, scanHex_eq split (by rintro rfl; simp at hex)]
  rw [if_neg hex, if_neg hex]
  by_cases name : startsName first = true
  · rw [if_pos name, if_pos name, scanName_eq split]
    dsimp only
    rw [slice_name split]
  rw [if_neg name, if_neg name]
  by_cases blank : Text.isBlank first = true
  · rw [if_pos blank, if_pos blank, readRun_eq split blank]
  rw [if_neg blank, if_neg blank]
  cases punctuation.lookup first with
  | some kind => rfl
  | none =>
    dsimp only
    by_cases operator : first ∈ operatorChars
    · rw [if_pos operator, if_pos operator, scanOperator_eq split]
    · rw [if_neg operator, if_neg operator]
      rfl

end

/-- Reading a token character by character never passes the end of the range. -/
theorem scanToken_eq (reader : Reader) : reader.scanToken = .ok reader.nextToken := by
  unfold scanToken nextToken
  rw [peek_zero]
  cases split : reader.rest with
  | nil => rfl
  | cons first rest =>
    have reach : 1 + (lexeme first rest).tail ≤ reader.rest.length := by
      have := lexeme_tail_le first rest
      rw [split, List.length_cons]
      omega
    simp only [List.head?_cons, scanLexeme_eq split, bind, Except.bind, position_skip reach]
    rfl

/-! ## Reading token by token -/

/-- Before the end of the range the next token is the first of those that tile the rest. -/
theorem tokensFrom_of_rest_ne_nil {reader : Reader} (more : reader.rest ≠ []) :
    tokensFrom reader.position reader.rest = reader.nextToken.1 ::
      tokensFrom reader.nextToken.2.position reader.nextToken.2.rest := by
  have whole := tokens_of_rest_ne_nil more
  have stop : reader.nextToken.2.stop = reader.stop := by
    unfold nextToken
    split <;> rfl
  unfold tokens at whole
  rw [stop, ← List.cons_append] at whole
  exact List.append_cancel_right whole

/-- Reading tokens character by character never passes the end of the range. -/
theorem scanTokens_eq (count : Nat) (reader : Reader) :
    reader.scanTokens count = .ok (reader.nextTokens count) := by
  induction count generalizing reader with
  | zero => rfl
  | succ count inductionHypothesis =>
    simp only [scanTokens, scanToken_eq, inductionHypothesis, bind, Except.bind]
    rfl

/--
As many tokens as asked for are read: those that tile the rest of the range, and from then on the
end-of-input token again and again.
-/
theorem nextTokens_eq (count : Nat) (reader : Reader) :
    reader.nextTokens count = (tokensFrom reader.position reader.rest ++
      List.replicate count (endOfInput reader.stop)).take count := by
  induction count generalizing reader with
  | zero => rfl
  | succ count inductionHypothesis =>
    rw [nextTokens, inductionHypothesis]
    by_cases ended : reader.rest = []
    · rw [nextToken_of_rest_eq_nil ended, ended]
      simp [tokensFrom, List.replicate_succ]
    · have stop : reader.nextToken.2.stop = reader.stop := by
        unfold nextToken
        split <;> rfl
      rw [tokensFrom_of_rest_ne_nil ended, stop]
      simp [List.take_append, List.take_replicate]
      omega

end Reader

/-- A range that lies within a source is read from its start to its end. -/
theorem Reader.ofRange_eq {source : Text} {start stop : Int} (first : 0 ≤ start)
    (ordered : start ≤ stop) (within : stop ≤ source.length) :
    ∃ reader, Reader.ofRange source start (some stop) = .ok reader ∧ reader.source = source ∧
      (reader.position : Int) = start ∧ (reader.stop : Int) = stop := by
  refine ⟨_, dif_pos ⟨first, ordered, within⟩, rfl, ?_, ?_⟩
  · exact Int.toNat_of_nonneg first
  · exact Int.toNat_of_nonneg (Int.le_trans first ordered)

/--
A range of a source is cut into tokens that tile it, with the end-of-input token behind them. Read
character by character, the same tokens come one after the other: no rule ever asks for a character
past the end of the range, and behind the last token the end of the input comes again and again.
-/
theorem tokenizeRange_tiles (source : Text) (start stop : Int) (first : 0 ≤ start)
    (ordered : start ≤ stop) (within : stop ≤ source.length) :
    ∃ (tokens : List Token) (reader : Reader),
      tokenizeRange source start (some stop) = .ok (tokens ++ [endOfInput stop]) ∧
      Tiles start stop tokens ∧
      Reader.ofRange source start (some stop) = .ok reader ∧
      ∀ count, reader.scanTokens count = .ok (reader.nextTokens count) ∧
        reader.nextTokens count =
          (tokens ++ List.replicate count (endOfInput stop)).take count := by
  obtain ⟨reader, read, -, atStart, atStop⟩ := Reader.ofRange_eq first ordered within
  refine ⟨tokensFrom reader.position reader.rest, reader, ?_, ?_, read, fun count => ?_⟩
  · rw [tokenizeRange, read, ← atStop]
    rfl
  · have tiles := tokensFrom_tiles reader.position reader.rest
    have length : (reader.position : Int) + reader.rest.length = stop := by
      have := reader.length_rest
      have := reader.position_le_stop
      omega
    rwa [length, atStart] at tiles
  · exact ⟨Reader.scanTokens_eq count reader, atStop ▸ Reader.nextTokens_eq count reader⟩

/-- A range that starts and ends inside a string is cut into tokens all the same. -/
theorem tokenizeRange_tiles_inside_string :
    ((0 : Int) ≤ 3 ∧ (3 : Int) ≤ 8 ∧ (8 : Int) ≤ "x=\"&hFF<<=".toList.length) ∧
    ∃ (tokens : List Token) (reader : Reader),
      tokenizeRange "x=\"&hFF<<=".toList 3 (some 8) = .ok (tokens ++ [endOfInput 8]) ∧
      Tiles 3 8 tokens ∧
      Reader.ofRange "x=\"&hFF<<=".toList 3 (some 8) = .ok reader ∧
      ∀ count, reader.scanTokens count = .ok (reader.nextTokens count) ∧
        reader.nextTokens count = (tokens ++ List.replicate count (endOfInput 8)).take count :=
  ⟨by decide, tokenizeRange_tiles "x=\"&hFF<<=".toList 3 8 (by decide) (by decide) (by decide)⟩

end BrightBlocks.Token
