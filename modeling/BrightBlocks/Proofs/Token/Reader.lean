import BrightBlocks.Proofs.Token.Tiling

/-!
# Reading single characters

`nextToken` cuts a token off the rest of a range at once. Here the same token is
read by single characters: every rule looks at the characters in front of it
and takes them with `next`, which fails where the range has ended. No run of accepted characters
and no operator ever comes to that (`readWhile_eq`, `scanOperator_eq`).
-/

namespace BrightBlocks.Token.Reader

/-! ## Reading by single characters -/

/-- Reads one character and forgets it. -/
def readChar (reader : Reader) : Except PastEnd Reader :=
  reader.next.map Prod.snd

/-- Reads the next character if there is one that is accepted. -/
def readIf (reader : Reader) (accepts : Char → Bool) : Except PastEnd Reader :=
  if (reader.peek 0).any accepts then reader.readChar else .ok reader

/-- Reading a character leaves fewer of them. -/
theorem rest_lt_of_readChar {reader after : Reader} (read : reader.readChar = .ok after) :
    after.rest.length < reader.rest.length := by
  unfold readChar next at read
  split at read
  · contradiction
  · rename_i first rest split
    injection read with same
    subst same
    simp [rest_skip, split]

/-- Reads characters for as long as there are some that are accepted. -/
def readWhile (reader : Reader) (accepts : Char → Bool) : Except PastEnd Reader :=
  if (reader.peek 0).any accepts then
    match _read : reader.readChar with
    | .ok after => after.readWhile accepts
    | .error fault => .error fault
  else .ok reader
  termination_by reader.rest.length
  decreasing_by exact rest_lt_of_readChar _read

/-- Reads a string: its opening quote, what it holds, and the closing quote if there is one. -/
def scanString (reader : Reader) : Except PastEnd Reader := do
  let opened ← reader.readChar
  let content ← opened.readWhile (· ≠ '"')
  content.readIf fun _ => true

/-- Reads a hexadecimal number: its two marks and the digits after them. -/
def scanHex (reader : Reader) : Except PastEnd Reader := do
  let mark ← reader.readChar
  let digits ← mark.readChar
  digits.readWhile Text.isHexDigit

/-- Reads a name with the type designator that may follow it. -/
def scanName (reader : Reader) : Except PastEnd Reader := do
  let start ← reader.readChar
  let name ← start.readWhile continuesName
  name.readIf (· ∈ typeDesignators)

/-- Reads an operator, as far as the characters after the first one extend it. -/
def scanOperator (reader : Reader) : Except PastEnd Reader := do
  let (first, after) ← reader.next
  match after.peek 0 with
  | none => return after
  | some second =>
    if second = '=' ∧ first ∈ ['+', '-', '*', '/', '\\', '<', '>'] then after.readChar
    else if (first, second) ∈ [('+', '+'), ('-', '-')] then after.readChar
    else if first = '<' ∧ second ∈ ['=', '>', '<'] ∨ first = '>' ∧ second ∈ ['=', '>'] then
      let extended ← after.readChar
      if second = first ∧ extended.peek 0 = some '=' then extended.readChar
      else return extended
    else return after

/-- Reads the token that starts with `first`: its kind, and the reader behind it. -/
def scanLexeme (reader : Reader) (first : Char) : Except PastEnd (Kind × Reader) := do
  if first = '\'' then
    let kind : Kind := if reader.peek 1 = some '\'' then .remComment else .lineComment
    return (kind, ← reader.readWhile (· ≠ '\n'))
  else if reader.atRemark then
    return (.remComment, ← reader.readWhile (· ≠ '\n'))
  else if first = '"' then
    return (.stringLiteral, ← reader.scanString)
  else if Text.isDecimal first then
    return (.numberLiteral, ← reader.readWhile continuesNumber)
  else if first = '&' ∧ (reader.peek 1 = some 'h' ∨ reader.peek 1 = some 'H') then
    return (.numberLiteral, ← reader.scanHex)
  else if startsName first then
    let after ← reader.scanName
    return (kindOfWord (reader.source.slice reader.position after.position), after)
  else if Text.isBlank first then
    return (.whitespace, ← reader.readWhile Text.isBlank)
  else
    match punctuation.lookup first with
    | some kind => return (kind, ← reader.readChar)
    | none =>
      if first ∈ operatorChars then return (.operator, ← reader.scanOperator)
      else return (.badCharacter, ← reader.readChar)

/-- Reads one token by single characters; at the end of the range that is the end-of-input token. -/
def scanToken (reader : Reader) : Except PastEnd (Token × Reader) := do
  match reader.peek 0 with
  | none => return (endOfInput reader.position, reader)
  | some first =>
    let (kind, after) ← reader.scanLexeme first
    return (⟨kind, reader.position, after.position⟩, after)

/-- Reads tokens one after the other, as many as asked for. -/
def nextTokens : Nat → Reader → List Token
  | 0, _ => []
  | count + 1, reader => reader.nextToken.1 :: nextTokens count reader.nextToken.2

/-- Reads tokens by single characters, as many as asked for. -/
def scanTokens : Nat → Reader → Except PastEnd (List Token)
  | 0, _ => return []
  | count + 1, reader => do
    let (token, after) ← reader.scanToken
    return token :: (← scanTokens count after)

/-! ## Skipping and looking ahead -/

/-- Looking ahead sees the characters that are left. -/
theorem peek_eq (reader : Reader) (offset : Nat) : reader.peek offset = reader.rest[offset]? := by
  unfold peek rest
  dsimp only
  by_cases inside : offset < reader.stop - reader.position
  · rw [if_neg (by omega), List.getElem?_take_of_lt inside, List.getElem?_drop]
    congr 1
  · rw [if_pos (by omega), List.getElem?_take_eq_none (by omega)]

@[simp]
theorem peek_zero (reader : Reader) : reader.peek 0 = reader.rest.head? := by
  have first := reader.peek_eq 0
  rwa [← List.head?_eq_getElem?] at first

theorem peek_one {reader : Reader} {first : Char} {rest : Text}
    (split : reader.rest = first :: rest) : reader.peek 1 = rest.head? := by
  have second := reader.peek_eq 1
  rw [split] at second
  cases rest <;> simpa using second

@[simp]
theorem skip_skip (reader : Reader) (first second : Nat) :
    (reader.skip first).skip second = reader.skip (first + second) := by
  simp only [skip, Reader.mk.injEq, true_and, and_true]
  omega

@[simp]
theorem skip_zero (reader : Reader) : reader.skip 0 = reader := by
  have := reader.position_le_stop
  cases reader
  simp only [skip, Reader.mk.injEq, true_and]
  exact ⟨by omega, trivial⟩

/-- Skipping no more than is left moves on by exactly that. -/
theorem position_skip {reader : Reader} {count : Nat} (fits : count ≤ reader.rest.length) :
    (reader.skip count).position = reader.position + count := by
  have length := reader.length_rest
  have := reader.position_le_stop
  simp only [skip]
  omega

/-- The characters that were skipped are a slice of the source. -/
theorem slice_skip {reader : Reader} {count : Nat} (fits : count ≤ reader.rest.length) :
    reader.source.slice reader.position (reader.skip count).position = reader.rest.take count := by
  have length := reader.length_rest
  rw [slice_ofNat, position_skip fits, rest, List.take_take]
  congr 1
  omega

/-! ## Reading never passes the end -/

/-- A character that is left is read. -/
theorem readChar_eq {reader : Reader} (more : reader.rest ≠ []) :
    reader.readChar = .ok (reader.skip 1) := by
  unfold readChar next
  split
  · contradiction
  · rfl

/-- Reading on while characters are accepted skips the accepted ones in front. -/
theorem readWhile_eq (reader : Reader) (accepts : Char → Bool) :
    reader.readWhile accepts = .ok (reader.skip (reader.rest.takeWhile accepts).length) := by
  fun_induction readWhile reader accepts with
  | case1 reader accepted after read inductionHypothesis =>
    rw [peek_zero] at accepted
    cases split : reader.rest with
    | nil => simp [split] at accepted
    | cons first rest =>
      have moved : after = reader.skip 1 := by
        have one : reader.readChar = .ok (reader.skip 1) := readChar_eq (by simp [split])
        rw [read] at one
        exact Except.ok.inj one
      subst moved
      rw [inductionHypothesis, rest_skip, split, skip_skip]
      simp only [split, List.head?_cons, Option.any_some] at accepted
      simp [accepted, Nat.add_comm]
  | case2 reader accepted fault read =>
    rw [peek_zero] at accepted
    have one : reader.readChar = .ok (reader.skip 1) :=
      readChar_eq (by rintro ended; simp [ended] at accepted)
    rw [read] at one
    contradiction
  | case3 reader refused =>
    rw [peek_zero] at refused
    cases split : reader.rest with
    | nil => simp
    | cons first rest =>
      simp only [split, List.head?_cons, Option.any_some] at refused
      simp [refused]

/-- A character is read on condition when it is left and accepted. -/
theorem readIf_eq (reader : Reader) (accepts : Char → Bool) :
    reader.readIf accepts =
      .ok (reader.skip (if reader.rest.head?.any accepts then 1 else 0)) := by
  unfold readIf
  rw [peek_zero]
  split
  · rename_i accepted
    exact readChar_eq (by rintro ended; simp [ended] at accepted)
  · simp

section

variable {reader : Reader} {first : Char} {rest : Text}

/-- The first character is read where there is one. -/
theorem next_eq (split : reader.rest = first :: rest) :
    reader.next = .ok (first, reader.skip 1) := by
  unfold next
  rw [split]

theorem readChar_of_rest (split : reader.rest = first :: rest) :
    reader.readChar = .ok (reader.skip 1) :=
  readChar_eq (by simp [split])

theorem rest_skip_one (split : reader.rest = first :: rest) : (reader.skip 1).rest = rest := by
  rw [rest_skip, split, List.drop_one, List.tail_cons]

/-- Characters are read one after the other, the first one and those that follow it. -/
theorem skip_takeWhile (split : reader.rest = first :: rest) {accepts : Char → Bool}
    (accepted : accepts first = true) :
    reader.skip (reader.rest.takeWhile accepts).length =
      reader.skip (1 + (rest.takeWhile accepts).length) := by
  rw [split, List.takeWhile_cons_of_pos accepted, List.length_cons, Nat.add_comm]

/-- An operator is read up to the last character that extends it. -/
theorem scanOperator_eq (split : reader.rest = first :: rest) :
    reader.scanOperator = .ok (reader.skip (1 + operatorTail first rest)) := by
  have behind := rest_skip_one split
  unfold scanOperator
  simp only [next_eq split, bind, Except.bind, peek_zero, behind]
  cases rest with
  | nil => simp [operatorTail, pure, Except.pure]
  | cons second more =>
    have two : (reader.skip 1).readChar = .ok (reader.skip 2) := by
      rw [readChar_eq (by simp [behind]), skip_skip]
    have third : (reader.skip 2).rest = more := by
      rw [rest_skip, split, List.drop_succ_cons, List.drop_one, List.tail_cons]
    simp only [List.head?_cons, two, third, operatorTail]
    split
    · rfl
    rename_i plain
    by_cases doubled : second = first ∧ first ∈ ['+', '-']
    · obtain ⟨rfl, sign⟩ := doubled
      have listed : (second, second) ∈ [('+', '+'), ('-', '-')] := by simpa using sign
      simp [sign, listed]
    have single : (first, second) ∉ [('+', '+'), ('-', '-')] := by
      rintro listed
      simp only [List.mem_cons, Prod.mk.injEq, List.not_mem_nil, or_false] at listed
      rcases listed with ⟨rfl, rfl⟩ | ⟨rfl, rfl⟩ <;> simp at doubled
    rw [if_neg single, if_neg doubled]
    by_cases shift : second = first ∧ first ∈ ['<', '>']
    · have angle : first = '<' ∧ second ∈ ['=', '>', '<'] ∨ first = '>' ∧ second ∈ ['=', '>'] := by
        obtain ⟨rfl, sign⟩ := shift
        simp only [List.mem_cons, List.not_mem_nil, or_false] at sign
        rcases sign with rfl | rfl <;> simp
      rw [if_pos angle, if_pos shift]
      simp only [shift.1, true_and]
      split
      · rename_i compound
        rw [readChar_eq (by rintro ended; simp [← third, ended] at compound), skip_skip]
      · rfl
    · rw [if_neg shift]
      -- what is left of the third case is `<>` alone, for `<=` and `>=` belong to the first
      have unequal : (first = '<' ∧ second ∈ ['=', '>', '<'] ∨ first = '>' ∧ second ∈ ['=', '>']) ↔
          first = '<' ∧ second = '>' := by
        constructor
        · rintro (⟨rfl, sign⟩ | ⟨rfl, sign⟩)
          · simp only [List.mem_cons, List.not_mem_nil, or_false] at sign
            rcases sign with rfl | rfl | rfl <;> simp at plain shift ⊢
          · simp only [List.mem_cons, List.not_mem_nil, or_false] at sign
            rcases sign with rfl | rfl <;> simp at plain shift
        · rintro ⟨rfl, rfl⟩
          simp
      simp only [unequal]
      split
      · rename_i both
        obtain ⟨rfl, rfl⟩ := both
        simp [pure, Except.pure]
      · rfl

end

end BrightBlocks.Token.Reader
