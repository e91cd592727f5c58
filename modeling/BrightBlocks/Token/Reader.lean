import BrightBlocks.Token.Scan

/-!
# Reading a range of a source

A reader stands at a position of a range of a source. Offsets count from the
start of the whole source, so tokens of a range line up with those of a full
pass. The range lies within the source and the position never passes its end;
both are part of the type.

`tokens` reads a range to its end. Reading token by token gives the same tokens
(`tokens_of_rest_ne_nil`), and past the last one the end-of-input token again
and again (`nextToken_of_rest_eq_nil`).
-/

namespace BrightBlocks.Token

/-- A range that does not lie within a source of the given length. -/
structure RangeFault where
  start : Int
  stop : Int
  length : Nat
  deriving DecidableEq, Repr

/-- The words for a bad range. -/
def RangeFault.message (fault : RangeFault) : Text :=
  "Invalid range [".toList ++ Text.ofInt fault.start ++ ", ".toList ++ Text.ofInt fault.stop ++
    ") for source of length ".toList ++ Text.ofInt fault.length

/-- A character was asked for where the range has ended. -/
structure PastEnd where
  position : Nat
  deriving DecidableEq, Repr

/-- The words for reading past the end. -/
def PastEnd.message (fault : PastEnd) : Text :=
  "CharacterStreamError: Attempted to read past end of range at position=<".toList ++
    Text.ofInt fault.position ++ ">".toList

/-- A position in a range of a source. -/
structure Reader where
  source : Text
  position : Nat
  stop : Nat
  position_le_stop : position ≤ stop
  stop_le_length : stop ≤ source.length

namespace Reader

/-- A reader at the start of a range. Without `stop` the range ends where the source does. -/
def ofRange (source : Text) (start : Int) (stop : Option Int) : Except RangeFault Reader :=
  let bound := stop.getD source.length
  if within : 0 ≤ start ∧ start ≤ bound ∧ bound ≤ source.length then
    .ok ⟨source, start.toNat, bound.toNat, by omega, by omega⟩
  else
    .error ⟨start, bound, source.length⟩

/-- The characters of the range that are still to be read. -/
def rest (reader : Reader) : Text :=
  (reader.source.drop reader.position).take (reader.stop - reader.position)

/-- Whether the range has been read to its end. -/
def atEnd (reader : Reader) : Bool :=
  reader.stop ≤ reader.position

/-- Moves on by `count` characters, though never past the end of the range. -/
def skip (reader : Reader) (count : Nat) : Reader :=
  { reader with
    position := min (reader.position + count) reader.stop
    position_le_stop := Nat.min_le_right _ _ }

/--
The character `offset` places from the position. The range ends at `stop`, but
the characters before its start can be read back.
-/
def peek (reader : Reader) (offset : Int) : Option Char :=
  let index := reader.position + offset
  if index < 0 ∨ reader.stop ≤ index then none else reader.source[index.toNat]?

/-- Reads one character. -/
def next (reader : Reader) : Except PastEnd (Char × Reader) :=
  match reader.rest with
  | [] => .error ⟨reader.position⟩
  | char :: _ => .ok (char, reader.skip 1)

/-- Skips the characters in front for which `accepts` holds. -/
def skipWhile (reader : Reader) (accepts : Char → Bool) : Reader :=
  reader.skip (reader.rest.takeWhile accepts).length

/-- Skips to the next line break, or to the end of the range. -/
def skipLine (reader : Reader) : Reader :=
  reader.skip (restOfLine reader.rest).length

/-- Whether a comment that is marked by a word starts here. -/
def atRemark (reader : Reader) : Bool :=
  startsRemark reader.rest

/-- Reads an operator, whatever character it starts with. -/
def skipOperator (reader : Reader) : Except PastEnd Reader :=
  match reader.rest with
  | [] => .error ⟨reader.position⟩
  | first :: rest => .ok (reader.skip (1 + operatorTail first rest))

/-- Reads one token; at the end of the range that is the end-of-input token. -/
def nextToken (reader : Reader) : Token × Reader :=
  match reader.rest with
  | [] => (endOfInput reader.position, reader)
  | first :: rest =>
    let found := lexeme first rest
    let length := 1 + found.tail
    (⟨found.kind, reader.position, reader.position + length⟩, reader.skip length)

/-- All tokens up to the end of the range, and the end-of-input token. -/
def tokens (reader : Reader) : List Token :=
  tokensFrom reader.position reader.rest ++ [endOfInput reader.stop]

/-! ## Reading token by token -/

/-- As many characters are left as lie between the position and the end of the range. -/
theorem length_rest (reader : Reader) : reader.rest.length = reader.stop - reader.position := by
  have := reader.position_le_stop
  have := reader.stop_le_length
  simp only [rest, List.length_take, List.length_drop]
  omega

/-- Skipping drops characters from the front of those that are left. -/
theorem rest_skip (reader : Reader) (count : Nat) :
    (reader.skip count).rest = reader.rest.drop count := by
  have := reader.position_le_stop
  simp only [rest, skip, List.drop_take, List.drop_drop]
  by_cases fits : reader.position + count ≤ reader.stop
  · rw [Nat.min_eq_left fits]
    congr 1
    omega
  · have capped : min (reader.position + count) reader.stop = reader.stop := by omega
    have gone : reader.stop - reader.position - count = 0 := by omega
    simp only [capped, Nat.sub_self, List.take_zero, gone]

/-- At the end of the range the next token is the end-of-input token, and nothing moves. -/
theorem nextToken_of_rest_eq_nil {reader : Reader} (ended : reader.rest = []) :
    reader.nextToken = (endOfInput reader.stop, reader) := by
  have same : reader.position = reader.stop := by
    have length := reader.length_rest
    have := reader.position_le_stop
    rw [ended, List.length_nil] at length
    omega
  unfold nextToken
  rw [ended, same]

/-- Before the end of the range the next token is the first of all that are left. -/
theorem tokens_of_rest_ne_nil {reader : Reader} (more : reader.rest ≠ []) :
    reader.tokens = reader.nextToken.1 :: reader.nextToken.2.tokens := by
  obtain ⟨first, rest, split⟩ := List.exists_cons_of_ne_nil more
  have fits : reader.position + (1 + (lexeme first rest).tail) ≤ reader.stop := by
    have reach := lexeme_tail_le first rest
    have length := reader.length_rest
    have := reader.position_le_stop
    rw [split, List.length_cons] at length
    omega
  have next : reader.nextToken =
      (⟨(lexeme first rest).kind, reader.position,
          reader.position + (1 + (lexeme first rest).tail : Nat)⟩,
        reader.skip (1 + (lexeme first rest).tail)) := by
    unfold nextToken
    rw [split]
  have position : (reader.skip (1 + (lexeme first rest).tail)).position =
      reader.position + 1 + (lexeme first rest).tail := by
    simp only [skip]
    omega
  have stop : (reader.skip (1 + (lexeme first rest).tail)).stop = reader.stop := rfl
  rw [next]
  unfold tokens
  rw [rest_skip, split, tokensFrom, position, stop]
  simp [Nat.add_comm 1]
  omega

end Reader

/-- The tokens of a range of a source, the last of them the end-of-input token. -/
def tokenizeRange (source : Text) (start : Int) (stop : Option Int) :
    Except RangeFault (List Token) :=
  (Reader.ofRange source start stop).map Reader.tokens

/-- The tokens of a whole source, the last of them the end-of-input token. -/
def tokenize (source : Text) : List Token :=
  tokensFrom 0 source ++ [endOfInput source.length]

end BrightBlocks.Token
