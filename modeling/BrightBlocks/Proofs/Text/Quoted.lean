import BrightBlocks.Proofs.Text.Recoverable
import BrightBlocks.Text.Quoted

/-!
# Quoted texts can be read back

`readChar` undoes the escapes of a quoted text one character at a time. Hence no
two texts are quoted alike, whatever stands behind them (`quoted_recoverable`),
though the quotes depend on the text. A quoted text stays on its line.
-/

namespace BrightBlocks.Text

/-- Reads one character of a quoted text. -/
def readChar : Text → Option (Char × Text)
  | '\\' :: 'n' :: rest => some ('\n', rest)
  | '\\' :: 'r' :: rest => some ('\r', rest)
  | '\\' :: 't' :: rest => some ('\t', rest)
  | '\\' :: 'x' :: rest => some ((readHex 2 rest).map Char.ofNat id)
  | '\\' :: 'u' :: rest => some ((readHex 4 rest).map Char.ofNat id)
  | '\\' :: 'U' :: rest => some ((readHex 8 rest).map Char.ofNat id)
  | '\\' :: char :: rest => some (char, rest)
  | char :: rest => some (char, rest)
  | [] => none

/-- The two marks that a quoted text stands between. -/
def IsQuote (quote : Char) : Prop :=
  quote = '\'' ∨ quote = '"'

theorem IsQuote.ne_backslash {quote : Char} (mark : IsQuote quote) : '\\' ≠ quote := by
  rcases mark with rfl | rfl <;> decide

theorem IsQuote.ne_newline {quote : Char} (mark : IsQuote quote) : '\n' ≠ quote := by
  rcases mark with rfl | rfl <;> decide

theorem isQuote_quoteFor (text : Text) : IsQuote (quoteFor text) := by
  unfold quoteFor
  split
  · exact .inr rfl
  · exact .inl rfl

theorem readChar_escapePoint (char : Char) (rest : Text) :
    readChar (escapePoint char.toNat ++ rest) = some (char, rest) := by
  have small : char.toNat < 16 ^ 8 := Nat.lt_trans (toNat_lt char) (by decide)
  unfold escapePoint
  split
  · simp [readChar, readHex_hex 2 ‹_›]
  split
  · simp [readChar, readHex_hex 4 ‹_›]
  · simp [readChar, readHex_hex 8 small]

theorem readChar_quotedChar {quote : Char} (mark : IsQuote quote) (char : Char) (rest : Text) :
    readChar (quotedChar quote char ++ rest) = some (char, rest) := by
  unfold quotedChar
  split
  · rename_i special
    rcases special with rfl | rfl
    · rfl
    · rcases mark with rfl | rfl <;> rfl
  · rename_i plain
    split
    · subst char; rfl
    split
    · subst char; rfl
    split
    · subst char; rfl
    split
    · have backslash : char ≠ '\\' := fun equal => plain (.inl equal)
      simp [readChar, backslash]
    · exact readChar_escapePoint char rest

theorem quotedChar_escapes (quote : Char) : Escapes quote (quotedChar quote) := by
  intro char
  unfold quotedChar escapePoint
  split
  · exact .inr ⟨_, rfl⟩
  · rename_i plain
    iterate 3
      split
      · exact .inr ⟨_, rfl⟩
    split
    · exact .inl ⟨rfl, fun equal => plain (.inr equal)⟩
    · repeat' split
      all_goals exact .inr ⟨_, rfl⟩

/-- A quoted text is told from what follows it, and all other texts are quoted differently. -/
theorem quoted_recoverable (text : Text) : Recoverable Anything quoted text := by
  intro other rest rest' allowed allowed' same
  -- the first character shows which quote is in use, and with it how the rest is to be read
  obtain ⟨sameQuote, inside⟩ := List.cons.inj same
  rw [← sameQuote] at inside
  have mark := isQuote_quoteFor text
  have body := (quotedChar_escapes (quoteFor text)).recoverable mark.ne_backslash
    (readChar_quotedChar mark) text
  exact body allowed allowed' inside

theorem quoted_inj {first second : Text} (same : quoted first = quoted second) : first = second :=
  (quoted_recoverable first trivial trivial (congrArg (· ++ []) same)).1

/-! ## One line -/

theorem newline_notMem_hex (width value : Nat) : '\n' ∉ hex width value :=
  fun member => absurd (isHexDigit_of_mem_hex member) (by decide)

theorem newline_notMem_quotedChar {quote : Char} (mark : IsQuote quote) (char : Char) :
    '\n' ∉ quotedChar quote char := by
  have other := mark.ne_newline
  unfold quotedChar escapePoint
  split
  · rename_i special
    rcases special with rfl | rfl
    · decide
    · simpa using other
  split
  · decide
  · rename_i unbroken
    repeat' split
    all_goals simp [newline_notMem_hex, Ne.symm unbroken]

/-- A quoted text has no line break in it, whatever the text. -/
theorem newline_notMem_quoted (text : Text) : '\n' ∉ quoted text := by
  have mark := isQuote_quoteFor text
  have other := mark.ne_newline
  intro member
  rcases List.mem_append.mp member with inside | last
  · rcases List.mem_cons.mp inside with first | inside
    · exact other first
    · obtain ⟨char, -, member⟩ := List.mem_flatMap.mp inside
      exact newline_notMem_quotedChar mark char member
  · exact other (List.mem_singleton.mp last)

end BrightBlocks.Text
