import BrightBlocks.Text.Hexadecimal
import BrightBlocks.Text.Printable

/-!
# Quoted text

A quoted text stands on one line between two equal quotes. Single quotes are
used unless the text holds a single quote and no double quote. Inside, the
backslash and the quote in use take a backslash in front, line feed, carriage
return and tab have an escape of their own, and every other character that is
not printable is written by its code point.
-/

namespace BrightBlocks.Text

/-- The escape of a character by its code point, with as few digits as one of the forms allows. -/
def escapePoint (point : Nat) : Text :=
  if point < 0x100 then '\\' :: 'x' :: hex 2 point
  else if point < 0x10000 then '\\' :: 'u' :: hex 4 point
  else '\\' :: 'U' :: hex 8 point

/-- The form of one character between two marks `quote`. -/
def quotedChar (quote char : Char) : Text :=
  if char = '\\' ∨ char = quote then ['\\', char]
  else if char = '\n' then ['\\', 'n']
  else if char = '\r' then ['\\', 'r']
  else if char = '\t' then ['\\', 't']
  else if isPrintable char then [char]
  else escapePoint char.toNat

/-- The quote that a text is shown in. -/
def quoteFor (text : Text) : Char :=
  if '\'' ∈ text ∧ '"' ∉ text then '"' else '\''

/-- A text between quotes. -/
def quoted (text : Text) : Text :=
  let quote := quoteFor text
  quote :: text.flatMap (quotedChar quote) ++ [quote]

end BrightBlocks.Text
