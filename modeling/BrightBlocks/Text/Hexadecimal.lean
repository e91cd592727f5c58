import BrightBlocks.Text.Basic

/-!
# Hexadecimal numerals

Escapes show a code point by a fixed number of hexadecimal digits in small
letters, filled up with zeros on the left.
-/

namespace BrightBlocks.Text

/-- The digit for a value below sixteen. -/
def hexDigit (value : Nat) : Char :=
  if value < 10 then Char.ofNat (0x30 + value) else Char.ofNat (0x61 + (value - 10))

/-- The last `width` hexadecimal digits of a number. -/
def hex : Nat → Nat → Text
  | 0, _ => []
  | width + 1, value => hex width (value / 16) ++ [hexDigit (value % 16)]

end BrightBlocks.Text
