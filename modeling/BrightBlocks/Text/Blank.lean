import BrightBlocks.Text.Basic
import BrightBlocks.Text.Interval

/-!
# Blank characters

A blank is a character that Unicode 14.0 gives the bidirectional class WS, B or
S or the general category Zs. The four separators from U+001C to U+001F belong
to the set, U+180E, U+200B and U+FEFF do not.
-/

namespace BrightBlocks.Text

/-- The code points of all blank characters. -/
def blankIntervals : Intervals :=
  [(0x0009, 0x000D), (0x001C, 0x0020), (0x0085, 0x0085), (0x00A0, 0x00A0), (0x1680, 0x1680),
   (0x2000, 0x200A), (0x2028, 0x2029), (0x202F, 0x202F), (0x205F, 0x205F), (0x3000, 0x3000)]

/-- Whether a character is blank. -/
def isBlank (char : Char) : Bool :=
  blankIntervals.contains char.toNat

/-- Removes the blanks at the front. -/
def trimLeft (text : Text) : Text :=
  text.dropWhile isBlank

/-- Removes the blanks at the back. -/
def trimRight (text : Text) : Text :=
  (text.reverse.dropWhile isBlank).reverse

/-- Removes the blanks at both ends. -/
def trim (text : Text) : Text :=
  text.trimLeft.trimRight

end BrightBlocks.Text
