/-!
# Text as a list of characters

Source code, file contents and printed output are all lists of code points.
Offsets count code points, never bytes. `slice` is the one way in which a
part of a text is named by two offsets, and it accepts every pair of integers:
an offset below zero counts back from the end, and an offset outside the text
stands for the nearer end of it.
-/

namespace BrightBlocks

/-- A text is the list of its code points. -/
abbrev Text := List Char

namespace Text

/-- The number of characters that lie before `offset`. -/
def offsetFromStart (text : Text) (offset : Int) : Nat :=
  if 0 ≤ offset then offset.toNat else (text.length + offset).toNat

/-- The characters from offset `start` up to, but not including, offset `stop`. -/
def slice (text : Text) (start stop : Int) : Text :=
  let first := text.offsetFromStart start
  (text.drop first).take (text.offsetFromStart stop - first)

/-- Whether `lead` stands at the front of the text. -/
def startsWith (text lead : Text) : Bool :=
  lead.isPrefixOf text

/-- Whether `tail` stands at the back of the text. -/
def endsWith (text tail : Text) : Bool :=
  tail.isSuffixOf text

/-- The characters before the first occurrence of `mark`, all of them if there is none. -/
def before (text : Text) (mark : Char) : Text :=
  text.takeWhile (· ≠ mark)

/-- Joins texts with `separator` between any two neighbours. -/
def joined (separator : Text) : List Text → Text
  | [] => []
  | [only] => only
  | first :: rest => first ++ separator ++ joined separator rest

/-- Fills up with blanks on the right until the text has at least `width` characters. -/
def padRight (text : Text) (width : Nat) : Text :=
  text ++ List.replicate (width - text.length) ' '

/-- The decimal digits of an integer, with a minus sign in front of a negative one. -/
def ofInt (number : Int) : Text :=
  (toString number).toList

end Text

end BrightBlocks
