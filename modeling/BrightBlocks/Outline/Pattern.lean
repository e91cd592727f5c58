import BrightBlocks.Text.Blank
import BrightBlocks.Text.Lowercase
import BrightBlocks.Text.Numeric

/-!
# Patterns in a line of code

Labels and names are found by patterns that are built from a few parts: a
keyword in any case, a run of blanks, a run of name characters. A part takes
characters from the front of a text and answers what remains. `search` tries a
pattern at every place where a name may start, from left to right.

A keyword stands for more than its two cases: the dotted and the dotless i match
the letter i, and the long s matches the letter s.
-/

namespace BrightBlocks.Outline

open Text

/-- Whether a character counts as the small letter of a keyword. -/
def matchesLetter (letter char : Char) : Bool :=
  lowercaseChar char = [letter] ||
    (letter = 'i' && (char = 'İ' || char = 'ı')) || (letter = 's' && char = 'ſ')

/-- What remains after a keyword. -/
def afterKeyword? : (keyword text : Text) → Option Text
  | [], text => some text
  | _ :: _, [] => none
  | letter :: keyword, char :: text =>
    if matchesLetter letter char then afterKeyword? keyword text else none

/-- What remains after a run of blanks, of which there has to be one. -/
def afterBlanks? : Text → Option Text
  | [] => none
  | char :: rest => if isBlank char then some (trimLeft rest) else none

/-- The run of accepted characters in front, of which there has to be one, and what remains. -/
def takeRun? (accepts : Char → Bool) : Text → Option (Text × Text)
  | [] => none
  | char :: rest =>
    if accepts char then some (char :: rest.takeWhile accepts, rest.dropWhile accepts) else none

/-- A character of a name that may have several parts. -/
def isPathChar (char : Char) : Bool :=
  char = '.' || isNameChar char

/-- A keyword, blanks and a run of accepted characters: the run and what remains. -/
def keywordThenRun? (accepts : Char → Bool) (keyword text : Text) : Option (Text × Text) := do
  takeRun? accepts (← afterBlanks? (← afterKeyword? keyword text))

/--
The first match of a pattern that starts with a letter, where the letter starts a
name. `inName` tells whether the character before the text belongs to a name.
-/
def searchFrom (pattern : Text → Option α) (inName : Bool) : Text → Option α
  | [] => none
  | char :: rest =>
    match if inName then none else pattern (char :: rest) with
    | some found => some found
    | none => searchFrom pattern (isNameChar char) rest

/-- The first match of a pattern that starts with a letter, where the letter starts a name. -/
def search (pattern : Text → Option α) (line : Text) : Option α :=
  searchFrom pattern false line

/-- The shortest text in front, not empty, that blanks and the word `then` follow. -/
def untilThen? : Text → Option Text
  | [] => none
  | char :: rest =>
    if ((afterBlanks? rest).bind (afterKeyword? "then".toList)).isSome then some [char]
    else (untilThen? rest).map (char :: ·)

end BrightBlocks.Outline
