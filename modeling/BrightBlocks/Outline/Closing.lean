import BrightBlocks.Block.Vocabulary

/-!
# Closing phrases

For the word that opens a block there is a phrase that closes it and a list of
all spellings that do, the phrase in front.
-/

namespace BrightBlocks.Outline

open Block

/-- The phrase of `end` and a block's own word. -/
def endPhrase (kind : Kind) : String :=
  "end " ++ kind.opener

/-- All spellings that close a block. -/
def closingSpellings (kind : Kind) : List String :=
  endPhrase kind :: kind.closers

/-- The phrase that closes what a keyword opens, nothing if it opens nothing. -/
def closingPhrase? (keyword : Text) : Option String :=
  (Kind.ofOpener? (Token.smallWord keyword)).map endPhrase

/-- All spellings that close what a keyword opens, none if it opens nothing. -/
def closingVariants (keyword : Text) : List String :=
  match Kind.ofOpener? (Token.smallWord keyword) with
  | some kind => closingSpellings kind
  | none => []

end BrightBlocks.Outline
