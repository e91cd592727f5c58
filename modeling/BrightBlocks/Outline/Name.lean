import BrightBlocks.Block.Tree
import BrightBlocks.Outline.Pattern

/-!
# Names of blocks

Functions, subs, classes and namespaces have the name that follows their opener.
Only the text of the block decides. The two words for procedures count for both
of their kinds.
-/

namespace BrightBlocks.Outline

/-- The words that may stand before the name of a block, and the characters of such a name. -/
def namePattern? : Block.Kind → Option (List String × (Char → Bool))
  | .function | .sub => some (["function", "sub"], Text.isNameChar)
  | .classBody => some (["class"], Text.isNameChar)
  | .namespaceBody => some (["namespace"], isPathChar)
  | .conditional | .forLoop | .whileLoop | .tryBlock => none

/-- The declared name of a block. -/
def name? (source : Text) (block : Block) : Option Text := do
  let (words, accepts) ← namePattern? block.kind
  let text := block.slice source
  words.firstM fun word => (keywordThenRun? accepts word.toList text).map (·.1)

end BrightBlocks.Outline
