import BrightBlocks.Block.Kind

/-!
# Notices

While blocks are recovered, the decisions that a reader of broken code may want
to know are noted down: headers that were cut short, blocks that stayed open,
terminators that were left to an enclosing block, and openers that the nesting
limit kept flat.
-/

namespace BrightBlocks.Block

/-- A decision that was noted down. Offsets are those of the token that led to it. -/
inductive Notice
  | headerCutShort (kind : Kind) (word : String) (offset : Int)
  | leftOpen (kind : Kind)
  | deferredCloser (kind : Kind) (word : String) (offset : Int)
  | deferredEnd (kind : Kind) (offset : Int)
  | keptFlat (limit : Nat) (word : String) (offset : Int)
  deriving DecidableEq, Repr

namespace Notice

/-- The words for a notice. -/
def message : Notice → Text
  | headerCutShort kind word offset =>
    kind.name.toList ++ " header cut short by ".toList ++ Text.quoted word.toList ++
      " at offset ".toList ++ Text.ofInt offset
  | leftOpen kind => kind.name.toList ++ " block left open at end of input".toList
  | deferredCloser kind word offset =>
    kind.name.toList ++ " block deferring ".toList ++ Text.quoted word.toList ++
      " at offset ".toList ++ Text.ofInt offset
  | deferredEnd kind offset =>
    kind.name.toList ++ " block deferring 'end' at offset ".toList ++ Text.ofInt offset ++
      " to enclosing block".toList
  | keptFlat limit word offset =>
    "Nesting limit ".toList ++ Text.ofInt limit ++ " reached; ".toList ++
      Text.quoted word.toList ++ " at offset ".toList ++ Text.ofInt offset ++
      " kept flat".toList

end Notice

end BrightBlocks.Block
