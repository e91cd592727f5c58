import BrightBlocks.Block.Tree
import BrightBlocks.Text.Quoted

/-!
# Trees as an indented outline

The outline of a tree has a line for every node. Children stand two blanks
further in than their parent. A leaf is shown with its text between quotes, a
block with its range and with a remark when it is open or on one line.
-/

namespace BrightBlocks.Report

/-- The blanks in front of a line. A level below zero has none. -/
def margin (level : Int) : Text :=
  List.replicate (2 * level.toNat) ' '

/-- The end of a line that shows a range. -/
def rangeText (start stop : Int) : Text :=
  " [".toList ++ Text.ofInt start ++ ", ".toList ++ Text.ofInt stop ++ ")".toList

/-- The line of a block. -/
def blockLine (level : Int) (block : Block) : Text :=
  margin level ++ block.kind.name.toList ++ rangeText block.start block.stop ++
    (if block.closed then [] else " (unclosed)".toList) ++
    (if block.singleLine then " (single-line)".toList else [])

/-- The line of a leaf whose parent stands at `level`. -/
def leafLine (source : Text) (level : Int) (token : Token) : Text :=
  margin level ++ "  ".toList ++ token.kind.name.toList ++ [' '] ++
    Text.quoted (token.text source)

mutual

/-- The lines of a node whose parent stands at `level`. -/
def nodeLines (source : Text) (level : Int) : Node → List Text
  | .leaf token => [leafLine source level token]
  | .block kind children closed singleLine =>
    blockLine (level + 1) ⟨kind, children, closed, singleLine⟩ ::
      forestLines source (level + 1) children

/-- The lines of the children of a node that stands at `level`. -/
def forestLines (source : Text) (level : Int) : List Node → List Text
  | [] => []
  | node :: rest => nodeLines source level node ++ forestLines source level rest

end

/-- The first line of a tree. A fragment is shown like a file that ends at its last leaf. -/
def rootLine (level : Int) : Tree → Text
  | .block block => blockLine level block
  | tree => margin level ++ "FILE".toList ++ rangeText 0 tree.stop

/-- The outline of a tree that stands at `level`. -/
def dump (source : Text) (level : Int) (tree : Tree) : Text :=
  Text.joined ['\n'] (rootLine level tree :: forestLines source level tree.children)

end BrightBlocks.Report
