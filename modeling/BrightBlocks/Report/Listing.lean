import BrightBlocks.Block.Tree
import BrightBlocks.Text.Quoted

/-!
# Short descriptions

A list of tokens has a line for each token, with the kinds in a column. Trees
have a description on one line, which names at most three of the blocks inside
a block.
-/

namespace BrightBlocks.Report

/-- The line of a token: its kind, its range and its text between quotes. -/
def tokenLine (source : Text) (token : Token) : Text :=
  Text.padRight token.kind.name.toList 16 ++ " [".toList ++ Text.ofInt token.start ++
    ", ".toList ++ Text.ofInt token.stop ++ ") ".toList ++ Text.quoted (token.text source)

/-- The lines of a list of tokens. -/
def tokenList (source : Text) (tokens : List Token) : Text :=
  Text.joined ['\n'] (tokens.map (tokenLine source))

/-- How many of the blocks inside a block its description names. -/
def namedBlocks : Nat := 3

/-- The description of a block, with the descriptions of the blocks inside it. -/
def describeBlock (kind : Block.Kind) (closed singleLine : Bool) (nested : List Text) : Text :=
  let inner :=
    if nested.isEmpty then []
    else
      let shown := nested.take namedBlocks ++
        if namedBlocks < nested.length then ["...".toList] else []
      ["blocks=[".toList ++ Text.joined ", ".toList shown ++ "]".toList]
  let parts :=
    [kind.name.toList] ++ (if closed then ["closed".toList] else []) ++
      (if singleLine then ["single_line".toList] else []) ++ inner
  "BlockNode(".toList ++ Text.joined ", ".toList parts ++ ")".toList

mutual

/-- The descriptions of the blocks at the top of a node: one for a block, none for a leaf. -/
def describeNode : Node → List Text
  | .leaf _ => []
  | .block kind children closed singleLine =>
    [describeBlock kind closed singleLine (describeForest children)]

/-- The descriptions of the blocks at the top of a forest. -/
def describeForest : List Node → List Text
  | [] => []
  | node :: rest => describeNode node ++ describeForest rest

end

/-- The description of a block. -/
def blockDescription (block : Block) : Text :=
  describeBlock block.kind block.closed block.singleLine (describeForest block.children)

/-- The description of a file: how many blocks and leaves stand at its top. -/
def fileDescription (file : File) : Text :=
  let blocks := (Forest.blocks file.children).length
  "FileNode(blocks=".toList ++ Text.ofInt blocks ++ ", leaves=".toList ++
    Text.ofInt (file.children.length - blocks) ++ ")".toList

/-- The description of a file or a block. A fragment has none. -/
def description? : Tree → Option Text
  | .file file => some (fileDescription file)
  | .block block => some (blockDescription block)
  | .fragment _ => none

end BrightBlocks.Report
