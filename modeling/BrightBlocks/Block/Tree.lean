import BrightBlocks.Block.Kind
import BrightBlocks.Token.Basic

/-!
# Trees of blocks

A tree is a forest of leaf tokens and nested blocks. Leaves hold no text and
need not fit any source. Two views define what a forest contains: `leaves`, all
tokens from left to right, and `walk`, all blocks with every block before the
blocks inside it. Ranges and texts are derived from the leaves.
-/

namespace BrightBlocks

/-- A leaf token, or a block with its children. -/
inductive Node
  | leaf (token : Token)
  | block (kind : Block.Kind) (children : List Node) (closed singleLine : Bool)

/-- A block on its own. -/
structure Block where
  kind : Block.Kind
  children : List Node
  /-- Whether the block holds its own terminator. -/
  closed : Bool
  /-- Whether code follows `then` on the line of a conditional's header. -/
  singleLine : Bool

/-- The root of a source. It covers the whole source, also where no leaf does. -/
structure File where
  children : List Node
  length : Int

/-- A block as a child of another node. -/
def Block.node (block : Block) : Node :=
  .block block.kind block.children block.closed block.singleLine

mutual

/-- All tokens of a node, from left to right. -/
def Node.leaves : Node → List Token
  | .leaf token => [token]
  | .block _ children _ _ => Forest.leaves children

/-- All tokens of a forest, from left to right. -/
def Forest.leaves : List Node → List Token
  | [] => []
  | node :: rest => node.leaves ++ Forest.leaves rest

end

mutual

/-- All blocks of a node, each before the blocks inside it. -/
def Node.walk : Node → List Block
  | .leaf _ => []
  | .block kind children closed singleLine =>
    ⟨kind, children, closed, singleLine⟩ :: Forest.walk children

/-- All blocks of a forest, each before the blocks inside it. -/
def Forest.walk : List Node → List Block
  | [] => []
  | node :: rest => node.walk ++ Forest.walk rest

end

/-- The block that a node is, if it is one. -/
def Node.block? : Node → Option Block
  | .leaf _ => none
  | .block kind children closed singleLine => some ⟨kind, children, closed, singleLine⟩

namespace Forest

/-- The blocks at the top of a forest. -/
def blocks (forest : List Node) : List Block :=
  forest.filterMap Node.block?

/-- The offset of the first leaf, zero without leaves. -/
def start (forest : List Node) : Int :=
  match (leaves forest).head? with
  | some token => token.start
  | none => 0

/-- The offset after the last leaf, zero without leaves. -/
def stop (forest : List Node) : Int :=
  match (leaves forest).getLast? with
  | some token => token.stop
  | none => 0

/-- The texts of all leaves, one after the other. -/
def text (forest : List Node) (source : Text) : Text :=
  (leaves forest).flatMap (·.text source)

@[simp]
theorem leaves_append (left right : List Node) :
    leaves (left ++ right) = leaves left ++ leaves right := by
  induction left with
  | nil => rfl
  | cons node rest inductionHypothesis => simp [leaves, inductionHypothesis]

@[simp]
theorem leaves_map_leaf (tokens : List Token) : leaves (tokens.map Node.leaf) = tokens := by
  induction tokens with
  | nil => rfl
  | cons token rest inductionHypothesis => simp [leaves, Node.leaves, inductionHypothesis]

@[simp]
theorem walk_append (left right : List Node) :
    walk (left ++ right) = walk left ++ walk right := by
  induction left with
  | nil => rfl
  | cons node rest inductionHypothesis => simp [walk, inductionHypothesis]

@[simp]
theorem walk_map_leaf (tokens : List Token) : walk (tokens.map Node.leaf) = [] := by
  induction tokens with
  | nil => rfl
  | cons token rest inductionHypothesis => simp [walk, Node.walk, inductionHypothesis]

end Forest

namespace Block

/-- Where a block starts. -/
def start (block : Block) : Int :=
  Forest.start block.children

/-- Where a block ends. -/
def stop (block : Block) : Int :=
  Forest.stop block.children

/-- The part of the source between the ends of a block. -/
def slice (block : Block) (source : Text) : Text :=
  source.slice block.start block.stop

/-- The first line of a block, without carriage returns at its end. -/
def firstLine (block : Block) (source : Text) : Text :=
  (((block.slice source).before '\n').reverse.dropWhile (· = '\r')).reverse

end Block

mutual

/-- Two nodes are equal when they are built in the same way. -/
def Node.decEq : (left right : Node) → Decidable (left = right)
  | .leaf left, .leaf right =>
    if same : left = right then isTrue (congrArg Node.leaf same)
    else isFalse fun equal => same (Node.leaf.inj equal)
  | .block kind children closed singleLine, .block kind' children' closed' singleLine' =>
    if same : kind = kind' ∧ closed = closed' ∧ singleLine = singleLine' then
      match Forest.decEq children children' with
      | isTrue equal => isTrue (by rw [same.1, same.2.1, same.2.2, equal])
      | isFalse differ => isFalse fun equal => differ (Node.block.inj equal).2.1
    else
      isFalse fun equal =>
        have parts := Node.block.inj equal
        same ⟨parts.1, parts.2.2⟩
  | .leaf _, .block .. => isFalse nofun
  | .block .., .leaf _ => isFalse nofun

/-- Two forests are equal when their nodes are, one by one. -/
def Forest.decEq : (left right : List Node) → Decidable (left = right)
  | [], [] => isTrue rfl
  | left :: lefts, right :: rights =>
    match Node.decEq left right, Forest.decEq lefts rights with
    | isTrue head, isTrue tail => isTrue (by rw [head, tail])
    | isFalse differ, _ => isFalse fun equal => differ (List.cons.inj equal).1
    | _, isFalse differ => isFalse fun equal => differ (List.cons.inj equal).2
  | [], _ :: _ => isFalse nofun
  | _ :: _, [] => isFalse nofun

end

instance : DecidableEq Node := Node.decEq

deriving instance DecidableEq for Block

deriving instance DecidableEq for File

/--
What can stand at the top of a tree: a file, a block, or children that belong to
no node. Such a fragment starts where its first leaf does and ends where its
last one does.
-/
inductive Tree
  | file (file : File)
  | block (block : Block)
  | fragment (children : List Node)

namespace Tree

/-- The children at the top. -/
def children : Tree → List Node
  | .file root => root.children
  | .block root => root.children
  | .fragment children => children

/-- Where a tree starts. -/
def start : Tree → Int
  | .file _ => 0
  | tree => Forest.start tree.children

/-- Where a tree ends. -/
def stop : Tree → Int
  | .file root => root.length
  | tree => Forest.stop tree.children

/-- Whether two trees are files or blocks that are built in the same way. No fragment counts. -/
def same : Tree → Tree → Bool
  | .file left, .file right => left = right
  | .block left, .block right => left = right
  | _, _ => false

end Tree

end BrightBlocks
