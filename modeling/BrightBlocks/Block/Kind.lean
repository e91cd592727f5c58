import BrightBlocks.Text.Quoted

/-!
# Kinds of blocks

A block is opened by a word of its own and closed by `end` and that word, or by
a closing word written without a blank. `Kind.opener` and `Kind.closers` are the
two tables from which the vocabulary of the block structure is made.
-/

namespace BrightBlocks

/-- The construct that opened a block. -/
inductive Block.Kind
  | function
  | sub
  | conditional
  | forLoop
  | whileLoop
  | classBody
  | namespaceBody
  | tryBlock
  deriving DecidableEq, Repr

namespace Block.Kind

/-- All kinds, in the order in which they are listed. -/
def all : List Kind :=
  [function, sub, conditional, forLoop, whileLoop, classBody, namespaceBody, tryBlock]

/-- The printed name of a kind. -/
def name : Kind → String
  | function => "FUNCTION"
  | sub => "SUB"
  | conditional => "IF"
  | forLoop => "FOR"
  | whileLoop => "WHILE"
  | classBody => "CLASS"
  | namespaceBody => "NAMESPACE"
  | tryBlock => "TRY"

/-- The word that opens a block, and that closes it after `end`. -/
def opener : Kind → String
  | function => "function"
  | sub => "sub"
  | conditional => "if"
  | forLoop => "for"
  | whileLoop => "while"
  | classBody => "class"
  | namespaceBody => "namespace"
  | tryBlock => "try"

/-- The words that close a block on their own. -/
def closers : Kind → List String
  | function => ["endfunction"]
  | sub => ["endsub"]
  | conditional => ["endif"]
  | forLoop => ["endfor", "next"]
  | whileLoop => ["endwhile"]
  | classBody => ["endclass"]
  | namespaceBody => ["endnamespace"]
  | tryBlock => ["endtry"]

/-- A name that belongs to no block kind. -/
structure Unknown where
  name : String
  deriving DecidableEq, Repr

/-- The words for an unknown name. -/
def Unknown.message (unknown : Unknown) : Text :=
  Text.quoted unknown.name.toList ++ " is not a valid BlockKind".toList

/-- The kind that a name stands for. -/
def ofName (name : String) : Except Unknown Kind :=
  match all.find? (·.name = name) with
  | some kind => .ok kind
  | none => .error ⟨name⟩

/-- The kind of block that a word opens. -/
def ofOpener? (word : String) : Option Kind :=
  all.find? (·.opener = word)

end Block.Kind

end BrightBlocks
