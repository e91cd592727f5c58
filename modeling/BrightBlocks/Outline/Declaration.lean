import BrightBlocks.Outline.Name

/-!
# Declarations

Named functions and subs are declarations. They are looked up without regard to
case, in the file at hand first, and in all other files, by the order of their
paths, only if that file has none.
-/

namespace BrightBlocks.Outline

/-- A named function or sub. -/
structure Declaration where
  name : Text
  kind : Block.Kind
  start : Int
  stop : Int
  path : Option Text
  deriving DecidableEq, Repr

/-- Whether blocks of a kind are declarations once they have a name. -/
def declares : Block.Kind → Bool
  | .function | .sub => true
  | _ => false

/-- The declaration that a block makes. -/
def declaration? (source : Text) (path : Option Text) (block : Block) : Option Declaration :=
  if declares block.kind then
    (name? source block).map (⟨·, block.kind, block.start, block.stop, path⟩)
  else
    none

/-- All declarations of a forest, in the order of the walk. -/
def declarations (forest : List Node) (source : Text) (path : Option Text) : List Declaration :=
  (Forest.walk forest).filterMap (declaration? source path)

/-- The declarations of a set of files. -/
abbrev Index := List (Text × List Declaration)

/-- The declarations with a name, given in small letters. -/
def withName (wanted : Text) (found : List Declaration) : List Declaration :=
  found.filter (·.name.lowercase = wanted)

/-- Finds the declarations of a name, seen from the file `current`. -/
def findDeclarations (name current : Text) (index : Index) : List Declaration :=
  let wanted := name.lowercase
  let here := withName wanted ((index.lookup current).getD [])
  if here.isEmpty then
    ((index.mergeSort fun left right => ¬ right.1 < left.1).filter (·.1 ≠ current)).flatMap
      fun (_, found) => withName wanted found
  else
    here

end BrightBlocks.Outline
