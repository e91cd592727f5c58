import BrightBlocks.Block.Tree
import BrightBlocks.Outline.Pattern

/-!
# Folding

A block that spans several lines can be folded. In its place stands a short
label that is read off its first line, or its keyword alone where that line
does not have the usual form.
-/

namespace BrightBlocks.Outline

open Text

/-- The mark for what a label leaves out. -/
def ellipsis : Text := "...".toList

/-- How much of a parameter list a label shows. -/
def parametersLimit : Nat := 20

/-- How much of a condition a label shows. -/
def conditionLimit : Nat := 30

/-- Cuts a text that is longer than `limit` and marks the cut. -/
def shorten (text : Text) (limit : Nat) : Text :=
  if limit < text.length then text.take limit ++ ellipsis else text

/-- The name and the parameters in the header of a function or sub. -/
def signature? (keyword line : Text) : Option (Text × Text) :=
  search (fun text => do
    let (name, rest) ← keywordThenRun? isNameChar keyword text
    match trimLeft rest with
    | '(' :: parameters => some (name, trim (before parameters ')'))
    | _ => none) line

/-- The name that follows a keyword in a line. -/
def nameAfter? (accepts : Char → Bool) (keyword line : Text) : Option Text :=
  (search (keywordThenRun? accepts keyword) line).map (·.1)

/-- The condition between `if` and `then`, without blanks around it. -/
def condition? (line : Text) : Option Text :=
  search (fun text => do
    let rest ← afterKeyword? "if".toList text
    let blanks := rest.takeWhile isBlank
    let content := rest.dropWhile isBlank
    if blanks.isEmpty then none
    else
      match untilThen? content with
      | some condition => some (trim condition)
      | none =>
        if 3 ≤ blanks.length ∧ (afterKeyword? "then".toList content).isSome then some []
        else none) line

/-- The condition after `while`, without blanks around it. -/
def loopCondition? (line : Text) : Option Text :=
  search (fun text => do
    let rest ← afterBlanks? (← afterKeyword? "while".toList text)
    if rest.isEmpty then none else some (trim rest)) line

/-- The variable of a loop over the elements of a collection. -/
def eachVariable? (line : Text) : Option Text :=
  search (fun text => do
    let rest ← afterBlanks? (← afterKeyword? "for".toList text)
    return (← keywordThenRun? isNameChar "each".toList rest).1) line

/-- The variable of a loop that counts. -/
def countVariable? (line : Text) : Option Text :=
  search (fun text => do
    let (name, rest) ← keywordThenRun? isNameChar "for".toList text
    match trimLeft rest with
    | '=' :: _ => some name
    | _ => none) line

/-- The label for a keyword and the rest of the label, or for the keyword alone. -/
def keywordLabel (keyword : Text) (rest? : Option Text) : Text :=
  match rest? with
  | some rest => keyword ++ [' '] ++ rest ++ ellipsis
  | none => keyword ++ ellipsis

/-- The label of a function or sub. -/
def signatureLabel (keyword line : Text) : Text :=
  keywordLabel keyword ((signature? keyword line).map fun (name, parameters) =>
    name ++ ['('] ++ shorten parameters parametersLimit ++ [')'])

/-- The label for a block whose first line, without blanks around it, is `line`. -/
def label (kind : Block.Kind) (line : Text) : Text :=
  let keyword := kind.opener.toList
  match kind with
  | .function | .sub => signatureLabel keyword line
  | .classBody => keywordLabel keyword (nameAfter? isNameChar keyword line)
  | .namespaceBody => keywordLabel keyword (nameAfter? isPathChar keyword line)
  | .conditional => keywordLabel keyword ((condition? line).map (shorten · conditionLimit))
  | .whileLoop => keywordLabel keyword ((loopCondition? line).map (shorten · conditionLimit))
  | .forLoop =>
    match eachVariable? line with
    | some name => keywordLabel keyword (some ("each ".toList ++ name))
    | none => keywordLabel keyword (countVariable? line)
  | .tryBlock => keywordLabel keyword none

/-- The label that stands in place of a folded block. -/
def placeholder (source : Text) (block : Block) : Text :=
  label block.kind (trim (block.firstLine source))

/-- A part of the source that can be folded, and its label. -/
structure Region where
  start : Int
  stop : Int
  label : Text
  deriving DecidableEq, Repr

/-- Whether a block has a line break other than at its end. -/
def spansLines (source : Text) (block : Block) : Bool :=
  (trimRight (block.slice source)).contains '\n'

/-- The parts of a forest that can be folded, in the order of the walk. -/
def foldRegions (forest : List Node) (source : Text) : List Region :=
  ((Forest.walk forest).filter (spansLines source)).map fun block =>
    ⟨block.start, block.stop, placeholder source block⟩

end BrightBlocks.Outline
