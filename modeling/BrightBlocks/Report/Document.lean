import BrightBlocks.Block.Tree
import BrightBlocks.Report.Json

/-!
# Trees as JSON

A leaf has its kind and range, a block its kind, range, flags and children, and
a file is written like a block without flags. With a source at hand every leaf
also has its text.
-/

namespace BrightBlocks.Report

/-- The fields of a range. -/
def rangeFields (start stop : Int) : List (String × Json) :=
  [("start", .number start), ("end", .number stop)]

/-- A leaf as JSON. -/
def leafDocument (source : Option Text) (token : Token) : Json :=
  .object <|
    ("token", .string token.kind.name.toList) :: rangeFields token.start token.stop ++
      match source with
      | some source => [("text", .string (token.text source))]
      | none => []

/-- A block as JSON, with its children already in this form. -/
def blockFields (block : Block) (children : List Json) : Json :=
  .object <|
    ("kind", .string block.kind.name.toList) :: rangeFields block.start block.stop ++
      [("closed", .flag block.closed), ("single_line", .flag block.singleLine),
        ("children", .array children)]

mutual

/-- A node as JSON. -/
def nodeDocument (source : Option Text) : Node → Json
  | .leaf token => leafDocument source token
  | .block kind children closed singleLine =>
    blockFields ⟨kind, children, closed, singleLine⟩ (forestDocuments source children)

/-- The nodes of a forest as JSON. -/
def forestDocuments (source : Option Text) : List Node → List Json
  | [] => []
  | node :: rest => nodeDocument source node :: forestDocuments source rest

end

/-- A block as JSON. -/
def blockDocument (source : Option Text) (block : Block) : Json :=
  blockFields block (forestDocuments source block.children)

/-- A file as JSON. -/
def fileDocument (source : Option Text) (file : File) : Json :=
  .object <|
    ("kind", .string "FILE".toList) :: rangeFields 0 file.length ++
      [("children", .array (forestDocuments source file.children))]

/-- A file or a block as JSON. A fragment has no such form. -/
def document? (source : Option Text) : Tree → Option Json
  | .file file => some (fileDocument source file)
  | .block block => some (blockDocument source block)
  | .fragment _ => none

end BrightBlocks.Report
