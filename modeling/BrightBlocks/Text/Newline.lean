import BrightBlocks.Text.Basic

/-!
# Line ends of files

Text read from a file ends its lines with a line feed alone, whichever of the
three conventions the file follows.
-/

namespace BrightBlocks.Text

/-- Replaces a carriage return, with the line feed after it if there is one, by a line feed. -/
def unifyNewlines : Text → Text
  | [] => []
  | '\r' :: '\n' :: rest => '\n' :: unifyNewlines rest
  | char :: rest => (if char = '\r' then '\n' else char) :: unifyNewlines rest

end BrightBlocks.Text
