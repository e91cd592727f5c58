import BrightBlocks.Text.Hexadecimal

/-!
# JSON

Values are written with two blanks of indentation a level, one element or field
a line, and an empty array or object on one line. The text is plain ASCII: all
characters but the printable ones of ASCII are written as escapes, those above
U+FFFF as the two halves of a surrogate pair.
-/

namespace BrightBlocks

/-- A JSON value without fractions and nulls. The fields of an object keep their order. -/
inductive Json
  | number (value : Int)
  | flag (value : Bool)
  | string (value : Text)
  | array (items : List Json)
  | object (fields : List (String × Json))

namespace Json

/-- The escape of a code unit. -/
def escapeUnit (value : Nat) : Text :=
  '\\' :: 'u' :: Text.hex 4 value

/-- The form of one character of a string. -/
def quotedChar (char : Char) : Text :=
  let point := char.toNat
  if char = '"' ∨ char = '\\' then ['\\', char]
  else if char = '\n' then ['\\', 'n']
  else if char = '\r' then ['\\', 'r']
  else if char = '\t' then ['\\', 't']
  else if point = 0x08 then ['\\', 'b']
  else if point = 0x0C then ['\\', 'f']
  else if 0x20 ≤ point ∧ point < 0x7F then [char]
  else if point < 0x10000 then escapeUnit point
  else
    escapeUnit (0xD800 + (point - 0x10000) / 0x400) ++
      escapeUnit (0xDC00 + (point - 0x10000) % 0x400)

/-- A string between quotes. -/
def quoted (text : Text) : Text :=
  '"' :: text.flatMap quotedChar ++ ['"']

/-- A line break and the indentation of a level. -/
def newLine (level : Nat) : Text :=
  '\n' :: List.replicate (2 * level) ' '

/-- Wraps elements that are already written, one on each line. -/
def wrapped (opening closing : Char) (level : Nat) : List Text → Text
  | [] => [opening, closing]
  | first :: rest =>
    let lead := newLine (level + 1)
    opening :: lead ++ Text.joined (',' :: lead) (first :: rest) ++ newLine level ++ [closing]

mutual

/-- Writes a value whose first line is already indented to `level`. -/
def render (level : Nat) : Json → Text
  | number value => Text.ofInt value
  | flag value => (if value then "true" else "false").toList
  | string value => quoted value
  | array items => wrapped '[' ']' level (renderItems level items)
  | object fields => wrapped '\x7b' '\x7d' level (renderFields level fields)

/-- Writes the elements of an array that stands at `level`. -/
def renderItems (level : Nat) : List Json → List Text
  | [] => []
  | item :: rest => render (level + 1) item :: renderItems level rest

/-- Writes the fields of an object that stands at `level`. -/
def renderFields (level : Nat) : List (String × Json) → List Text
  | [] => []
  | (name, value) :: rest =>
    (quoted name.toList ++ ": ".toList ++ render (level + 1) value) :: renderFields level rest

end

end Json

end BrightBlocks
