import BrightBlocks.Text.Basic

/-!
# Flags of the command

Every flag has one or two spellings. A spelling of one dash and one letter can
be written together with others, a spelling of two dashes can be cut short as
long as one flag only is meant.
-/

namespace BrightBlocks.Command

/-- The flags of the command. -/
inductive Flag
  | help
  | literal
  | tokens
  | json
  | out
  | limit
  | verbose
  deriving DecidableEq, Repr

namespace Flag

/-- All flags, in the order in which they are listed. -/
def all : List Flag :=
  [help, literal, tokens, json, out, limit, verbose]

/-- The spellings of a flag, the short one in front. -/
def spellings : Flag → List Text
  | help => ["-h".toList, "--help".toList]
  | literal => ["-s".toList, "--string".toList]
  | tokens => ["--tokens".toList]
  | json => ["--json".toList]
  | out => ["-o".toList, "--out".toList]
  | limit => ["--max-depth".toList]
  | verbose => ["--verbose".toList]

/-- The name under which messages speak of a flag. -/
def name (flag : Flag) : Text :=
  Text.joined ['/'] flag.spellings

/-- Whether a value belongs to a flag. -/
def takesValue : Flag → Bool
  | out | limit => true
  | _ => false

/-- All spellings with their flags, in the order in which they are listed. -/
def table : List (Text × Flag) :=
  all.flatMap fun flag => flag.spellings.map (·, flag)

/-- The flag with a spelling. -/
def ofSpelling? (spelling : Text) : Option Flag :=
  table.lookup spelling

/-- The flag with a spelling of one dash and a letter. -/
def ofLetter? (letter : Char) : Option Flag :=
  ofSpelling? ['-', letter]

end Flag

end BrightBlocks.Command
