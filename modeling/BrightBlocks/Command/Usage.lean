import BrightBlocks.Command.Flag
import BrightBlocks.Text.Quoted

/-!
# Usage

What the command says about itself, and why it refuses a list of arguments.
-/

namespace BrightBlocks.Command

/-- The short description of the arguments. -/
def usageText : Text :=
  ("usage: brs [-h] [-s] [--tokens | --json] [-o OUTFILE] [--max-depth MAX_DEPTH]\n" ++
    "           [--verbose]\n" ++
    "           source\n").toList

/-- The long description of the arguments. -/
def helpText : Text :=
  usageText ++
    ("\n" ++
      "positional arguments:\n" ++
      "  source                Filename or raw source (with -s)\n" ++
      "\n" ++
      "options:\n" ++
      "  -h, --help            show this help message and exit\n" ++
      "  -s, --string          Interpret source as literal string\n" ++
      "  --tokens              Print tokens\n" ++
      "  --json                Print tree as JSON\n" ++
      "  -o OUTFILE, --out OUTFILE\n" ++
      "                        Output to file\n" ++
      "  --max-depth MAX_DEPTH\n" ++
      "                        Nesting bound before blocks are kept flat (default:\n" ++
      "                        100)\n" ++
      "  --verbose             Log parser decisions\n").toList

/-- Why a list of arguments is refused. -/
inductive UsageFault
  | missingSource
  | missingValue (flag : Flag)
  | notAnInteger (flag : Flag) (value : Text)
  | unwantedValue (flag : Flag) (value : Text)
  | conflict (flag earlier : Flag)
  | ambiguous (argument : Text) (spellings : List Text)
  | unrecognized (arguments : List Text)
  | limitTooSmall
  deriving DecidableEq, Repr

namespace UsageFault

/-- A message about a flag. -/
def aboutFlag (flag : Flag) (words : Text) : Text :=
  "argument ".toList ++ flag.name ++ ": ".toList ++ words

/-- The words for a refusal. -/
def message : UsageFault → Text
  | missingSource => "the following arguments are required: source".toList
  | missingValue flag => aboutFlag flag "expected one argument".toList
  | notAnInteger flag value => aboutFlag flag ("invalid int value: ".toList ++ Text.quoted value)
  | unwantedValue flag value =>
    aboutFlag flag ("ignored explicit argument ".toList ++ Text.quoted value)
  | conflict flag earlier =>
    aboutFlag flag ("not allowed with argument ".toList ++ earlier.name)
  | ambiguous argument spellings =>
    "ambiguous option: ".toList ++ argument ++ " could match ".toList ++
      Text.joined ", ".toList spellings
  | unrecognized arguments =>
    "unrecognized arguments: ".toList ++ Text.joined [' '] arguments
  | limitTooSmall => "--max-depth must be at least 1".toList

/-- All that is printed for a refusal. -/
def report (fault : UsageFault) : Text :=
  usageText ++ "brs: error: ".toList ++ fault.message ++ ['\n']

end UsageFault

/-- The words for a limit that has been taken back, which nothing can be compared with. -/
def noLimitText : Text :=
  "'<' not supported between instances of 'list' and 'int'".toList

end BrightBlocks.Command
