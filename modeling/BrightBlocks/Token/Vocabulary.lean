import BrightBlocks.Text.Lowercase
import BrightBlocks.Token.Kind

/-!
# Words and characters with a meaning of their own

The vocabulary sorts words into keywords, type keywords, constants and builtin
functions. All entries are in small letters, and a word is looked up by its
small form. Where a word stands in several sets the stronger one decides:
keywords, type keywords, constants, builtin functions, in this order.
-/

namespace BrightBlocks.Token

/-- Words of control flow and structure. -/
def keywords : List String :=
  ["if", "then", "else", "elseif", "elsif", "endif",
    "for", "to", "step", "next", "each", "endfor", "exitfor",
    "while", "endwhile", "exitwhile",
    "function", "endfunction", "sub", "endsub",
    "return", "exit", "goto", "stop",
    "and", "or", "not", "mod",
    "as", "in", "dim", "let", "print", "run",
    "class", "endclass", "namespace", "endnamespace",
    "interface", "implements", "extends",
    "public", "private", "protected", "override",
    "new", "import", "library", "alias",
    "try", "catch", "endtry", "finally", "throw",
    "continue", "continuefor", "continuewhile",
    "enum", "endenum", "const",
    "m", "super", "me", "global"]

/-- Names of types. -/
def typeKeywords : List String :=
  ["boolean", "integer", "longinteger", "float", "double",
    "string", "object", "function", "dynamic", "brsub",
    "interface"]

/-- Names of fixed values. -/
def constants : List String :=
  ["true", "false", "invalid"]

/-- Names of functions that every program can call. -/
def builtinFunctions : List String :=
  ["abs", "atn", "cdbl", "cint", "cos", "csng", "exp", "fix", "int",
    "log", "rnd", "sgn", "sin", "sqr", "tan",
    "createobject", "type", "getglobalaa", "box", "run", "eval",
    "getlastruncompileerror", "getlastrunruntimeerror",
    "sleep", "wait", "getinterface", "findmemberfunction", "uptime",
    "rebootsystem", "listdir", "readasciifile", "writeasciifile",
    "copyfile", "movefile", "matchfiles", "deletefile",
    "deletedirectory", "createdirectory", "formatdrive", "strtoi",
    "rungarbagecollector", "parsejson", "formatjson", "tr",
    "ucase", "lcase", "asc", "chr", "instr", "left", "len", "mid",
    "right", "str", "stri", "string", "stringi", "val", "substitute"]

/-- The kind of a word in small letters. -/
def kindOfSmallWord (word : String) : Kind :=
  if word ∈ keywords then .keyword
  else if word ∈ typeKeywords then .typeKeyword
  else if word ∈ constants then .booleanLiteral
  else if word ∈ builtinFunctions then .builtinFunction
  else .identifier

/-- The small form of a word. -/
def smallWord (word : Text) : String :=
  String.ofList word.lowercase

/--
The kind of a word. A type designator at its end is part of the word, so a
builtin function with a designator is an identifier.
-/
def kindOfWord (word : Text) : Kind :=
  kindOfSmallWord (smallWord word)

/-- Characters that may end a name and tell its type. -/
def typeDesignators : List Char :=
  ['$', '%', '!', '#', '&', '@']

/-- Characters that operators are made of. -/
def operatorChars : List Char :=
  ['+', '-', '*', '/', '\\', '^', '=', '<', '>', '&']

/-- Characters that are a token on their own, with the kind of that token. -/
def punctuation : List (Char × Kind) :=
  [('(', .leftParen), (')', .rightParen), ('\x7b', .leftBrace), ('\x7d', .rightBrace),
    ('[', .leftBracket), (']', .rightBracket), ('.', .dot), (',', .comma), (':', .colon)]

end BrightBlocks.Token
