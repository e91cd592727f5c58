import BrightBlocks.Text.Quoted

/-!
# Kinds of tokens

The lexical categories are a closed set. Each has a name in capitals, under
which it is printed and read back.
-/

namespace BrightBlocks

/-- The lexical category of a token. -/
inductive Token.Kind
  | keyword
  | typeKeyword
  | builtinFunction
  | identifier
  | stringLiteral
  | numberLiteral
  | booleanLiteral
  | lineComment
  | remComment
  | operator
  | leftParen
  | rightParen
  | leftBrace
  | rightBrace
  | leftBracket
  | rightBracket
  | dot
  | comma
  | colon
  | whitespace
  | badCharacter
  | endOfInput
  deriving DecidableEq, Repr

namespace Token.Kind

/-- All kinds, in the order in which they are listed. -/
def all : List Kind :=
  [keyword, typeKeyword, builtinFunction, identifier, stringLiteral, numberLiteral,
    booleanLiteral, lineComment, remComment, operator, leftParen, rightParen, leftBrace,
    rightBrace, leftBracket, rightBracket, dot, comma, colon, whitespace, badCharacter,
    endOfInput]

/-- The printed name of a kind. -/
def name : Kind → String
  | keyword => "KEYWORD"
  | typeKeyword => "TYPE_KEYWORD"
  | builtinFunction => "BUILTIN_FUNCTION"
  | identifier => "IDENTIFIER"
  | stringLiteral => "STRING_LITERAL"
  | numberLiteral => "NUMBER_LITERAL"
  | booleanLiteral => "BOOLEAN_LITERAL"
  | lineComment => "LINE_COMMENT"
  | remComment => "REM_COMMENT"
  | operator => "OPERATOR"
  | leftParen => "LPAREN"
  | rightParen => "RPAREN"
  | leftBrace => "LBRACE"
  | rightBrace => "RBRACE"
  | leftBracket => "LBRACKET"
  | rightBracket => "RBRACKET"
  | dot => "DOT"
  | comma => "COMMA"
  | colon => "COLON"
  | whitespace => "WHITESPACE"
  | badCharacter => "BAD_CHARACTER"
  | endOfInput => "EOF"

/-- A name that belongs to no token kind. -/
structure Unknown where
  name : String
  deriving DecidableEq, Repr

/-- The words for an unknown name. -/
def Unknown.message (unknown : Unknown) : Text :=
  Text.quoted unknown.name.toList ++ " is not a valid TokenKind".toList

/-- The kind that a name stands for. -/
def ofName (name : String) : Except Unknown Kind :=
  match all.find? (·.name = name) with
  | some kind => .ok kind
  | none => .error ⟨name⟩

/-- Whether tokens of the kind are words: names, keywords and the constants that look like them. -/
def isWord : Kind → Bool
  | keyword | typeKeyword | builtinFunction | identifier | booleanLiteral => true
  | _ => false

/-- Whether tokens of the kind are comments. -/
def isComment : Kind → Bool
  | lineComment | remComment => true
  | _ => false

end Token.Kind

end BrightBlocks
