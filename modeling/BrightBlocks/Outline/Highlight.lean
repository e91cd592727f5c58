import BrightBlocks.Token.Kind

/-!
# Highlighting

Every kind of token that is not shown as plain text has a display category.
-/

namespace BrightBlocks.Outline

/-- The display category of a token kind, nothing for plain text. -/
def displayCategory : Token.Kind → Option String
  | .keyword => some "keyword"
  | .typeKeyword => some "type_keyword"
  | .builtinFunction => some "builtin_function"
  | .identifier => some "identifier"
  | .stringLiteral => some "string"
  | .numberLiteral | .booleanLiteral => some "number"
  | .lineComment => some "comment"
  | .remComment => some "rem_comment"
  | .operator => some "operator"
  | .leftParen | .rightParen => some "parentheses"
  | .leftBrace | .rightBrace => some "braces"
  | .leftBracket | .rightBracket => some "brackets"
  | .dot => some "dot"
  | .comma => some "comma"
  | .colon | .whitespace | .badCharacter | .endOfInput => none

end BrightBlocks.Outline
