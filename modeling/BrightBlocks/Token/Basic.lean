import BrightBlocks.Token.Kind

/-!
# Tokens

A token is a kind and the range of the source that it covers. It holds no text
of its own: whoever needs the text slices the source. A range need not fit the
source that it is read against.
-/

namespace BrightBlocks

/-- A lexical unit that covers the source from offset `start` up to `stop`. -/
structure Token where
  kind : Token.Kind
  start : Int
  stop : Int
  deriving DecidableEq, Repr

namespace Token

/-- The zero-width token that stands at the end of the input. -/
def endOfInput (offset : Int) : Token :=
  ⟨.endOfInput, offset, offset⟩

/-- The characters that a token covers. -/
def text (token : Token) (source : Text) : Text :=
  source.slice token.start token.stop

/-- Whether a token is white space that spans a line break. -/
def breaksLine (token : Token) (source : Text) : Bool :=
  token.kind = .whitespace && (token.text source).contains '\n'

/-- The one-line description of a token. -/
def description (token : Token) : Text :=
  "Token(".toList ++ token.kind.name.toList ++ ", ".toList ++ Text.ofInt token.start ++
    ", ".toList ++ Text.ofInt token.stop ++ ")".toList

end Token

end BrightBlocks
