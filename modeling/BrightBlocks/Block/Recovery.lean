import BrightBlocks.Block.Body
import BrightBlocks.Token.Reader

/-!
# Recovering the blocks of a source

The entry points: the blocks of any list of tokens, and those of a source that
is tokenized first. The nesting limit is at least one; openers that would nest
deeper are kept as leaves.
-/

namespace BrightBlocks.Block

/-- The nesting limit where none is given. -/
def defaultLimit : Nat := 100

/-- A nesting limit that leaves no room for a block. -/
structure LimitFault where
  limit : Int
  deriving DecidableEq, Repr

/-- The words for a bad limit. -/
def LimitFault.message (fault : LimitFault) : Text :=
  "max_depth must be at least 1, got ".toList ++ Text.ofInt fault.limit

/-- Accepts a nesting limit. -/
def checkLimit (limit : Int) : Except LimitFault Nat :=
  if 1 ≤ limit then .ok limit.toNat else .error ⟨limit⟩

/-- Recovers the blocks of a list of tokens, which need not fit the source. -/
def recover (source : Text) (limit : Nat) (tokens : List Token) : File × Cursor :=
  file source limit (Cursor.ofTokens tokens)

/-- Recovers the blocks of a source. -/
def parse (source : Text) (limit : Nat) : File :=
  (recover source limit (Token.tokenize source)).1

end BrightBlocks.Block
