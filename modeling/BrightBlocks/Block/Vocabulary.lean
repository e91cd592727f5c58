import BrightBlocks.Block.Kind
import BrightBlocks.Token.Basic
import BrightBlocks.Token.Vocabulary

/-!
# Words that shape blocks

All words are in small letters. What a token means for the block structure is
its `Role`; a word counts only where it is structural, which the last
significant word before it on the line decides.
-/

namespace BrightBlocks.Block

/-- All words that open a block. -/
def openers : List String :=
  Kind.all.map Kind.opener

/-- All words that close a block on their own, of whatever kind. -/
def closers : List String :=
  Kind.all.flatMap Kind.closers

/-- Words that start another branch of a conditional. -/
def elseWords : List String :=
  ["else", "elseif", "elsif"]

/--
Words that end the header of a block early: every opener, `end`, and the block's
own closers. The closers of other kinds are names there.
-/
def headerBoundaries (kind : Kind) : List String :=
  openers ++ ["end"] ++ kind.closers

/-- Words that end the condition of a branch early. -/
def conditionBoundaries : List String :=
  headerBoundaries .conditional ++ ["else"]

/--
Words, and the dot of a member, after which a word opens and closes nothing. The
forms with a number sign belong to conditional compilation.
-/
def phraseLeads : List String :=
  [".", "end", "exit", "continue", "as", "#end", "#else"]

/-- What a token means for the block structure. -/
inductive Role
  | word (small : String)
  | lineBreak
  | gap
  | comment
  | dot
  | endOfInput
  | other
  deriving DecidableEq, Repr

/-- The role of a token that is read against `source`. -/
def role (source : Text) (token : Token) : Role :=
  match token.kind with
  | .endOfInput => .endOfInput
  | .dot => .dot
  | .whitespace => if token.breaksLine source then .lineBreak else .gap
  | kind =>
    if kind.isWord then .word (Token.smallWord (token.text source))
    else if kind.isComment then .comment
    else .other

/-- A word token spells the word that its role says, in small letters. -/
theorem smallWord_of_role {source : Text} {token : Token} {word : String}
    (spelled : role source token = .word word) : Token.smallWord (token.text source) = word := by
  obtain ⟨kind, start, stop⟩ := token
  cases kind <;> simp [role, Token.Kind.isWord, Token.Kind.isComment] at spelled
  all_goals first | exact spelled | (split at spelled <;> contradiction)

namespace Role

/-- The small form of a word, nothing for any other role. -/
def word? : Role → Option String
  | word small => some small
  | _ => none

/--
The last significant word once a token has been passed. A line break forgets it,
gaps and comments keep it, the dot of a member counts as a word, and anything
that is no word clears it.
-/
def follow (role : Role) (previous : Option String) : Option String :=
  match role with
  | lineBreak => none
  | gap | comment => previous
  | dot => some "."
  | word small => some small
  | endOfInput | other => none

/-- The word that a token contributes to the structure after the significant word `previous`. -/
def structural (role : Role) (previous : Option String) : Option String :=
  if previous.any (· ∈ phraseLeads) then none else role.word?

end Role

end BrightBlocks.Block
