import BrightBlocks.Proofs.Block.Movement

/-!
# Layouts of well-formed programs

`Laid source inside depth tokens nodes` says that tokens lay out nodes line by
line: every block starts with a header on a line of its own and has its own
terminator, and every line ends with a line break. What else stands on a line is
free, as long as it does not contribute a word that shapes blocks there. Words
after a dot or inside a phrase contribute nothing, so `m.next` and `exit for` may
stand anywhere.

The tokens need not spell what the layout means: only their roles count. Blocks
on a single line are no layouts.
-/

namespace BrightBlocks.Block

/-- Words that shape blocks in a body. -/
def shapingWords : List String :=
  openers ++ ["end"] ++ closers ++ elseWords

/-- Words that end a header or a condition: those that end it early, and `then` in a conditional. -/
def endingWords (phase : Phase) (kind : Kind) : List String :=
  if kind = .conditional then "then" :: phase.boundaries kind else phase.boundaries kind

/-- None of the tokens contributes a barred word after the significant word `previous`. -/
def Spares (source : Text) (barred : List String) : Option String → List Token → Prop
  | _, [] => True
  | previous, token :: rest =>
    (∀ word ∈ (role source token).structural previous, word ∉ barred) ∧
    Spares source barred ((role source token).follow previous) rest

/-- Tokens within a line that contribute none of the barred words. -/
structure Clear (source : Text) (barred : List String) (previous : Option String)
    (tokens : List Token) : Prop where
  unbroken : ∀ token ∈ tokens, role source token ≠ .lineBreak
  spares : Spares source barred previous tokens

/-- At most one token, of the wanted role. -/
inductive AtMostOne (source : Text) (wanted : Role) : List Token → Prop where
  | absent : AtMostOne source wanted []
  | present {token : Token} (found : role source token = wanted) :
      AtMostOne source wanted [token]

/-- What ends a line of its own accord: at most a gap, at most a comment, and the line break. -/
inductive LineEnd (source : Text) : List Token → Prop where
  | intro {gap comment : List Token} {lineBreak : Token} (blank : AtMostOne source .gap gap)
      (remark : AtMostOne source .comment comment) (ends : role source lineBreak = .lineBreak) :
      LineEnd source (gap ++ comment ++ [lineBreak])

/-- The rest of a line that holds a header or a condition, after the word `previous`. -/
inductive FrontLine (source : Text) (kind : Kind) (phase : Phase) (previous : Option String) :
    List Token → Prop where
  | bare {front : List Token} {lineBreak : Token}
      (clear : Clear source (endingWords phase kind) previous front)
      (ends : role source lineBreak = .lineBreak) :
      FrontLine source kind phase previous (front ++ [lineBreak])
  | withThen {front back : List Token} {word : Token} (conditional : kind = .conditional)
      (clear : Clear source (endingWords phase kind) previous front)
      (leads : (role source word).structural (trail source previous front) = some "then")
      (ends : LineEnd source back) :
      FrontLine source kind phase previous (front ++ word :: back)

/-- A line that starts another branch of a conditional. -/
inductive BranchLine (source : Text) : List Token → Prop where
  | plain {first : Token} {back : List Token} (starts : role source first = .word "else")
      (ends : LineEnd source back) :
      BranchLine source (first :: back)
  | elseIf {first second : Token} {gap condition : List Token}
      (starts : role source first = .word "else") (blank : AtMostOne source .gap gap)
      (goes_on : role source second = .word "if")
      (tested : FrontLine source .conditional .condition (some "if") condition) :
      BranchLine source (first :: (gap ++ second :: condition))
  | joined {first : Token} {condition : List Token} {word : String}
      (starts : role source first = .word word) (listed : word ∈ ["elseif", "elsif"])
      (tested : FrontLine source .conditional .condition (some word) condition) :
      BranchLine source (first :: condition)

/--
A spelling that closes a block, as `Outline.closingSpellings` lists them: `end` and the word that
opened the block, or a closing word.
-/
inductive Closing (source : Text) (kind : Kind) : List Token → Prop where
  | phrase {first last : Token} {gap : List Token} (starts : role source first = .word "end")
      (blank : AtMostOne source .gap gap) (names : role source last = .word kind.opener) :
      Closing source kind (first :: (gap ++ [last]))
  | word {token : Token} {small : String} (spelled : role source token = .word small)
      (closes : small ∈ kind.closers) :
      Closing source kind [token]

/--
Tokens that lay out nodes inside a block of the given kind, or in the file. Blocks nest no deeper
than `depth`. All of them are closed, and none is on a single line.
-/
inductive Laid (source : Text) : Option Kind → Nat → List Token → List Node → Prop where
  | nil {inside : Option Kind} {depth : Nat} : Laid source inside depth [] []
  | line {inside : Option Kind} {depth : Nat} {front tokens : List Token} {lineBreak : Token}
      {nodes : List Node} (clear : Clear source shapingWords none front)
      (ends : role source lineBreak = .lineBreak) (more : Laid source inside depth tokens nodes) :
      Laid source inside depth (front ++ lineBreak :: tokens)
        (leafNodes (front ++ [lineBreak]) ++ nodes)
  | branch {depth : Nat} {front tokens : List Token} {nodes : List Node}
      (starts : BranchLine source front)
      (more : Laid source (some .conditional) depth tokens nodes) :
      Laid source (some .conditional) depth (front ++ tokens) (leafNodes front ++ nodes)
  | block {inside : Option Kind} {depth : Nat} {kind : Kind} {opener lineBreak : Token}
      {header body back tokens : List Token} {children nodes : List Node}
      (opens : role source opener = .word kind.opener)
      (headed : FrontLine source kind .opening (some kind.opener) header)
      (inner : Laid source (some kind) depth body children)
      (closes : Closing source kind back) (ends : role source lineBreak = .lineBreak)
      (more : Laid source inside (depth + 1) tokens nodes) :
      Laid source inside (depth + 1) (opener :: header ++ body ++ back ++ lineBreak :: tokens)
        (.block kind (leafNodes (opener :: header) ++ children ++ leafNodes back) true false ::
          .leaf lineBreak :: nodes)

/-! ## Deciding whether a line is clear -/

instance Spares.decide (source : Text) (barred : List String) :
    (previous : Option String) → (tokens : List Token) →
      Decidable (Spares source barred previous tokens)
  | _, [] => isTrue trivial
  | previous, token :: rest =>
    have := Spares.decide source barred ((role source token).follow previous) rest
    inferInstanceAs (Decidable (_ ∧ _))

instance (source : Text) (barred : List String) (previous : Option String)
    (tokens : List Token) : Decidable (Clear source barred previous tokens) :=
  decidable_of_iff
    ((∀ token ∈ tokens, role source token ≠ .lineBreak) ∧ Spares source barred previous tokens)
    ⟨fun both => ⟨both.1, both.2⟩, fun clear => ⟨clear.unbroken, clear.spares⟩⟩

end BrightBlocks.Block
