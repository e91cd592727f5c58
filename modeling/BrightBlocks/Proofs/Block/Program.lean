import BrightBlocks.Proofs.Block.Recognition

/-!
# Programs with conditionals on single lines

`Arranged` says that tokens are a program of blocks on lines of their own, each with its own
closer, in which `if .. then ..` may also stand on a single line. It lists what is written as
`Construct`s, in the order of the openers. Where conditionals on a single line may stand, and
whether they are counted as levels of nesting, is a parameter (`OneLinerRule`).
-/

namespace BrightBlocks.Block

/-- A block as it is written: up to its own closer, or on a single line. -/
structure Construct where
  kind : Kind
  tokens : List Token
  singleLine : Bool
  deriving DecidableEq, Repr

/-- What a construct is recovered as. A conditional on a single line holds at least its line. -/
structure Construct.Recovered (construct : Construct) (block : Block) : Prop where
  kind : block.kind = construct.kind
  singleLine : block.singleLine = construct.singleLine
  closed : block.closed = !construct.singleLine
  front : construct.tokens <+: Forest.leaves block.children
  whole : construct.singleLine = false → Forest.leaves block.children = construct.tokens

/-- Where conditionals on a single line may stand, and whether what follows in the same body counts
as nested in them. -/
structure OneLinerRule where
  within : Option Kind → Prop
  nests : Bool

/-- They may stand in every body, and are not counted for what follows. -/
def OneLinerRule.everywhere : OneLinerRule := ⟨fun _ => True, false⟩

/-- They may not stand directly in a conditional, and are counted for what follows. -/
def OneLinerRule.outsideConditionals : OneLinerRule := ⟨(· ≠ some .conditional), true⟩

/-- What a line stops with: a line break, or nothing at the end of the file. -/
inductive LineStop (source : Text) : Option Kind → List Token → List Token → Prop where
  | lineBreak {inside : Option Kind} {token : Token} {rest : List Token}
      (breaks : role source token = .lineBreak) : LineStop source inside [token] rest
  | endOfFile : LineStop source none [] []

/--
Tokens that are lines of a program, inside a block of the given kind or in the file, and the blocks
that are written in them. Blocks nest no deeper than `depth`.
-/
inductive Arranged (rule : OneLinerRule) (source : Text) :
    Option Kind → Nat → List Token → List Construct → Prop where
  | nil {inside : Option Kind} {depth : Nat} : Arranged rule source inside depth [] []
  | indent {inside : Option Kind} {depth : Nat} {gap : Token} {tokens : List Token}
      {constructs : List Construct} (blank : role source gap = .gap)
      (more : Arranged rule source inside depth tokens constructs) :
      Arranged rule source inside depth (gap :: tokens) constructs
  | line {inside : Option Kind} {depth : Nat} {front stop tokens : List Token}
      {constructs : List Construct} (clear : Clear source shapingWords none front)
      (stops : LineStop source inside stop tokens)
      (more : Arranged rule source inside depth tokens constructs) :
      Arranged rule source inside depth (front ++ (stop ++ tokens)) constructs
  | branch {depth : Nat} {front tokens : List Token} {constructs : List Construct}
      (starts : BranchLine source front)
      (more : Arranged rule source (some .conditional) depth tokens constructs) :
      Arranged rule source (some .conditional) depth (front ++ tokens) constructs
  | oneLiner {inside : Option Kind} {depth : Nat} {opener word : Token}
      {condition statement stop tokens : List Token} {constructs : List Construct}
      (allowed : rule.within inside) (opens : role source opener = .word "if")
      (tested : Clear source (endingWords .opening .conditional) (some "if") condition)
      (leads : (role source word).structural (trail source (some "if") condition) = some "then")
      (acts : codeOnLine source statement = true)
      (clear : Clear source shapingWords (some "then") statement)
      (stops : LineStop source inside stop tokens)
      (more : Arranged rule source inside (if rule.nests then depth else depth + 1) tokens
        constructs) :
      Arranged rule source inside (depth + 1)
        (opener :: (condition ++ word :: (statement ++ (stop ++ tokens))))
        (⟨.conditional, opener :: (condition ++ word :: statement), true⟩ :: constructs)
  | block {inside : Option Kind} {depth : Nat} {kind : Kind} {opener : Token}
      {header body back tail stop tokens : List Token} {inner constructs : List Construct}
      (opens : role source opener = .word kind.opener)
      (headed : FrontLine source kind .opening (some kind.opener) header)
      (nested : Arranged rule source (some kind) depth body inner)
      (closes : Closing source kind back)
      (clear : Clear source shapingWords (trail source none back) tail)
      (stops : LineStop source inside stop tokens)
      (more : Arranged rule source inside (depth + 1) tokens constructs) :
      Arranged rule source inside (depth + 1)
        (opener :: (header ++ (body ++ (back ++ (tail ++ (stop ++ tokens))))))
        (⟨kind, opener :: (header ++ (body ++ back)), false⟩ :: (inner ++ constructs))

theorem Arranged.of_eq {rule : OneLinerRule} {source : Text} {inside : Option Kind} {depth : Nat}
    {tokens spelled : List Token} {constructs : List Construct}
    (arranged : Arranged rule source inside depth spelled constructs) (same : tokens = spelled) :
    Arranged rule source inside depth tokens constructs :=
  same ▸ arranged

/-- What may stand behind the lines of a body: its closer, or the end of the file. -/
inductive BodyEnds (source : Text) : Option Kind → List Token → Prop where
  | file : BodyEnds source none []
  | closer {kind : Kind} {back : List Token} (closes : Closing source kind back)
      (rest : List Token) : BodyEnds source (some kind) (back ++ rest)

end BrightBlocks.Block
