import BrightBlocks.Block.Body
import BrightBlocks.Proofs.Block.Intake

/-!
# The recovery on demand

The recovery over an `Intake`: it is given any stream of tokens, and draws from it as it goes. It
has no bound from the tokens ahead, which are not known; every turn of a loop and every call hands
on one step less than it was given, and there is no answer without any.
-/

namespace BrightBlocks.Block

namespace OnDemand

/-- Whether a token is code, when it is the next one on its line. -/
def isCode (source : Text) (token : Token) : Bool :=
  match role source token with
  | .endOfInput | .comment | .lineBreak => false
  | _ => true

/-- Whether code follows on the line, and the intake after looking for it. -/
def codeFollows (source : Text) (intake : Intake) : Bool × Intake :=
  let (token, looked) := intake.nextOnLine source
  (isCode source token, looked)

/-- What is looked for behind the `then` of a header. -/
def codeAtThen (source : Text) (phase : Phase) (intake : Intake) : Bool × Intake :=
  match phase with
  | .opening => codeFollows source intake
  | .condition => (false, intake)

/-- Reads a header or a condition in at most so many steps: its leaves, and whether code follows
`then`. -/
def header (source : Text) (kind : Kind) (phase : Phase) :
    Nat → Intake → Option ((List Token × Bool) × Intake)
  | 0, _ => none
  | steps + 1, intake =>
    match intake.next? with
    | (none, looked) => some (([], false), looked)
    | (some token, looked) =>
      let tokenRole := role source token
      let (leaf, after) := looked.take source
      if tokenRole = .lineBreak then some ((leaf, false), after)
      else
        let word := tokenRole.structural looked.previous
        if word = some "then" ∧ kind = .conditional then
          let (follows, last) := codeAtThen source phase after
          some ((leaf, follows), last)
        else
          match word.filter (· ∈ phase.boundaries kind) with
          | some boundary =>
            some (([], false), looked.note (.headerCutShort kind boundary token.start))
          | none => do
            let ((leaves, singleLine), last) ← header source kind phase steps after
            some ((leaf ++ leaves, singleLine), last)

/-- Reads the start of a branch, and a condition in at most so many steps. -/
def branch (source : Text) (kind : Kind) (steps : Nat) (word : Option String) (intake : Intake) :
    Option ((List Token × Bool) × Intake) := do
  let (opening, afterOpening) := intake.take source
  if word = some "else" then
    let (next, looked) := afterOpening.nextOnLine source
    if role source next = .word "if" then
      let (gap, afterGap) := looked.takeGap source
      let (second, afterSecond) := afterGap.take source
      let ((leaves, singleLine), last) ← header source kind .condition steps afterSecond
      some ((opening ++ gap ++ second ++ leaves, singleLine), last)
    else
      some ((opening, false), looked)
  else
    let ((leaves, singleLine), last) ← header source kind .condition steps afterOpening
    some ((opening ++ leaves, singleLine), last)

/-- Tries to close a block at `end`. -/
def closeWithEnd (source : Text) (kind : Kind) (intake : Intake) : Option (List Token) × Intake :=
  let place := intake.checkpoint
  let (first, drawn) := intake.current
  let (opening, afterOpening) := drawn.take source
  let (gap, afterGap) := afterOpening.takeGap source
  let (last, looked) := afterGap.current
  if role source last = .word kind.opener then
    let (closing, after) := looked.take source
    (some (opening ++ gap ++ closing), after)
  else
    (none, (looked.putBack place (opening ++ gap)).note (.deferredEnd kind first.start))

mutual

/-- Reads a statement in at most so many steps. -/
def statement (source : Text) (limit : Nat) :
    Nat → Option String → Intake → Option (List Node × Intake)
  | 0, _, _ => none
  | steps + 1, word, intake =>
    match word.bind Kind.ofOpener? with
    | none =>
      let (leaves, after) := intake.take source
      some (leafNodes leaves, after)
    | some kind =>
      if intake.depth < limit then do
        let (nested, after) ← block source limit steps kind intake
        some ([nested.node], after)
      else
        let (token, looked) := intake.current
        let noted := looked.note (.keptFlat limit (word.getD "") token.start)
        let (leaves, after) := noted.take source
        some (leafNodes leaves, after)

/-- Reads a block in at most so many steps. Its opener is the next token. -/
def block (source : Text) (limit : Nat) : Nat → Kind → Intake → Option (Block × Intake)
  | 0, _, _ => none
  | steps + 1, kind, intake => do
    let (opener, after) := intake.enter.take source
    let ((leaves, singleLine), headed) ← header source kind .opening steps after
    let ((children, closed), last) ← body source limit steps kind headed
    some (⟨kind, leafNodes (opener ++ leaves) ++ children, closed, singleLine⟩, last.leave)

/-- Reads a body in at most so many steps: its children, and whether it is closed. -/
def body (source : Text) (limit : Nat) :
    Nat → Kind → Intake → Option ((List Node × Bool) × Intake)
  | 0, _, _ => none
  | steps + 1, kind, intake =>
    match intake.next? with
    | (none, looked) => some (([], false), looked.note (.leftOpen kind))
    | (some token, looked) =>
      let word := (role source token).structural looked.previous
      match turn kind word with
      | .branch word => do
        let ((leaves, _), start) ← branch source kind steps (some word) looked
        let ((children, closed), last) ← body source limit steps kind start
        some ((leafNodes leaves ++ children, closed), last)
      | .tryEnd =>
        let (placed, last) := closeWithEnd source kind looked
        some ((leafNodes (placed.getD []), placed.isSome), last)
      | .close =>
        let (leaf, after) := looked.take source
        some ((leafNodes leaf, true), after)
      | .defer word =>
        some (([], false), looked.note (.deferredCloser kind word token.start))
      | .nest _ _ | .plain => do
        let (nodes, next) ← statement source limit steps word looked
        let ((children, closed), last) ← body source limit steps kind next
        some ((nodes ++ children, closed), last)

end

/-- Reads statements up to the end of the input, in at most so many steps. -/
def forest (source : Text) (limit : Nat) : Nat → Intake → Option (List Node × Intake)
  | 0, _ => none
  | steps + 1, intake =>
    match intake.next? with
    | (none, looked) => some ([], looked)
    | (some token, looked) => do
      let word := (role source token).structural looked.previous
      let (nodes, next) ← statement source limit steps word looked
      let (rest, last) ← forest source limit steps next
      some (nodes ++ rest, last)

/-- Recovers the blocks of a stream of tokens, in three steps for each of them and four to see its
end. The file ends with the end of the input. -/
def recover (source : Text) (limit : Nat) (tokens : List Token) : Option (File × Intake) := do
  let (children, after) ← forest source limit (3 * tokens.length + 4) (Intake.ofTokens tokens)
  let (finish, last) := after.current
  some (⟨children, finish.stop⟩, last)

end OnDemand

end BrightBlocks.Block
