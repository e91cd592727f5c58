import BrightBlocks.Block.Cursor

/-!
# Headers and conditions

A header is what stands between the opener of a block and its body; the
condition of a branch is read in the same way. Both end after a line break or,
in a conditional, after `then`, and before a word that belongs to the body.
`header_append_ahead` says that a header takes leaves from the front of what is
ahead and leaves the rest in place.
-/

namespace BrightBlocks.Block

/-- What is being read in front of a body: the header of the block, or a branch's condition. -/
inductive Phase
  | opening
  | condition
  deriving DecidableEq, Repr

/-- The words that end a header or a condition early. -/
def Phase.boundaries (phase : Phase) (kind : Kind) : List String :=
  match phase with
  | .opening => headerBoundaries kind
  | .condition => conditionBoundaries

/-- The leaves in front of a body, and where reading them has led. -/
structure Header where
  leaves : List Token
  /-- Whether code follows `then` on its line. -/
  singleLine : Bool
  cursor : Cursor

/-- Whether code follows on the line, and the cursor after looking for it. -/
def codeFollows (source : Text) (cursor : Cursor) : Bool × Cursor :=
  let (token, filled) := cursor.nextOnLine source
  (match role source token with
    | .endOfInput | .comment | .lineBreak => false
    | _ => true, filled)

/-- The end of a header at `then`: only the header of the block itself looks for code after it. -/
def headerAtThen (source : Text) (phase : Phase) (token : Token) (after : Cursor) : Header :=
  match phase with
  | .opening =>
    let (follows, filled) := codeFollows source after
    ⟨[token], follows, filled⟩
  | .condition => ⟨[token], false, after⟩

@[simp]
theorem ahead_headerAtThen (source : Text) (phase : Phase) (token : Token) (after : Cursor) :
    (headerAtThen source phase token after).cursor.ahead = after.ahead := by
  cases phase <;> simp [headerAtThen, codeFollows]

@[simp]
theorem leaves_headerAtThen (source : Text) (phase : Phase) (token : Token) (after : Cursor) :
    (headerAtThen source phase token after).leaves = [token] := by
  cases phase <;> rfl

/-- Reads a header or a condition of a block of the given kind. -/
def header (source : Text) (kind : Kind) (phase : Phase) (cursor : Cursor) : Header :=
  match _taken : cursor.advance? source with
  | none => ⟨[], false, cursor⟩
  | some (token, after) =>
    let tokenRole := role source token
    if tokenRole = .lineBreak then ⟨[token], false, after⟩
    else
      let word := tokenRole.structural cursor.previous
      if word = some "then" ∧ kind = .conditional then headerAtThen source phase token after
      else
        match word.filter (· ∈ phase.boundaries kind) with
        | some boundary =>
          ⟨[], false, (cursor.fill 1).note (.headerCutShort kind boundary token.start)⟩
        | none =>
          let rest := header source kind phase after
          { rest with leaves := token :: rest.leaves }
  termination_by cursor.ahead.length
  decreasing_by simp [Cursor.ahead_of_advance? _taken]

/-- The leaves of a header and what it leaves ahead make up what was ahead. -/
theorem header_append_ahead (source : Text) (kind : Kind) (phase : Phase) (cursor : Cursor) :
    (header source kind phase cursor).leaves ++ (header source kind phase cursor).cursor.ahead =
      cursor.ahead := by
  fun_induction header source kind phase cursor with
  | case1 => rfl
  | case2 cursor token after taken => simp [Cursor.ahead_of_advance? taken]
  | case3 cursor token after taken => simp [Cursor.ahead_of_advance? taken]
  | case4 => simp
  | case5 cursor token after taken _ _ _ _ _ rest inductionHypothesis =>
    simp [Cursor.ahead_of_advance? taken, inductionHypothesis, rest]

/-- A header never puts tokens back. -/
theorem header_ahead_le (source : Text) (kind : Kind) (phase : Phase) (cursor : Cursor) :
    (header source kind phase cursor).cursor.ahead.length ≤ cursor.ahead.length := by
  rw [← header_append_ahead source kind phase cursor, List.length_append]
  omega

end BrightBlocks.Block
