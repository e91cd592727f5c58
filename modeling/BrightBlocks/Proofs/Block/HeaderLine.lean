import BrightBlocks.Proofs.Block.Answered
import BrightBlocks.Proofs.Block.Flatness
import Mathlib.Data.List.Induction

/-!
# The line of a header

A conditional is marked as one on a single line when its header ends at a `then` and code
follows on the line. `OneLine` says so by the children of the block and the tokens behind
it: the `then` is the first child that ends the header, and what is looked at behind it may
lie outside the block. For a block that is being read this is an equivalence
(`Called.singleLine_iff`).
-/

namespace BrightBlocks.Block

open Cursor (Moves)

section

variable {source : Text} {limit : Nat} {tokens stream : List Token} {kind : Kind}
  {place : Place} {cursor after : Cursor} {token : Token}

/-! ## What the header of a conditional looks for -/

/-- A header that goes on with `condition` ends at the `then` behind it, and code follows. -/
structure ThenAhead (source : Text) (previous : Option String) (condition : List Token)
    (word : Token) (behind : List Token) : Prop where
  clear : Clear source (endingWords .opening .conditional) previous condition
  found : (role source word).structural (trail source previous condition) = some "then"
  code : codeOnLine source behind = true

/-- A token that does not end the header may stand in front. -/
theorem ThenAhead.cons {previous : Option String} {condition behind : List Token} {word : Token}
    (there : ThenAhead source ((role source token).follow previous) condition word behind)
    (unbroken : role source token ≠ .lineBreak)
    (inside : ∀ small ∈ (role source token).structural previous,
      small ∉ endingWords .opening .conditional) :
    ThenAhead source previous (token :: condition) word behind where
  clear := ⟨List.forall_mem_cons.mpr ⟨unbroken, there.clear.unbroken⟩, inside, there.clear.spares⟩
  found := there.found
  code := there.code

/-- Only a conditional whose header has ended at `then`, with code behind it, is marked. -/
theorem HeaderReads.thenAhead {opened : Nat} {result : Header}
    (reads : HeaderReads source kind .opening cursor result) (ready : cursor.Ready opened)
    (marked : result.singleLine = true) :
    kind = .conditional ∧ ∃ condition word, result.leaves = condition ++ [word] ∧
      ThenAhead source cursor.previous condition word result.cursor.ahead := by
  induction reads with
  | ended | lineBreak | cut => contradiction
  | atThen taken found conditional =>
    rename_i cursor after word
    have placed := ready.moves (.of_advance? taken)
    refine ⟨conditional, [], word, rfl, ⟨nofun, trivial⟩, found, ?_⟩
    rw [ahead_headerAtThen, ← codeFollows_eq placed]
    exact marked
  | plain taken unbroken inside further inductionHypothesis =>
    rename_i cursor after token rest
    have moves := Moves.of_advance? taken
    obtain ⟨rfl, condition, word, leaves, there⟩ := inductionHypothesis (ready.moves moves) marked
    refine ⟨rfl, token :: condition, word, ?_, ?_⟩
    · exact congrArg (token :: ·) leaves
    · rw [moves.previous] at there
      refine there.cons unbroken fun small found listed => ?_
      rcases List.mem_cons.mp listed with rfl | boundary
      · exact (inside _ found).1 ⟨rfl, rfl⟩
      · exact (inside _ found).2 boundary

/-- A conditional whose header ends at `then`, with code behind it, is marked. -/
theorem HeaderReads.singleLine_of_thenAhead {opened : Nat} {result : Header}
    {condition behind : List Token} {word : Token}
    (reads : HeaderReads source .conditional .opening cursor result) (ready : cursor.Ready opened)
    (ahead : cursor.ahead = condition ++ word :: behind)
    (there : ThenAhead source cursor.previous condition word behind) :
    result.singleLine = true := by
  induction reads generalizing condition with
  | ended stuck =>
    rw [Cursor.advance?_eq_none_iff.mp stuck] at ahead
    exact absurd ahead (by simp)
  | lineBreak taken broken =>
    rw [Cursor.ahead_of_advance? taken] at ahead
    obtain ⟨clear, found, -⟩ := there
    cases condition with
    | nil =>
      obtain ⟨rfl, -⟩ := List.cons.inj ahead
      rw [broken] at found
      exact absurd (structural_eq_some_iff.mp found).2 nofun
    | cons first rest =>
      obtain ⟨rfl, -⟩ := List.cons.inj ahead
      exact absurd broken (clear.unbroken _ List.mem_cons_self)
  | atThen taken leads conditional =>
    have placed := ready.moves (.of_advance? taken)
    rw [Cursor.ahead_of_advance? taken] at ahead
    obtain ⟨clear, -, code⟩ := there
    cases condition with
    | nil =>
      obtain ⟨-, rfl⟩ := List.cons.inj ahead
      exact (codeFollows_eq placed).trans code
    | cons first rest =>
      obtain ⟨rfl, -⟩ := List.cons.inj ahead
      exact absurd List.mem_cons_self (clear.spares.1 _ leads)
  | cut taken cuts boundary =>
    rw [Cursor.ahead_of_advance? taken] at ahead
    obtain ⟨clear, found, -⟩ := there
    cases condition with
    | nil =>
      obtain ⟨rfl, -⟩ := List.cons.inj ahead
      obtain rfl := Option.some.inj (cuts.symm.trans found)
      exact absurd boundary (Machine.then_not_boundary .opening .conditional)
    | cons first rest =>
      obtain ⟨rfl, -⟩ := List.cons.inj ahead
      exact absurd (List.mem_cons_of_mem _ boundary) (clear.spares.1 _ cuts)
  | plain taken unbroken inside further inductionHypothesis =>
    have moves := Moves.of_advance? taken
    rw [Cursor.ahead_of_advance? taken] at ahead
    obtain ⟨clear, found, code⟩ := there
    cases condition with
    | nil =>
      obtain ⟨rfl, -⟩ := List.cons.inj ahead
      exact absurd ⟨rfl, rfl⟩ (inside _ found).1
    | cons first rest =>
      obtain ⟨rfl, behindToken⟩ := List.cons.inj ahead
      refine inductionHypothesis (ready.moves moves) behindToken ?_
      rw [moves.previous]
      exact ⟨⟨(List.forall_mem_cons.mp clear.unbroken).2, clear.spares.2⟩, found, code⟩

/-! ## What is seen of it in the tree -/

/-- The first children of a conditional end its header at `then`, and code follows on the line, be
it inside the block or behind it. -/
def OneLine (source : Text) (before : List Token) (children : List Node) (behind : List Token) :
    Prop :=
  ∃ front word back, children = front ++ .leaf word :: back ∧ front ≠ [] ∧
    HeaderUnended source .conditional front ∧
    (role source word).structural (trail source none (before ++ Forest.leaves front)) =
      some "then" ∧
    codeOnLine source (Forest.leaves back ++ behind) = true

/-- A header that has not ended has not ended any earlier. -/
theorem HeaderUnended.of_append {front back : List Node}
    (unended : HeaderUnended source kind (front ++ back)) : HeaderUnended source kind front := by
  induction back using List.reverseRec with
  | nil => simpa using unended
  | append_singleton back node inductionHypothesis =>
    rw [← List.append_assoc] at unended
    cases node with
    | block => exact absurd unended (not_headerUnended_of_block _ _ _ _ _ _ _)
    | leaf token =>
      by_cases started : front ++ back = []
      · obtain ⟨rfl, -⟩ := List.append_eq_nil_iff.mp started
        exact ⟨nofun, nofun, trivial⟩
      · exact inductionHypothesis ((headerUnended_append_leaf started).mp unended).1

/-- Once the header has ended, no further child changes whether the conditional is on one line. -/
theorem oneLine_append_iff {before behind : List Token} {front back : List Node}
    (ended : ¬ HeaderUnended source .conditional front) :
    OneLine source before (front ++ back) behind ↔
      OneLine source before front (Forest.leaves back ++ behind) := by
  constructor
  · rintro ⟨first, word, rest, split, started, unended, found, code⟩
    rcases List.append_eq_append_iff.mp split with ⟨more, rfl, -⟩ | ⟨more, rfl, tail⟩
    · exact absurd unended.of_append ended
    · cases more with
      | nil =>
        rw [List.append_nil] at ended
        exact absurd unended ended
      | cons node more =>
        rw [List.cons_append] at tail
        obtain ⟨rfl, rfl⟩ := List.cons.inj tail
        refine ⟨first, word, more, rfl, started, unended, found, ?_⟩
        rw [← code, Forest.leaves_append, List.append_assoc]
  · rintro ⟨first, word, rest, rfl, started, unended, found, code⟩
    refine ⟨first, word, rest ++ back, by simp, started, unended, found, ?_⟩
    rw [← code, Forest.leaves_append, List.append_assoc]

/-- Leaves that a header starts with are an opener and what is clear behind it. -/
theorem headerUnended_leafNodes_iff {condition : List Token} :
    HeaderUnended source kind (leafNodes (token :: condition)) ↔
      Clear source (endingWords .opening kind) (some kind.opener) condition := by
  have leaves : (leafNodes (token :: condition)).filterMap Node.leaf? = token :: condition := by
    rw [leafNodes, List.filterMap_map]
    exact List.filterMap_some
  constructor
  · rintro ⟨-, clear⟩
    rwa [leaves] at clear
  · intro clear
    exact ⟨by simp [leafNodes, Node.leaf?], by rwa [leaves]⟩

/-- The leaves of a header that has not ended are a token and what is behind it. -/
theorem HeaderUnended.exists_leafNodes {front : List Node} (started : front ≠ [])
    (unended : HeaderUnended source kind front) :
    ∃ first condition, front = leafNodes (first :: condition) := by
  have whole : front = leafNodes (front.filterMap Node.leaf?) := by
    have only := unended.leaves
    clear unended started
    induction front with
    | nil => rfl
    | cons node rest inductionHypothesis =>
      obtain ⟨first, others⟩ := List.forall_mem_cons.mp only
      cases node with
      | leaf token => exact congrArg (Node.leaf token :: ·) (inductionHypothesis others)
      | block => contradiction
  cases leaves : front.filterMap Node.leaf? with
  | nil => exact absurd (whole.trans (congrArg leafNodes leaves)) started
  | cons first condition => exact ⟨first, condition, whole.trans (congrArg leafNodes leaves)⟩

/-- A header marks its block by what the children of the block and the tokens behind it show. -/
theorem HeaderReads.singleLine_iff {opened : Nat} {result : Header} {before behind : List Token}
    {inner : List Node} (reads : HeaderReads source kind .opening cursor result)
    (ready : cursor.Ready opened) (opens : cursor.previous = some kind.opener)
    (led : trail source none (before ++ [token]) = some kind.opener)
    (ahead : cursor.ahead = result.leaves ++ (Forest.leaves inner ++ behind)) :
    result.singleLine = true ↔ kind = .conditional ∧
      OneLine source before (leafNodes (token :: result.leaves) ++ inner) behind := by
  constructor
  · intro marked
    obtain ⟨rfl, condition, word, leaves, clear, found, code⟩ := reads.thenAhead ready marked
    have rest : result.cursor.ahead = Forest.leaves inner ++ behind :=
      List.append_cancel_left (reads.moves.ahead.symm.trans ahead)
    rw [opens] at clear found
    refine ⟨rfl, leafNodes (token :: condition), word, inner, ?_, List.cons_ne_nil _ _,
      headerUnended_leafNodes_iff.mpr clear, ?_, rest ▸ code⟩
    · rw [leaves]
      simp [leafNodes]
    · rw [leaves_leafNodes, List.append_cons, trail_append, led]
      exact found
  · rintro ⟨rfl, front, word, back, children, started, unended, found, code⟩
    obtain ⟨first, condition, rfl⟩ := unended.exists_leafNodes started
    have leaves := congrArg Forest.leaves children
    simp only [Forest.leaves_append, leaves_leafNodes, leaves_leaf_cons, List.cons_append] at leaves
    obtain ⟨rfl, behindOpener⟩ := List.cons.inj leaves
    rw [leaves_leafNodes, List.append_cons, trail_append, led] at found
    rw [← List.append_assoc, behindOpener, List.append_assoc, List.cons_append] at ahead
    refine reads.singleLine_of_thenAhead ready ahead ?_
    rw [opens]
    exact ⟨headerUnended_leafNodes_iff.mp unended, found, code⟩

/-! ## Blocks -/

/-- A block is called for its opener. -/
theorem Called.opener (called : Called source limit tokens (.block kind) place cursor) :
    ∃ token after, cursor.advance? source = some (token, after) ∧
      (role source token).structural cursor.previous = some kind.opener := by
  cases called with
  | @block _ _ word _ caller opens room =>
    obtain ⟨-, rfl⟩ := Machine.opener_of_ofOpener? opens
    generalize same : Call.statement (some kind.opener) = call at caller
    cases caller with
    | statementOfFile caller more =>
      rename_i cursor
      cases taken : cursor.advance? source with
      | none => exact absurd (Cursor.advance?_eq_none_iff.mp taken) more
      | some pair =>
        obtain ⟨token, after⟩ := pair
        rw [structuralWord_eq taken] at same ⊢
        exact ⟨token, after, (Cursor.advance?_fill cursor source).trans taken,
          (Call.statement.inj same).symm⟩
    | statementOfBody caller taken found stays =>
      obtain rfl := Call.statement.inj same
      exact ⟨_, _, taken, found⟩
    | _ => cases same

/-- A block is marked by what its children and the tokens behind it show. -/
theorem Called.singleLine_iff (called : Called source limit tokens (.block kind) place cursor)
    (behind : List Token)
    (split : significantTokens tokens = place.before ++
      Forest.leaves (Block.block source limit kind cursor).1.children ++ behind) :
    (Block.block source limit kind cursor).1.singleLine = true ↔ kind = .conditional ∧
      OneLine source place.before (Block.block source limit kind cursor).1.children behind := by
  obtain ⟨token, after, taken, opens⟩ := called.opener
  obtain ⟨standing, -⟩ := called.standing
  have moves := Moves.of_advance? taken
  have previous : after.enter.previous = some kind.opener := by
    show after.previous = some kind.opener
    rw [moves.previous, trail_cons, (structural_eq_some_iff.mp opens).2]
    rfl
  have led : trail source none (place.before ++ [token]) = some kind.opener := by
    rw [trail_append, ← standing.previous, ← moves.previous]
    exact previous
  have ahead : cursor.ahead =
      Forest.leaves (Block.block source limit kind cursor).1.children ++ behind := by
    have same := standing.split.symm.trans split
    rw [List.append_assoc] at same
    exact List.append_cancel_left same
  rw [Cursor.ahead_of_advance? taken] at ahead
  rw [Block.block, Cursor.take_enter_eq taken] at ahead ⊢
  simp only [Forest.leaves_append, leaves_leafNodes, List.append_assoc, List.cons_append,
    List.cons.injEq, true_and] at ahead
  exact (header_reads source kind .opening after.enter).singleLine_iff
    (standing.ready.moves moves).enter previous led ahead

end

end BrightBlocks.Block
