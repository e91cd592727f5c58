import BrightBlocks.Proofs.Block.Layout
import BrightBlocks.Proofs.Block.Simulation

/-!
# How blocks end

A block that is closed ends in its own terminator. One that is left open ends in
front of the end of the input, or of a terminator that is not its own.
`Ends` puts both into one statement about the children of a block and the tokens
behind it; it holds of every body that is read (`BodyReads.ends`).

What counts as a terminator depends on the word in front of it on the line: none
stands inside a phrase, such as `exit for`, or behind the dot of a member.
-/

namespace BrightBlocks.Block

/-- A token contributes a word where it spells the word and no phrase takes it in. -/
theorem structural_eq_some_iff {meaning : Role} {previous : Option String} {word : String} :
    meaning.structural previous = some word ↔
      previous.any (· ∈ phraseLeads) = false ∧ meaning = .word word := by
  unfold Role.structural
  split
  · rename_i taken
    simp [taken]
  · rename_i free
    cases meaning <;> simp [Role.word?, free]

/-- Tokens that close a block of the given kind, behind the significant word `previous`. -/
structure Terminates (source : Text) (kind : Kind) (previous : Option String)
    (back : List Token) : Prop where
  spells : Closing source kind back
  free : previous.any (· ∈ phraseLeads) = false

/-- What stands behind a block of the given kind that is left open. -/
inductive LeavesOpen (source : Text) (kind : Kind) (previous : Option String) :
    List Token → Prop where
  | ended : LeavesOpen source kind previous []
  | foreignEnd {token : Token} {rest : List Token}
      (found : (role source token).structural previous = some "end")
      (other : roleOnLine source rest ≠ .word kind.opener) :
      LeavesOpen source kind previous (token :: rest)
  | foreignCloser {token : Token} {rest : List Token} {word : String}
      (found : (role source token).structural previous = some word) (closer : word ∈ closers)
      (foreign : word ∉ kind.closers) :
      LeavesOpen source kind previous (token :: rest)

/--
How a block ends: what its children end in when it is closed, and the tokens `behind` it when it is
not. The word `previous` is that in front of the children.
-/
inductive Ends (source : Text) (kind : Kind) (previous : Option String) :
    List Node → Bool → List Token → Prop where
  | closed {front : List Node} {back behind : List Token}
      (terminates :
        Terminates source kind (trail source previous (Forest.leaves front)) back) :
      Ends source kind previous (front ++ leafNodes back) true behind
  | leftOpen {children : List Node} {behind : List Token}
      (opens : LeavesOpen source kind (trail source previous (Forest.leaves children)) behind) :
      Ends source kind previous children false behind

/-- How children end does not change with what is put in front of them. -/
theorem Ends.prepend {source : Text} {kind : Kind} {previous : Option String}
    {front children : List Node} {closed : Bool} {behind : List Token}
    (ends : Ends source kind (trail source previous (Forest.leaves front)) children closed behind) :
    Ends source kind previous (front ++ children) closed behind := by
  cases ends with
  | @closed inner back behind terminates =>
    rw [← List.append_assoc]
    exact .closed (by simpa using terminates)
  | leftOpen opens => exact .leftOpen (by simpa using opens)

/-- Children that are a terminator end in it. -/
theorem Ends.of_terminates {source : Text} {kind : Kind} {previous : Option String}
    {back behind : List Token} (terminates : Terminates source kind previous back) :
    Ends source kind previous (leafNodes back) true behind :=
  @Ends.closed source kind previous [] back behind terminates

section

variable {source : Text} {limit opened : Nat} {cursor after : Cursor} {token : Token} {kind : Kind}

/-- What is taken as a gap is at most one token. -/
theorem atMostOne_takeGap (source : Text) (cursor : Cursor) :
    AtMostOne source .gap (cursor.takeGap source).1 := by
  have blank : ∀ token ∈ (cursor.takeGap source).1, role source token = .gap :=
    fun _ => role_of_mem_takeGap
  have few : (cursor.takeGap source).1 = [] ∨ ∃ token, (cursor.takeGap source).1 = [token] := by
    unfold Cursor.takeGap Cursor.take
    dsimp only
    split
    · split <;> simp
    · simp
  rcases few with none | ⟨token, one⟩
  · exact none ▸ .absent
  · exact one ▸ .present (blank token (by simp [one]))

/-- A terminator that was tried with success spells one. -/
theorem terminates_of_closeWithEnd {back : List Token} (ready : cursor.Ready opened)
    (taken : cursor.advance? source = some (token, after))
    (found : (role source token).structural cursor.previous = some "end")
    (closes : (closeWithEnd source kind cursor).1 = some back) :
    Terminates source kind cursor.previous back := by
  obtain ⟨free, first⟩ := structural_eq_some_iff.mp found
  by_cases own : roleOnLine source after.ahead = .word kind.opener
  · obtain ⟨last, only, names⟩ := take_takeGap (ready.moves (.of_advance? taken)) own
    rw [closeWithEnd_of_match ready taken own, only] at closes
    obtain rfl := Option.some.inj closes
    exact ⟨.phrase first (atMostOne_takeGap source after) names, free⟩
  · rw [(closeWithEnd_of_other ready taken own).1] at closes
    contradiction

/-- A terminator that was tried in vain stands behind the block, which is left open. -/
theorem leavesOpen_of_closeWithEnd (ready : cursor.Ready opened)
    (taken : cursor.advance? source = some (token, after))
    (found : (role source token).structural cursor.previous = some "end")
    (deferred : (closeWithEnd source kind cursor).1 = none) :
    LeavesOpen source kind cursor.previous (closeWithEnd source kind cursor).2.ahead := by
  have other : roleOnLine source after.ahead ≠ .word kind.opener := by
    intro own
    rw [closeWithEnd_of_match ready taken own] at deferred
    contradiction
  have ahead := (closeWithEnd_moves source kind cursor).ahead
  rw [deferred, Option.getD_none, List.nil_append, Cursor.ahead_of_advance? taken] at ahead
  exact ahead ▸ .foreignEnd found other

/-- Every body ends with a terminator of its own, or in front of what leaves it open. -/
theorem BodyReads.ends {result : Body} (reads : BodyReads source limit kind cursor result)
    (ready : cursor.Ready opened) :
    Ends source kind cursor.previous result.children result.closed result.cursor.ahead := by
  induction reads generalizing opened with
  | ended stuck =>
    rw [Cursor.ahead_note, Cursor.advance?_eq_none_iff.mp stuck]
    exact .leftOpen .ended
  | branch taken found further inductionHypothesis =>
    rename_i kind cursor after token word rest
    have moves := branch_moves source kind (some word) cursor
    have ends := inductionHypothesis (ready.moves moves)
    rw [moves.previous, ← leaves_leafNodes (Block.branch source kind _ cursor).leaves] at ends
    exact ends.prepend
  | tryEnd taken found =>
    rename_i kind cursor after token
    have meaning := means_of_turn found
    cases tried : (closeWithEnd source kind cursor).1 with
    | some back => exact .of_terminates (terminates_of_closeWithEnd ready taken meaning tried)
    | none => exact .leftOpen (leavesOpen_of_closeWithEnd ready taken meaning tried)
  | close taken found =>
    obtain ⟨word, meaning, own⟩ := means_of_turn found
    obtain ⟨free, spelled⟩ := structural_eq_some_iff.mp meaning
    exact .of_terminates ⟨.word spelled own, free⟩
  | defer taken found =>
    obtain ⟨meaning, closer, foreign⟩ := means_of_turn found
    rw [Cursor.ahead_note, Cursor.ahead_fill, Cursor.ahead_of_advance? taken]
    exact .leftOpen (.foreignCloser meaning closer foreign)
  | nest taken found allowed inside further nestedHypothesis inductionHypothesis =>
    have moves := block_moves taken inside.moves
    have ends := inductionHypothesis (ready.moves moves)
    rw [moves.previous] at ends
    refine Ends.prepend ?_
    simpa [Forest.leaves, Node.leaves, Body.prepend] using ends
  | flat taken found full further inductionHypothesis =>
    rename_i kind inner cursor after token word rest
    have moves := (Cursor.Moves.of_advance? taken).note (.keptFlat limit word token.start)
    have ends := inductionHypothesis (ready.moves moves)
    rw [moves.previous] at ends
    exact ends.prepend
  | plain taken found further inductionHypothesis =>
    have moves := Cursor.Moves.of_advance? taken
    have ends := inductionHypothesis (ready.moves moves)
    rw [moves.previous] at ends
    exact ends.prepend

end

end BrightBlocks.Block
