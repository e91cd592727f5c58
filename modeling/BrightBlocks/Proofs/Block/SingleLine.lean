import BrightBlocks.Proofs.Block.HeaderLine

/-!
# Conditionals on a single line

`recover_singleLine_iff` says of every block of every tree when it is marked as a conditional on a
single line.

The `then` of a branch's condition is of no account. A condition is read only where the
header of its block has ended (`Called.followsHeader`), and once it has ended the
children so far decide the mark (`oneLine_append_iff`).
-/

namespace BrightBlocks.Block

open Cursor (Moves)

section

variable {source : Text} {limit : Nat} {tokens stream : List Token} {kind : Kind}
  {place : Place} {cursor after : Cursor} {token : Token}

/-! ## Where conditions of branches are read -/

/-- A header whose leaves do not end it has stopped in front of a word that cuts it short, or with
the stream. -/
theorem HeaderReads.cut_of_clear {result : Header}
    (reads : HeaderReads source kind .opening cursor result)
    (clear : Clear source (endingWords .opening kind) cursor.previous result.leaves) :
    ∀ token after, result.cursor.advance? source = some (token, after) →
      ∃ word ∈ Phase.opening.boundaries kind,
        (role source token).structural result.cursor.previous = some word := by
  induction reads with
  | ended stuck =>
    intro token after taken
    rw [stuck] at taken
    contradiction
  | lineBreak taken broken => exact absurd broken (clear.unbroken _ List.mem_cons_self)
  | atThen taken found conditional =>
    subst conditional
    rw [leaves_headerAtThen] at clear
    exact absurd List.mem_cons_self (clear.spares.1 _ found)
  | cut taken found boundary =>
    rename_i cursor after first word
    intro token next takenAgain
    rw [Cursor.advance?_note, Cursor.advance?_fill, taken] at takenAgain
    obtain ⟨rfl, -⟩ := Prod.mk.inj (Option.some.inj takenAgain)
    exact ⟨word, boundary, found⟩
  | plain taken unbroken inside further inductionHypothesis =>
    refine inductionHypothesis ⟨(List.forall_mem_cons.mp clear.unbroken).2, ?_⟩
    rw [(Moves.of_advance? taken).previous]
    exact clear.spares.2

/-- A body is read where the header has ended, or in front of a word that has cut it short. -/
structure BehindHeader (source : Text) (kind : Kind) (place : Place) (cursor : Cursor) : Prop where
  started : place.front ≠ []
  trail : HeaderUnended source kind place.front →
    headerTrail source kind place.front = cursor.previous
  cut : HeaderUnended source kind place.front →
    ∀ token after, cursor.advance? source = some (token, after) →
      ∃ word ∈ Phase.opening.boundaries kind,
        (role source token).structural cursor.previous = some word

/-- A body goes on behind the header. -/
theorem BehindHeader.of_ended {nodes : List Node} (started : place.front ≠ [])
    (ended : ¬ HeaderUnended source kind (place.front ++ nodes)) :
    BehindHeader source kind (place.past nodes) after where
  started := by simp [Place.past, started]
  trail unended := absurd unended ended
  cut unended := absurd unended ended

/-- No branch starts where the header has been cut short. -/
theorem BehindHeader.ended_of_branch {word : String}
    (behind : BehindHeader source kind place cursor)
    (taken : cursor.advance? source = some (token, after))
    (found : turn kind ((role source token).structural cursor.previous) = .branch word) :
    ¬ HeaderUnended source kind place.front := by
  intro unended
  obtain ⟨meaning, rfl, listed⟩ := means_of_turn found
  obtain ⟨small, boundary, same⟩ := behind.cut unended _ _ taken
  obtain rfl := Option.some.inj (meaning.symm.trans same)
  have apart : ∀ word ∈ elseWords, word ∉ Phase.opening.boundaries .conditional := by decide
  exact apart _ listed boundary

/-- A statement is its first token or a block. -/
theorem statement_nodes (word : Option String)
    (taken : cursor.advance? source = some (token, after)) :
    (statement source limit word cursor).1 = [.leaf token] ∨
      ∃ inner children closed singleLine,
        (statement source limit word cursor).1 = [.block inner children closed singleLine] := by
  cases opens : word.bind Kind.ofOpener? with
  | none =>
    rw [statement_of_not_opener opens, Cursor.take_eq taken]
    exact .inl rfl
  | some inner =>
    obtain ⟨small, rfl, opens⟩ := Option.bind_eq_some_iff.mp opens
    by_cases room : cursor.depth < limit
    · rw [statement_of_opener opens room]
      exact .inr ⟨_, _, _, _, rfl⟩
    · rw [statement_of_full opens room taken]
      exact .inl rfl

/-- The first statement of a body ends the header, if that has not ended. -/
theorem BehindHeader.ended_of_statement (behind : BehindHeader source kind place cursor)
    (taken : cursor.advance? source = some (token, after)) (word : Option String) :
    ¬ HeaderUnended source kind (place.front ++ (statement source limit word cursor).1) := by
  intro unended
  rcases statement_nodes word taken with leaf | ⟨inner, children, closed, singleLine, block⟩
  · rw [leaf, headerUnended_append_leaf behind.started] at unended
    obtain ⟨before, -, plain⟩ := unended
    obtain ⟨small, boundary, same⟩ := behind.cut before _ _ taken
    rw [behind.trail before] at plain
    refine plain small same ?_
    unfold endingWords
    split
    · exact List.mem_cons_of_mem _ boundary
    · exact boundary
  · rw [block] at unended
    exact not_headerUnended_of_block _ _ _ _ _ _ _ unended

/-- The body of a block is read behind its header. -/
theorem Called.behindHeader_of_block {opener : List Token}
    (called : Called source limit tokens (.block kind) place cursor)
    (taken : cursor.enter.take source = (opener, after)) :
    BehindHeader source kind
      ((place.inside kind).past (leafNodes (opener ++ (header source kind .opening after).leaves)))
      (header source kind .opening after).cursor := by
  obtain ⟨token, next, advances, opens⟩ := called.opener
  rw [Cursor.take_enter_eq advances] at taken
  obtain ⟨rfl, rfl⟩ := Prod.mk.inj taken
  have previous : next.enter.previous = some kind.opener := by
    show next.previous = some kind.opener
    rw [(Moves.of_advance? advances).previous, trail_cons, (structural_eq_some_iff.mp opens).2]
    rfl
  have moves := header_moves source kind .opening next.enter
  have front : ((place.inside kind).past
      (leafNodes ([token] ++ (header source kind .opening next.enter).leaves))).front =
        leafNodes (token :: (header source kind .opening next.enter).leaves) := rfl
  refine ⟨?_, ?_, ?_⟩
  · rw [front]
    exact List.cons_ne_nil _ _
  · intro unended
    rw [front] at unended ⊢
    have leaves := leaves_eq_filterMap unended.leaves
    rw [leaves_leafNodes] at leaves
    rw [headerTrail, ← leaves, moves.previous, previous]
    rfl
  · intro unended
    rw [front, headerUnended_leafNodes_iff, ← previous] at unended
    exact (header_reads source kind .opening next.enter).cut_of_clear unended

/-- What the place of a call says about the header of the block around it. -/
def Call.FollowsHeader (source : Text) (place : Place) (cursor : Cursor) : Call → Prop
  | .body kind => BehindHeader source kind place cursor
  | .branch kind _ | .header kind .condition => ¬ HeaderUnended source kind place.front
  | _ => True

/-- Bodies, branches and conditions are read behind the header of their block. -/
theorem Called.followsHeader {call : Call} (called : Called source limit tokens call place cursor) :
    call.FollowsHeader source place cursor := by
  induction called with
  | file | statementOfFile | restOfFile | block | headerOfBlock | closeWithEnd
  | statementOfBody => trivial
  | bodyOfBlock caller taken => exact caller.behindHeader_of_block taken
  | @restOfHeader place cursor after token kind phase caller taken unbroken inside
      inductionHypothesis =>
    cases phase with
    | opening => trivial
    | condition => exact fun unended => inductionHypothesis unended.of_append
  | branch caller taken found inductionHypothesis =>
    exact inductionHypothesis.ended_of_branch taken found
  | conditionOfBranch caller joined inductionHypothesis =>
    exact fun unended => inductionHypothesis unended.of_append
  | conditionOfElseIf caller first goes_on blank last inductionHypothesis =>
    exact fun unended => inductionHypothesis unended.of_append
  | bodyOfBranch caller taken found inductionHypothesis =>
    have ended := inductionHypothesis.ended_of_branch taken found
    exact .of_ended inductionHypothesis.started fun unended => ended unended.of_append
  | restOfBody caller taken found stays reads inductionHypothesis =>
    subst reads
    exact .of_ended inductionHypothesis.started (inductionHypothesis.ended_of_statement taken _)

/-! ## Every block of a tree -/

/--
A block is marked as one on a single line exactly when it is a conditional, its first children are
leaves that lead up to the `then` that ends its header, and code follows that on the line, be it in
the block or behind it. Where the header has ended, the children so far decide the mark. Conditions
of branches are only read there, so no `then` of theirs changes it.
-/
theorem recover_singleLine_iff (source : Text) (limit : Nat) (tokens : List Token) :
    let stream := tokens.takeWhile (·.kind ≠ .endOfInput)
    let sites := Forest.sites .start (recover source limit tokens).1.children
    sites.filterMap (·.node.block?) = Forest.walk (recover source limit tokens).1.children ∧
    (∀ site ∈ sites, ∀ block : Block, site.node = block.node → ∃ behind,
      stream = site.place.before ++ Forest.leaves block.children ++ behind ∧
      (block.singleLine = true ↔
        block.kind = .conditional ∧ OneLine source site.place.before block.children behind) ∧
      ∀ front back, block.children = front ++ back → ¬ HeaderUnended source .conditional front →
        (block.singleLine = true ↔ block.kind = .conditional ∧
          OneLine source site.place.before front (Forest.leaves back ++ behind))) ∧
    ∀ place cursor, Called source limit tokens (.header .conditional .condition) place cursor →
      ¬ HeaderUnended source .conditional place.front := by
  intro stream sites
  refine ⟨Forest.filterMap_block?_sites .start _, ?_, fun place cursor called =>
    called.followsHeader⟩
  intro site member found same
  obtain ⟨cursor, called, answer⟩ := block_called source limit tokens site member found same
  obtain ⟨behind, split⟩ := Forest.split_of_mem_sites _ member
  have whole : stream = site.place.before ++ Forest.leaves found.children ++ behind := by
    rw [Place.before_start, List.nil_append, recover_leaves, same] at split
    show significantTokens tokens = _
    simpa [Block.node, Node.leaves] using split
  have marks : found.singleLine = true ↔
      found.kind = .conditional ∧ OneLine source site.place.before found.children behind := by
    have inside := called.singleLine_iff behind
    rw [answer] at inside
    exact inside whole
  refine ⟨behind, whole, marks, ?_⟩
  intro front back children ended
  rw [children, oneLine_append_iff ended] at marks
  exact marks

end

end BrightBlocks.Block
