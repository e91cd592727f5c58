import BrightBlocks.Proofs.Block.Conservation
import BrightBlocks.Proofs.Block.Ending
import BrightBlocks.Proofs.Block.Place

/-!
# How nodes come to stand where they stand

`Placements` lists the ways in which the recovery places a node, one field for
each, with what is known about the node and its place there. What holds of a site
in each of these ways holds of all sites of a recovered file
(`Placements.of_recover`). The induction over nested bodies is made here once; a
statement about every block or every leaf of a tree only has to look at the fields.

How far a header reaches, and what is noted down, is no part of this module.
-/

namespace BrightBlocks.Block

open Cursor (Moves)

/-! ## Cursors at places -/

/-- A cursor over a stream stands at a place of the tree that is made of the stream. -/
structure Cursor.At (source : Text) (stream : List Token) (place : Place) (cursor : Cursor) :
    Prop where
  split : stream = place.before ++ cursor.ahead
  previous : cursor.previous = trail source none place.before
  ready : cursor.Ready place.around.length

namespace Cursor.At

variable {source : Text} {stream : List Token} {place : Place} {cursor after : Cursor}

theorem ofTokens (source : Text) (tokens : List Token) :
    At source (significantTokens tokens) .start (Cursor.ofTokens tokens) :=
  ⟨rfl, rfl, .ofTokens tokens⟩

/-- Placing the leaves of nodes leads behind the nodes. -/
theorem past {nodes : List Node} (standing : At source stream place cursor)
    (moves : Moves source cursor (Forest.leaves nodes) after) :
    At source stream (place.past nodes) after where
  split := by rw [standing.split, moves.ahead, Place.before_past, List.append_assoc]
  previous := by rw [moves.previous, standing.previous, Place.before_past, trail_append]
  ready := standing.ready.moves moves

theorem past_leaves {leaves : List Token} (standing : At source stream place cursor)
    (moves : Moves source cursor leaves after) :
    At source stream (place.past (leafNodes leaves)) after :=
  standing.past (by simpa using moves)

/-- Opening a block leads inside. -/
theorem inside (standing : At source stream place cursor) (kind : Kind) :
    At source stream (place.inside kind) cursor.enter where
  split := by rw [standing.split, Place.before_inside, Cursor.ahead_enter]
  previous := by rw [Place.before_inside]; exact standing.previous
  ready := standing.ready.enter

end Cursor.At

/-! ## Headers and branches -/

/-- No leaf of a header or a condition contributes a word that would have ended it early. -/
theorem HeaderReads.spares {source : Text} {kind : Kind} {phase : Phase} {cursor : Cursor}
    {result : Header} (reads : HeaderReads source kind phase cursor result) :
    Spares source (phase.boundaries kind) cursor.previous result.leaves := by
  induction reads with
  | ended stuck => trivial
  | lineBreak taken broken =>
    refine ⟨fun word found => ?_, trivial⟩
    have spelled := (structural_eq_some_iff.mp found).2
    rw [broken] at spelled
    contradiction
  | atThen taken found conditional =>
    rw [leaves_headerAtThen]
    refine ⟨fun word same => ?_, trivial⟩
    rw [Option.mem_def, found, Option.some.injEq] at same
    exact same ▸ Machine.then_not_boundary phase kind
  | cut taken found boundary => trivial
  | plain taken unbroken inside further inductionHypothesis =>
    have previous := (Moves.of_advance? taken).previous
    rw [previous, trail_cons, trail_nil] at inductionHypothesis
    exact ⟨fun word found => (inside word found).2, inductionHypothesis⟩

/-- What stands in front of the condition of a branch, or is the whole of its start. -/
inductive BranchOpening (source : Text) (previous : Option String) : List Token → Prop where
  | word {token : Token} {small : String}
      (found : (role source token).structural previous = some small)
      (listed : small ∈ elseWords) :
      BranchOpening source previous [token]
  | elseIf {first second : Token} {gap : List Token}
      (found : (role source first).structural previous = some "else")
      (blank : AtMostOne source .gap gap) (goes_on : role source second = .word "if") :
      BranchOpening source previous (first :: (gap ++ [second]))

/-- A branch starts with an else word and its `if`; what may follow is a condition. -/
theorem branch_eq_opening {source : Text} {opened : Nat} {kind : Kind} {word : String}
    {cursor after : Cursor} {token : Token} (ready : cursor.Ready opened)
    (taken : cursor.advance? source = some (token, after))
    (found : (role source token).structural cursor.previous = some word)
    (listed : word ∈ elseWords) :
    ∃ opening middle, BranchOpening source cursor.previous opening ∧
      Moves source cursor opening middle ∧
      ((branch source kind (some word) cursor).leaves = opening ∨
        (branch source kind (some word) cursor).leaves =
          opening ++ (header source kind .condition middle).leaves) := by
  have moves := Moves.of_advance? taken
  have placed := ready.moves moves
  unfold branch
  rw [Cursor.take_eq taken]
  dsimp only
  split
  · rename_i is_else
    obtain rfl := Option.some.inj is_else
    have looked := nextOnLine_moves source after
    have there := placed.moves looked
    split
    · rename_i goes_on
      rw [placed.role_nextOnLine, looked.ahead, List.nil_append] at goes_on
      obtain ⟨second, only, names⟩ := take_takeGap there goes_on
      refine ⟨_, _, .elseIf found (atMostOne_takeGap source _) names,
        moves.trans (looked.trans (only ▸ takeGap_take_moves source _)), .inr ?_⟩
      simp [Header.prepend, only]
    · exact ⟨[token], after, .word found listed, moves, .inl rfl⟩
  · exact ⟨[token], after, .word found listed, moves, .inr rfl⟩

/-! ## Placements -/

/--
What holds of a site in every way in which a node is placed. The word that a token contributes is
that behind all tokens in front of its place.
-/
structure Placements (source : Text) (limit : Nat) (stream : List Token) (holds : Site → Prop) :
    Prop where
  /-- A block is opened where fewer blocks are around than the limit allows. -/
  block : ∀ {place : Place} {token : Token} {kind : Kind} {inner : List Node}
    {closed singleLine : Bool} {behind : List Token},
    (role source token).structural (trail source none place.before) = some kind.opener →
    place.around.length < limit →
    stream = place.before ++ (token :: Forest.leaves inner) ++ behind →
    Ends source kind (trail source none place.before) (.leaf token :: inner) closed behind →
    holds ⟨place, .block kind (.leaf token :: inner) closed singleLine⟩
  /-- The word that opens a block is its first node. -/
  opener : ∀ {place : Place} {token : Token} {kind : Kind},
    (role source token).structural (trail source none place.before) = some kind.opener →
    place.around.length < limit →
    holds ⟨place.inside kind, .leaf token⟩
  /-- The leaves of a header or a condition do not end it early. -/
  header : ∀ {place : Place} {kind : Kind} {phase : Phase} {leaves : List Token},
    place.kind? = some kind →
    Spares source (phase.boundaries kind) (trail source none place.before) leaves →
    ∀ site ∈ Forest.sites place (leafNodes leaves), holds site
  /-- Branches are started in conditionals. -/
  branch : ∀ {place : Place} {leaves : List Token},
    place.kind? = some .conditional →
    BranchOpening source (trail source none place.before) leaves →
    ∀ site ∈ Forest.sites place (leafNodes leaves), holds site
  /-- A terminator closes the block that it stands in. -/
  terminator : ∀ {place : Place} {kind : Kind} {leaves : List Token},
    place.kind? = some kind →
    Terminates source kind (trail source none place.before) leaves →
    ∀ site ∈ Forest.sites place (leafNodes leaves), holds site
  /-- An opener is kept flat where as many blocks are around as the limit allows. -/
  flat : ∀ {place : Place} {token : Token} {kind : Kind},
    (role source token).structural (trail source none place.before) = some kind.opener →
    place.around.length = limit →
    holds ⟨place, .leaf token⟩
  /-- Any other leaf opens nothing. -/
  plain : ∀ {place : Place} {token : Token},
    ((role source token).structural (trail source none place.before)).bind Kind.ofOpener? = none →
    holds ⟨place, .leaf token⟩

namespace Placements

variable {source : Text} {limit : Nat} {stream : List Token} {holds : Site → Prop}
  {place : Place} {cursor after : Cursor} {token : Token} {kind inner : Kind}

/-- A block moves the cursor by its leaves. -/
theorem node_moves (taken : cursor.advance? source = some (token, after)) {nested : Body}
    (reads : BodyReads source limit inner (Block.header source inner .opening after.enter).cursor
      nested) (closed singleLine : Bool) :
    Moves source cursor
      (Forest.leaves [.block inner
        (leafNodes (token :: (Block.header source inner .opening after.enter).leaves) ++
          nested.children) closed singleLine])
      nested.cursor.leave := by
  simpa [Forest.leaves, Node.leaves] using block_moves taken reads.moves

/-- A block and all that is inside it are placed in one of the ways, if its body is. -/
theorem of_block (placements : Placements source limit stream holds)
    (standing : cursor.At source stream place)
    (taken : cursor.advance? source = some (token, after))
    (found : (role source token).structural cursor.previous = some inner.opener)
    (allowed : cursor.depth < limit) {nested : Body}
    (reads : BodyReads source limit inner (Block.header source inner .opening after.enter).cursor
      nested)
    (body : ∀ {place : Place},
      (Block.header source inner .opening after.enter).cursor.At source stream place →
      place.kind? = some inner → place.around.length ≤ limit →
      ∀ site ∈ Forest.sites place nested.children, holds site) :
    ∀ site ∈ Forest.sites place
      [.block inner (leafNodes (token :: (Block.header source inner .opening after.enter).leaves) ++
        nested.children) nested.closed (Block.header source inner .opening after.enter).singleLine],
      holds site := by
  have room : place.around.length < limit := standing.ready.depth ▸ allowed
  have opens : cursor.enter.advance? source = some (token, after.enter) := by
    rw [Cursor.advance?_enter, taken]
    rfl
  have opened : after.enter.At source stream ((place.inside inner).past [.leaf token]) :=
    (standing.inside inner).past (Moves.of_advance? opens)
  have headed := opened.past_leaves (header_moves source inner .opening after.enter)
  have moves := block_moves taken reads.moves
  have ends := reads.ends headed.ready
  have spares := (header_reads source inner .opening after.enter).spares
  rw [standing.previous] at found
  rw [headed.previous, ← leaves_leafNodes (Block.header source inner .opening after.enter).leaves]
    at ends
  rw [opened.previous] at spares
  intro site member
  rw [Forest.sites, Forest.sites, List.append_nil, Node.sites, List.mem_cons] at member
  rcases member with rfl | member
  · have split : stream = place.before ++ (token :: Forest.leaves (leafNodes
        (Block.header source inner .opening after.enter).leaves ++ nested.children)) ++
          nested.cursor.ahead := by
      rw [standing.split, moves.ahead]
      simp
    refine placements.block found room split ?_
    have front : Ends source inner (trail source none place.before)
        (leafNodes (token :: (Block.header source inner .opening after.enter).leaves) ++
          nested.children) nested.closed nested.cursor.ahead :=
      Ends.prepend (by simpa using ends)
    exact front
  · rw [Forest.sites_append, List.mem_append] at member
    rcases member with member | member
    · rw [leafNodes, List.map_cons, Forest.sites_leaf_cons, List.mem_cons] at member
      rcases member with rfl | member
      · exact placements.opener found room
      · exact placements.header rfl spares site member
    · have inside : (place.inside inner).around.length ≤ limit := room
      have at_body := headed
      rw [Place.past_past] at at_body
      exact body at_body rfl inside site member

/-- All that a body yields is placed in one of the ways. -/
theorem of_body (placements : Placements source limit stream holds) {result : Body}
    (reads : BodyReads source limit kind cursor result)
    (standing : cursor.At source stream place) (within : place.kind? = some kind)
    (room : place.around.length ≤ limit) :
    ∀ site ∈ Forest.sites place result.children, holds site := by
  induction reads generalizing place with
  | ended stuck => exact List.forall_mem_nil _
  | branch taken found further inductionHypothesis =>
    rename_i kind cursor after token word rest
    obtain ⟨meaning, rfl, listed⟩ := means_of_turn found
    obtain ⟨opening, middle, starts, moved, leaves⟩ :=
      branch_eq_opening standing.ready taken meaning listed
    have led := standing.past_leaves (branch_moves source .conditional (some word) cursor)
    have after_opening := standing.past_leaves moved
    have spares := (header_reads source .conditional .condition middle).spares
    rw [standing.previous] at starts
    rw [after_opening.previous] at spares
    rw [Body.prepend, Forest.sites_append, List.forall_mem_append]
    refine ⟨?_, inductionHypothesis led within room⟩
    rcases leaves with only | both
    · rw [only]
      exact placements.branch within starts
    · rw [both, leafNodes, List.map_append, Forest.sites_append, List.forall_mem_append]
      exact ⟨placements.branch within starts, placements.header within spares⟩
  | tryEnd taken found =>
    rename_i kind cursor after token
    cases tried : (closeWithEnd source kind cursor).1 with
    | some back =>
      have terminates := terminates_of_closeWithEnd standing.ready taken (means_of_turn found) tried
      rw [standing.previous] at terminates
      exact placements.terminator within terminates
    | none => exact List.forall_mem_nil _
  | close taken found =>
    obtain ⟨word, meaning, own⟩ := means_of_turn found
    rw [standing.previous] at meaning
    obtain ⟨free, spelled⟩ := structural_eq_some_iff.mp meaning
    exact placements.terminator within ⟨.word spelled own, free⟩
  | defer taken found => exact List.forall_mem_nil _
  | nest taken found allowed inside further nestedHypothesis inductionHypothesis =>
    obtain ⟨meaning, opens⟩ := means_of_turn found
    rw [← (Machine.opener_of_ofOpener? opens).2] at meaning
    have block := placements.of_block standing taken meaning allowed inside
      fun at_body within room => nestedHypothesis at_body within room
    rw [Body.prepend, Forest.sites_append, List.forall_mem_append]
    exact ⟨block, inductionHypothesis (standing.past (node_moves taken inside _ _)) within room⟩
  | flat taken found full further inductionHypothesis =>
    rename_i kind inner cursor after token word rest
    obtain ⟨meaning, opens⟩ := means_of_turn found
    rw [← (Machine.opener_of_ofOpener? opens).2, standing.previous] at meaning
    have moves := (Moves.of_advance? taken).note (.keptFlat limit word token.start)
    have on := standing.past_leaves moves
    have many : place.around.length = limit := by
      have := standing.ready.depth
      omega
    rw [Body.prepend, Forest.sites_append, List.forall_mem_append]
    refine ⟨?_, inductionHypothesis on within room⟩
    simpa using placements.flat meaning many
  | plain taken found further inductionHypothesis =>
    have on := standing.past_leaves (Moves.of_advance? taken)
    have opens_none := opener_of_turn_plain found
    rw [standing.previous] at opens_none
    rw [Body.prepend, Forest.sites_append, List.forall_mem_append]
    refine ⟨?_, inductionHypothesis on within room⟩
    simpa using placements.plain opens_none

/-- All statements of a file are placed in one of the ways. -/
theorem of_forest (placements : Placements source limit stream holds) {nodes : List Node}
    {last : Cursor} (reads : ForestReads source limit cursor nodes last)
    (standing : cursor.At source stream place) (outside : place.around = []) :
    ∀ site ∈ Forest.sites place nodes, holds site := by
  induction reads generalizing place with
  | ended nothing => exact List.forall_mem_nil _
  | nest taken found opens allowed inside further inductionHypothesis =>
    rename_i cursor after last token word kind nested rest
    rw [← (Machine.opener_of_ofOpener? opens).2] at found
    have block := placements.of_block standing taken found allowed inside
      fun at_body within room => placements.of_body inside at_body within room
    rw [← List.singleton_append, Forest.sites_append, List.forall_mem_append]
    exact ⟨block, inductionHypothesis (standing.past (node_moves taken inside _ _)) outside⟩
  | flat taken found opens full further inductionHypothesis =>
    rename_i cursor after last token word kind rest
    rw [← (Machine.opener_of_ofOpener? opens).2, standing.previous] at found
    have moves := (Moves.of_advance? taken).note (.keptFlat limit word token.start)
    have many : place.around.length = limit := by
      have := standing.ready.depth
      rw [outside] at this ⊢
      rw [List.length_nil] at this ⊢
      omega
    rw [Forest.sites_leaf_cons, List.forall_mem_cons]
    exact ⟨placements.flat found many, inductionHypothesis (standing.past_leaves moves) outside⟩
  | plain taken found further inductionHypothesis =>
    have on := standing.past_leaves (Moves.of_advance? taken)
    rw [standing.previous] at found
    rw [Forest.sites_leaf_cons, List.forall_mem_cons]
    exact ⟨placements.plain found, inductionHypothesis on outside⟩

/-- What holds in every way in which a node is placed holds of all nodes of a recovered file. -/
theorem of_recover {tokens : List Token}
    (placements : Placements source limit (significantTokens tokens) holds) :
    ∀ site ∈ Forest.sites .start (recover source limit tokens).1.children, holds site :=
  placements.of_forest (forest_reads source limit (Cursor.ofTokens tokens))
    (.ofTokens source tokens) rfl

end Placements

end BrightBlocks.Block
