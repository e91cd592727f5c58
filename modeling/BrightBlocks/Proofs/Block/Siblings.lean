import BrightBlocks.Proofs.Block.Ending

/-!
# What stands behind a block that is left open

A block is left open where a terminator stands that is not its own, or where the input ends. The
block around it meets the same token with the same word in front: it closes there, or it is left
open in turn. So no block goes on behind a child that is left open (`OpenChildLast`), and in the
file only the terminator that nothing was closed by can follow (`StrayBehind`).
`recover_open_child_last` says so of every block of a recovered tree.

Which blocks are left open at a terminator is no part of this module.
-/

namespace BrightBlocks.Block

/-- What the children of a block end with behind a child that is left open. -/
inductive BehindOpen (source : Text) (kind : Kind) : Bool → List Node → Prop where
  | terminator {back : List Token} (closes : Closing source kind back) :
      BehindOpen source kind true (leafNodes back)
  | nothing : BehindOpen source kind false []

/-- Behind every child that is left open, only the terminator of the block is left. -/
def StopsAtOpen (source : Text) (kind : Kind) (closed : Bool) (children : List Node) : Prop :=
  ∀ (front : List Node) (child : Block) (back : List Node),
    children = front ++ child.node :: back → child.closed = false →
      BehindOpen source kind closed back

/-- A block goes on behind none of its children that is left open, so it has at most one of them. -/
structure OpenChildLast (source : Text) (parent : Block) : Prop where
  behind : StopsAtOpen source parent.kind parent.closed parent.children
  others : ∀ child ∈ (Forest.blocks parent.children).dropLast, child.closed = true

/-- What follows in a file on a block that is left open. -/
inductive StrayBehind (source : Text) (previous : Option String) : List Node → Prop where
  | nothing : StrayBehind source previous []
  | terminator {token : Token} {rest : List Node} {word : String}
      (found : (role source token).structural previous = some word)
      (ends : word = "end" ∨ word ∈ closers) :
      StrayBehind source previous (.leaf token :: rest)

/-! ## Children one by one -/

section

variable {source : Text} {kind : Kind} {closed : Bool} {children : List Node}

theorem stopsAtOpen_nil : StopsAtOpen source kind closed [] := by
  intro front child back split
  simp at split

theorem StopsAtOpen.tail {node : Node} (stops : StopsAtOpen source kind closed (node :: children)) :
    StopsAtOpen source kind closed children :=
  fun front child back split => stops (node :: front) child back (by rw [split, List.cons_append])

/-- One more child in front matters only where it is left open itself. -/
theorem StopsAtOpen.cons {node : Node} (further : StopsAtOpen source kind closed children)
    (own : ∀ child : Block, node = child.node → child.closed = false →
      BehindOpen source kind closed children) :
    StopsAtOpen source kind closed (node :: children) := by
  intro front child back split leftOpen
  cases front with
  | nil =>
    obtain ⟨same, rfl⟩ := List.cons.inj split
    exact own child same leftOpen
  | cons first front =>
    obtain ⟨-, rest⟩ := List.cons.inj split
    exact further front child back rest leftOpen

theorem StopsAtOpen.leaf_cons (further : StopsAtOpen source kind closed children)
    (token : Token) : StopsAtOpen source kind closed (.leaf token :: children) :=
  further.cons nofun

theorem StopsAtOpen.leaves_append (further : StopsAtOpen source kind closed children)
    (leaves : List Token) : StopsAtOpen source kind closed (leafNodes leaves ++ children) := by
  induction leaves with
  | nil => exact further
  | cons token rest inductionHypothesis => exact inductionHypothesis.leaf_cons token

theorem stopsAtOpen_leafNodes (leaves : List Token) :
    StopsAtOpen source kind closed (leafNodes leaves) := by
  simpa using stopsAtOpen_nil.leaves_append leaves

/-- Behind a child that is left open no other block stands. -/
theorem BehindOpen.blocks_eq_nil {back : List Node} (behind : BehindOpen source kind closed back) :
    Forest.blocks back = [] := by
  cases behind with
  | terminator closes =>
    rw [Forest.blocks, leafNodes, List.filterMap_map]
    exact List.filterMap_eq_nil_iff.mpr fun _ _ => rfl
  | nothing => rfl

/-- All child blocks but the last one are closed. -/
theorem StopsAtOpen.closed_of_mem_dropLast (stops : StopsAtOpen source kind closed children) :
    ∀ child ∈ (Forest.blocks children).dropLast, child.closed = true := by
  induction children with
  | nil => exact nofun
  | cons node rest inductionHypothesis =>
    have further := inductionHypothesis stops.tail
    cases node with
    | leaf token => exact further
    | block inner children flag singleLine =>
      have blocks : Forest.blocks (.block inner children flag singleLine :: rest) =
          ⟨inner, children, flag, singleLine⟩ :: Forest.blocks rest := rfl
      cases others : Forest.blocks rest with
      | nil => simp [blocks, others]
      | cons next more =>
        rw [blocks, others, List.dropLast_cons_cons, ← others, List.forall_mem_cons]
        refine ⟨?_, further⟩
        cases flag with
        | true => rfl
        | false =>
          have behind := stops [] ⟨inner, children, false, singleLine⟩ rest rfl rfl
          rw [behind.blocks_eq_nil] at others
          contradiction

end

/-! ## Where a block was left open -/

section

variable {source : Text} {limit opened : Nat} {kind inner : Kind} {cursor : Cursor}

/-- The word at which a block is left open ends blocks. -/
theorem LeavesOpen.word_eq {previous : Option String} {token : Token} {behind : List Token}
    (opens : LeavesOpen source kind previous (token :: behind)) :
    ∃ word, (role source token).structural previous = some word ∧
      (word = "end" ∨ word ∈ closers) := by
  cases opens with
  | foreignEnd found other => exact ⟨"end", found, .inl rfl⟩
  | foreignCloser found closer foreign => exact ⟨_, found, .inr closer⟩

/-- A word that ends blocks neither starts a branch nor opens a block. -/
theorem ending_word_apart {word : String} (ends : word = "end" ∨ word ∈ closers) :
    word ∉ elseWords ∧ Kind.ofOpener? word = none := by
  have all : ∀ word ∈ "end" :: closers, word ∉ elseWords ∧ Kind.ofOpener? word = none := by
    decide
  exact all word (List.mem_cons.mpr ends)

/-- The block around meets the same token, and closes there or is left open too. -/
theorem BodyReads.behindOpen {result : Body} (reads : BodyReads source limit kind cursor result)
    (ready : cursor.Ready opened) (opens : LeavesOpen source inner cursor.previous cursor.ahead) :
    BehindOpen source kind result.closed result.children := by
  -- in the cases where the body would go on, the word is none that ends a block
  have ending {token : Token} {after : Cursor}
      (taken : cursor.advance? source = some (token, after)) :
      ∃ word, (role source token).structural cursor.previous = some word ∧
        (word = "end" ∨ word ∈ closers) := by
    rw [Cursor.ahead_of_advance? taken] at opens
    exact opens.word_eq
  cases reads with
  | ended stuck => exact .nothing
  | tryEnd taken found =>
    cases tried : (closeWithEnd source kind cursor).1 with
    | some back =>
      exact .terminator (terminates_of_closeWithEnd ready taken (means_of_turn found) tried).spells
    | none => exact .nothing
  | close taken found =>
    obtain ⟨word, meaning, own⟩ := means_of_turn found
    exact .terminator (.word (structural_eq_some_iff.mp meaning).2 own)
  | defer taken found => exact .nothing
  | branch taken found further =>
    obtain ⟨word, meaning, ends⟩ := ending taken
    obtain ⟨same, -, listed⟩ := means_of_turn found
    obtain rfl := Option.some.inj (meaning.symm.trans same)
    exact absurd listed (ending_word_apart ends).1
  | nest taken found | flat taken found =>
    obtain ⟨word, meaning, ends⟩ := ending taken
    obtain ⟨same, opener⟩ := means_of_turn found
    obtain rfl := Option.some.inj (meaning.symm.trans same)
    rw [(ending_word_apart ends).2] at opener
    contradiction
  | plain taken found =>
    obtain ⟨word, meaning, ends⟩ := ending taken
    obtain ⟨-, no_end, no_closer, -⟩ := means_of_turn found word meaning
    exact absurd ends (not_or.mpr ⟨no_end, no_closer⟩)

/-- What holds of the children of a body, and of all blocks inside. -/
structure Stopped (source : Text) (kind : Kind) (closed : Bool) (children : List Node) : Prop where
  own : StopsAtOpen source kind closed children
  inside : ∀ parent ∈ Forest.walk children, OpenChildLast source parent

theorem Stopped.leaves_append {closed : Bool} {children : List Node}
    (stopped : Stopped source kind closed children) (leaves : List Token) :
    Stopped source kind closed (leafNodes leaves ++ children) where
  own := stopped.own.leaves_append leaves
  inside := by simpa [leafNodes] using stopped.inside

theorem Stopped.openChildLast {closed : Bool} {children : List Node}
    (stopped : Stopped source kind closed children) (singleLine : Bool) :
    OpenChildLast source ⟨kind, children, closed, singleLine⟩ :=
  ⟨stopped.own, stopped.own.closed_of_mem_dropLast⟩

theorem ready_header {after : Cursor} {token : Token} (inner : Kind) (ready : cursor.Ready opened)
    (taken : cursor.advance? source = some (token, after)) :
    (header source inner .opening after.enter).cursor.Ready (opened + 1) :=
  (ready.moves (.of_advance? taken)).enter.moves (header_moves source inner .opening after.enter)

/-- Where a nested block has ended, the block around it goes on only if the nested one is closed. -/
theorem leavesOpen_leave {nested : Body} (reads : BodyReads source limit inner cursor nested)
    (ready : cursor.Ready opened) (leftOpen : nested.closed = false) :
    LeavesOpen source inner nested.cursor.leave.previous nested.cursor.leave.ahead := by
  have moves := reads.moves
  have ends := reads.ends ready
  obtain ⟨children, closed, last⟩ := nested
  obtain rfl : closed = false := leftOpen
  cases ends with
  | leftOpen opens =>
    show LeavesOpen source inner last.previous last.ahead
    rwa [moves.previous]

/-- A nested block goes on behind none of its children that is left open. -/
theorem block_stopped {after : Cursor} {token : Token} {nested : Body}
    (stopped : Stopped source inner nested.closed nested.children) :
    ∀ parent ∈ (Node.block inner
        (leafNodes (token :: (header source inner .opening after.enter).leaves) ++ nested.children)
        nested.closed (header source inner .opening after.enter).singleLine).walk,
      OpenChildLast source parent := by
  have whole := stopped.leaves_append (token :: (header source inner .opening after.enter).leaves)
  rw [Node.walk, List.forall_mem_cons]
  exact ⟨whole.openChildLast _, whole.inside⟩

/-- No body goes on behind a child that is left open. -/
theorem BodyReads.stopped {result : Body} (reads : BodyReads source limit kind cursor result)
    (ready : cursor.Ready opened) : Stopped source kind result.closed result.children := by
  induction reads generalizing opened with
  | ended stuck => exact ⟨stopsAtOpen_nil, List.forall_mem_nil _⟩
  | branch taken found further inductionHypothesis =>
    exact (inductionHypothesis (ready.moves (branch_moves source _ _ _))).leaves_append _
  | tryEnd taken found => exact ⟨stopsAtOpen_leafNodes _, by simp [leafNodes]⟩
  | close taken found => exact ⟨stopsAtOpen_leafNodes [_], by simp [Forest.walk, Node.walk]⟩
  | defer taken found => exact ⟨stopsAtOpen_nil, List.forall_mem_nil _⟩
  | nest taken found allowed inside further nestedHypothesis inductionHypothesis =>
    rename_i kind inner cursor after token word nested rest
    have headed := ready_header inner ready taken
    have left := (headed.moves inside.moves).leave
    have stopped := inductionHypothesis left
    refine ⟨stopped.own.cons fun child same leftOpen => ?_, ?_⟩
    · obtain ⟨-, -, flag, -⟩ := Node.block.inj same
      exact further.behindOpen left (leavesOpen_leave inside headed (flag.trans leftOpen))
    · rw [Body.prepend, List.singleton_append, Forest.walk, List.forall_mem_append]
      exact ⟨block_stopped (nestedHypothesis headed), stopped.inside⟩
  | flat taken found full further inductionHypothesis =>
    rename_i kind inner cursor after token word rest
    have moves := (Cursor.Moves.of_advance? taken).note (.keptFlat limit word token.start)
    exact (inductionHypothesis (ready.moves moves)).leaves_append [token]
  | plain taken found further inductionHypothesis =>
    exact (inductionHypothesis (ready.moves (.of_advance? taken))).leaves_append [_]

/-! ## Files -/

/-- What stands in a file where a block was left open is nothing, or a terminator. -/
theorem ForestReads.strayBehind {nodes : List Node} {last : Cursor}
    (reads : ForestReads source limit cursor nodes last)
    (opens : LeavesOpen source inner cursor.previous cursor.ahead) :
    StrayBehind source cursor.previous nodes := by
  cases reads with
  | ended nothing => exact .nothing
  | nest taken found opener | flat taken found opener =>
    rw [Cursor.ahead_of_advance? taken] at opens
    obtain ⟨word, meaning, ends⟩ := opens.word_eq
    obtain rfl := Option.some.inj (meaning.symm.trans found)
    rw [(ending_word_apart ends).2] at opener
    contradiction
  | plain taken found =>
    rw [Cursor.ahead_of_advance? taken] at opens
    obtain ⟨word, meaning, ends⟩ := opens.word_eq
    exact .terminator meaning ends

/-- Behind every child that is left open the forest ends, or goes on with a stray terminator. -/
def StraysAtOpen (source : Text) (previous : Option String) (nodes : List Node) : Prop :=
  ∀ (front : List Node) (child : Block) (back : List Node),
    nodes = front ++ child.node :: back → child.closed = false →
      StrayBehind source (trail source previous (Forest.leaves (front ++ [child.node]))) back

theorem StraysAtOpen.cons {previous : Option String} {node : Node} {nodes : List Node}
    (further : StraysAtOpen source (trail source previous node.leaves) nodes)
    (own : ∀ child : Block, node = child.node → child.closed = false →
      StrayBehind source (trail source previous node.leaves) nodes) :
    StraysAtOpen source previous (node :: nodes) := by
  intro front child back split leftOpen
  cases front with
  | nil =>
    obtain ⟨rfl, rfl⟩ := List.cons.inj split
    simpa [Forest.leaves] using own child rfl leftOpen
  | cons first front =>
    obtain ⟨rfl, rest⟩ := List.cons.inj split
    have behind := further front child back rest leftOpen
    rwa [← trail_append] at behind

theorem ForestReads.stopped {nodes : List Node} {last : Cursor}
    (reads : ForestReads source limit cursor nodes last) (ready : cursor.Ready opened) :
    StraysAtOpen source cursor.previous nodes ∧
      ∀ parent ∈ Forest.walk nodes, OpenChildLast source parent := by
  induction reads generalizing opened with
  | ended nothing => exact ⟨by simp [StraysAtOpen], nofun⟩
  | nest taken found opener allowed inside further inductionHypothesis =>
    rename_i cursor after last token word kind nested rest
    have headed := ready_header kind ready taken
    have left := (headed.moves inside.moves).leave
    obtain ⟨strays, deeper⟩ := inductionHypothesis left
    have previous := (block_moves taken inside.moves).previous
    have leaves : (Node.block kind
        (leafNodes (token :: (header source kind .opening after.enter).leaves) ++ nested.children)
        nested.closed (header source kind .opening after.enter).singleLine).leaves =
          token :: (header source kind .opening after.enter).leaves ++
            Forest.leaves nested.children := by
      simp [Node.leaves]
    rw [previous, ← leaves] at strays
    refine ⟨strays.cons fun child same leftOpen => ?_, ?_⟩
    · obtain ⟨-, -, flag, -⟩ := Node.block.inj same
      rw [leaves, ← previous]
      exact further.strayBehind (leavesOpen_leave inside headed (flag.trans leftOpen))
    · rw [Forest.walk, List.forall_mem_append]
      exact ⟨block_stopped (inside.stopped headed), deeper⟩
  | flat taken found opener full further inductionHypothesis =>
    rename_i cursor after last token word kind rest
    have moves := (Cursor.Moves.of_advance? taken).note (.keptFlat limit word token.start)
    obtain ⟨strays, deeper⟩ := inductionHypothesis (ready.moves moves)
    rw [moves.previous] at strays
    exact ⟨strays.cons nofun, deeper⟩
  | plain taken found further inductionHypothesis =>
    have moves := Cursor.Moves.of_advance? taken
    obtain ⟨strays, deeper⟩ := inductionHypothesis (ready.moves moves)
    rw [moves.previous] at strays
    exact ⟨strays.cons nofun, deeper⟩

end

/--
In a recovered tree, nothing but the terminator of a block stands behind a child of it that is left
open, and nothing at all if the block is left open too. In the file, such a child is the last one,
or the next leaf is a terminator that closes nothing; whether it is one is decided by all tokens in
front of it.
-/
theorem recover_open_child_last (source : Text) (limit : Nat) (tokens : List Token) :
    let root := (recover source limit tokens).1.children
    (∀ parent ∈ Forest.walk root, OpenChildLast source parent) ∧
      ∀ (front : List Node) (child : Block) (back : List Node),
        root = front ++ child.node :: back → child.closed = false →
          StrayBehind source (trail source none (Forest.leaves (front ++ [child.node]))) back := by
  obtain ⟨strays, inside⟩ :=
    (forest_reads source limit (Cursor.ofTokens tokens)).stopped (.ofTokens tokens)
  exact ⟨inside, strays⟩

end BrightBlocks.Block
