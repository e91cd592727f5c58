import BrightBlocks.Proofs.Block.Nested

/-!
# Closed blocks stand alone

A block is closed by one token, which no gap is. Which block that is does not depend on what
is behind the token (`Completes.finish`), and up to it the block has been read as it would
be at the start of a file (`Nested`). So the tokens from the opener of a block to the last one
of its terminator make up the same block when they are all that there is
(`standalone_of_closed`).

A block that is left open has no last token of its own: how far it reaches depends on what
comes behind.
-/

namespace BrightBlocks.Block

/-- The block that an open one is once it has been left. -/
def Frame.block (frame : Frame) (closed : Bool) : Block :=
  ⟨frame.kind, frame.children, closed, frame.singleLine⟩

namespace Machine

/-- The blocks that have been left, in the file and in the blocks that are open. -/
def held (machine : Machine) : List Block :=
  Forest.walk machine.root ++ machine.stack.flatMap fun frame => Forest.walk frame.children

/-- All closed blocks that the machine holds have a property. -/
def Holds (property : Block → Prop) (machine : Machine) : Prop :=
  ∀ block ∈ machine.held, block.closed = true → property block

section

variable {source : Text} {limit : Nat} {machine : Machine} {token : Token} {next : List Token}
  {frame : Frame} {outer : List Frame}

/-! ## What closes a block -/

/-- The token is a word that closes the block `frame` alone, once those inside of it are left. -/
def ClosedByWord (source : Text) (machine : Machine) (token : Token) (frame : Frame)
    (outer : List Frame) : Prop :=
  ∃ word ∈ closers, (role source token).structural machine.previous = some word ∧
    ((machine.unwind (fun kind => word ∈ kind.closers)
      (.deferredCloser · word token.start)).append source token).stack = frame :: outer

/-- The token closes the block `frame`, which has it as its last leaf. -/
inductive Completes (source : Text) (machine : Machine) (token : Token) (frame : Frame)
    (outer : List Frame) : Prop where
  /-- The second word of a terminator. -/
  | second (stands : machine.stage = .closing) (unspaced : role source token ≠ .gap)
      (opened : (machine.append source token).stack = frame :: outer)
  | closer (stands : machine.stage = .body)
      (closes : machine.ClosedByWord source token frame outer)
  /-- A closing word that cuts a header short. -/
  | boundary {phase : Phase} {kind : Kind} {word : String} (stands : machine.stage = .front phase)
      (found : (role source token).structural machine.previous = some word)
      (opened : machine.kind? = some kind) (boundary : word ∈ phase.boundaries kind)
      (closes : ClosedByWord source
        { machine.note (.headerCutShort kind word token.start) with stage := .body } token frame
        outer)

theorem ClosedByWord.role_ne (closes : machine.ClosedByWord source token frame outer) :
    role source token ≠ .gap := by
  obtain ⟨word, -, found, -⟩ := closes
  simp [role_of_structural found]

theorem Completes.role_ne (completes : machine.Completes source token frame outer) :
    role source token ≠ .gap := by
  cases completes with
  | second stands unspaced => exact unspaced
  | closer stands closes => exact closes.role_ne
  | boundary stands found opened boundary closes => exact closes.role_ne

theorem Descends.below_of_stack {reached : Machine} (descends : machine.Descends reached)
    (opened : reached.stack = frame :: outer) :
    outer <:+ machine.stack ∧ outer.length < machine.stack.length := by
  obtain ⟨below, length_le⟩ := descends
  rw [opened] at below length_le
  exact ⟨below.trans (List.tail_suffix _), length_le⟩

theorem ClosedByWord.below (closes : machine.ClosedByWord source token frame outer) :
    outer <:+ machine.stack ∧ outer.length < machine.stack.length := by
  obtain ⟨word, -, -, opened⟩ := closes
  exact (((Descends.refl machine).unwind ..).append source token).below_of_stack opened

/-- The blocks around one that is closed were open before. -/
theorem Completes.below (completes : machine.Completes source token frame outer) :
    outer <:+ machine.stack ∧ outer.length < machine.stack.length := by
  cases completes with
  | second stands unspaced opened =>
    exact ((Descends.refl machine).append source token).below_of_stack opened
  | closer stands closes => exact closes.below
  | boundary stands found opened boundary closes => exact closes.below

end

section

variable {source : Text} {limit : Nat} {whole part : Machine} {token : Token} {frame : Frame}
  {base : List Frame}

theorem ClosedByWord.finish (closes : whole.ClosedByWord source token frame base)
    (above : Above base whole part) (next : List Token) :
    (part.readBody source limit token next).stack = [] ∧
      (part.readBody source limit token next).root = [(frame.block true).node] := by
  obtain ⟨word, listed, found, opened⟩ := closes
  have deep : base.length < (whole.unwind (fun kind => word ∈ kind.closers)
      (.deferredCloser · word token.start)).stack.length := by
    rw [← length_stack_append _ source token, opened]
    exact Nat.lt_succ_self _
  rw [← above.previous] at found
  rw [readBody_of_closer found listed]
  exact ((above.unwind _ deep).append source token).finish opened true

/-- A token that closes a block does so as well where the block is all that there is. -/
theorem Completes.finish (completes : whole.Completes source token frame base)
    (above : Above base whole part) (next : List Token) :
    (part.read source limit token next).stack = [] ∧
      (part.read source limit token next).root = [(frame.block true).node] := by
  cases completes with
  | second stands unspaced opened =>
    rw [← above.stage] at stands
    simp only [Machine.read, stands, if_neg unspaced]
    exact (above.append source token).finish opened true
  | closer stands closes =>
    rw [read_of_body (above.stage.trans stands)]
    exact closes.finish above next
  | boundary stands found opened boundary closes =>
    rw [← above.previous] at found
    rw [read_of_front (above.stage.trans stands),
      readFront_of_boundary found (above.kind?.trans opened) boundary]
    exact closes.finish ((above.note _ _).setStage .body) next

end

/-! ## The blocks that are held -/

@[simp]
theorem mem_held_attach {machine : Machine} {nodes : List Node} {block : Block} :
    block ∈ (machine.attach nodes).held ↔ block ∈ machine.held ∨ block ∈ Forest.walk nodes := by
  obtain ⟨stage, stack, root, previous, log⟩ := machine
  cases stack with
  | nil => simp [attach, held]
  | cons frame outer =>
    simp [attach, held, or_left_comm, or_comm]

namespace Holds

variable {property : Block → Prop} {source : Text} {machine : Machine}

theorem note (holds : machine.Holds property) (notice : Notice) :
    (machine.note notice).Holds property :=
  holds

theorem setStage (holds : machine.Holds property) (stage : Stage) :
    Holds property { machine with stage := stage } :=
  holds

theorem enter (holds : machine.Holds property) (kind : Kind) :
    (machine.enter kind).Holds property :=
  holds

theorem setSingleLine (holds : machine.Holds property) (singleLine : Bool) :
    (machine.setSingleLine singleLine).Holds property := by
  obtain ⟨stage, stack, root, previous, log⟩ := machine
  cases stack <;> exact holds

theorem append (holds : machine.Holds property) (source : Text) (token : Token) :
    (machine.append source token).Holds property := by
  intro block member
  rcases mem_held_attach.mp member with held | own
  · exact holds block held
  · simp [Forest.walk, Node.walk] at own

/-- A block that is left is held, and counts if it is left as a closed one. -/
theorem leave (holds : machine.Holds property) {closed : Bool}
    (own : closed = true → ∀ frame outer, machine.stack = frame :: outer →
      property (frame.block true)) :
    (machine.leave closed).Holds property := by
  obtain ⟨stage, stack, root, previous, log⟩ := machine
  cases stack with
  | nil => exact holds
  | cons frame outer =>
    intro block member is_closed
    have inside : block ∈ held ⟨.body, outer, root, previous, log⟩ ∨
        block ∈ frame.block closed :: Forest.walk frame.children := by
      simpa [Forest.walk, Node.walk, Frame.block] using mem_held_attach.mp member
    rcases inside with outside | here
    · apply holds block _ is_closed
      simp only [held, List.flatMap_cons, List.mem_append] at outside ⊢
      exact outside.imp_right .inr
    rcases List.mem_cons.mp here with rfl | deeper
    · obtain rfl : closed = true := is_closed
      exact own rfl frame outer rfl
    · apply holds block _ is_closed
      simp [held, deeper]

theorem unwind (holds : machine.Holds property) (closes : Kind → Bool) (notice : Kind → Notice) :
    (machine.unwind closes notice).Holds property := by
  fun_induction Machine.unwind closes notice machine with
  | case1 => exact holds
  | case2 => exact holds
  | case3 machine frame outer opened rejects inductionHypothesis =>
    refine inductionHypothesis ((holds.note _).leave ?_)
    intro impossible
    contradiction

variable {limit : Nat} {token : Token} {next : List Token} {after : Machine}

theorem bodyStep (holds : machine.Holds property)
    (step : BodyStep source limit machine token next after)
    (own : ∀ frame outer, machine.ClosedByWord source token frame outer →
      property (frame.block true)) : after.Holds property := by
  cases step with
  | plain => exact holds.append source token
  | branch => exact (holds.append source token).setStage _
  | strayEnd => exact (holds.unwind _ _).append source token
  | ownEnd => exact ((holds.unwind _ _).append source token).setStage .closing
  | @closer word found listed =>
    refine ((holds.unwind _ _).append source token).leave ?_
    exact fun _ frame outer opened => own frame outer ⟨word, listed, found, opened⟩
  | opener => exact (holds.enter _).append source token
  | flat => exact (holds.note _).append source token

theorem frontStep {phase : Phase} (holds : machine.Holds property)
    (stands : machine.stage = .front phase)
    (step : FrontStep source limit phase machine token next after)
    (own : ∀ frame outer, machine.Completes source token frame outer →
      property (frame.block true)) : after.Holds property := by
  cases step with
  | plain => exact holds.append source token
  | lineBreak => exact (holds.append source token).setStage .body
  | atThen found conditional same =>
    rcases same with rfl | ⟨singleLine, rfl⟩
    · exact (holds.append source token).setStage .body
    · exact ((holds.setSingleLine _).append source token).setStage .body
  | cutShort found opened boundary =>
    refine ((holds.note _).setStage .body).bodyStep (bodyStep_readBody _ token next) ?_
    exact fun frame outer closes => own frame outer (.boundary stands found opened boundary closes)

/-- The closed blocks that are held after a token were held before, or are closed by the token. -/
theorem read (holds : machine.Holds property)
    (own : ∀ frame outer, machine.Completes source token frame outer →
      property (frame.block true)) :
    (machine.read source limit token next).Holds property := by
  have placed := holds.append source token
  unfold Machine.read
  split
  · rename_i phase front
    exact holds.frontStep front (frontStep_readFront machine phase token next) own
  · exact placed.setStage _
  · rename_i closing
    split
    · exact placed
    · rename_i unspaced
      refine placed.leave ?_
      exact fun _ frame outer opened => own frame outer (.second closing unspaced opened)
  · rename_i standing
    refine holds.bodyStep (bodyStep_readBody machine token next) ?_
    exact fun frame outer closes => own frame outer (.closer standing closes)

end Holds

/-! ## Runs -/

/--
The block is all that there is, closed by its last token, when its own tokens are read at the start
of a file.
-/
def Standalone (source : Text) (limit : Nat) (tokens : List Token) (block : Block) : Prop :=
  ∃ before own last behind, tokens = before ++ (own ++ last :: behind) ∧
    role source last ≠ .gap ∧ ∀ next,
      let ended := (start.feed source limit (last :: behind) own).read source limit last next
      ended.stack = [] ∧ ended.root = [block.node]

/-- Open blocks have come from their openers alone, and so have the closed ones that are held. -/
structure Traced (source : Text) (limit : Nat) (past ahead : List Token) (machine : Machine) :
    Prop where
  nested : machine.Nested source limit past ahead
  standalone : machine.Holds (Standalone source limit (past ++ ahead))
  shallow : machine.stack.length ≤ past.length

namespace Traced

variable {source : Text} {limit : Nat} {machine : Machine} {past : List Token}

theorem nil (source : Text) (limit : Nat) (ahead : List Token) :
    Traced source limit [] ahead start := by
  refine ⟨.nil source limit ahead, ?_, Nat.le_refl _⟩
  intro block member
  simp [held, start, Forest.walk] at member

theorem read {token : Token} {rest : List Token}
    (traced : Traced source limit past (token :: rest) machine) (room : past.length < limit) :
    Traced source limit (past ++ [token]) rest
      (machine.read source limit token (rest.take 2)) := by
  obtain ⟨nested, standalone, shallow⟩ := traced
  refine ⟨nested.read (shallow.trans_lt room), ?_, ?_⟩
  · rw [List.append_assoc, List.singleton_append]
    apply standalone.read
    intro frame outer completes
    obtain ⟨below, smaller⟩ := completes.below
    obtain ⟨before, own, rfl, above⟩ := nested outer below smaller
    refine ⟨before, own, token, rest, List.append_assoc .., completes.role_ne, ?_⟩
    exact fun next => completes.finish above next
  · rw [List.length_append, List.length_singleton]
    exact (length_stack_read_le source limit machine token _).trans (Nat.succ_le_succ shallow)

/-- Every token keeps blocks traced, as long as there is room for as many blocks as tokens. -/
theorem feed {tokens behind : List Token}
    (traced : Traced source limit past (tokens ++ behind) machine)
    (room : past.length + tokens.length ≤ limit) :
    Traced source limit (past ++ tokens) behind (machine.feed source limit behind tokens) := by
  induction tokens generalizing past machine with
  | nil => rwa [List.append_nil]
  | cons token rest inductionHypothesis =>
    rw [List.length_cons] at room
    have further := traced.read (by omega)
    have fits : (past ++ [token]).length + rest.length ≤ limit := by
      rw [List.length_append, List.length_singleton]
      omega
    rw [← List.singleton_append, ← List.append_assoc]
    exact inductionHypothesis further fits

end Traced

end Machine

/-- A closed block of a stream stands alone, where there is room for as many blocks as tokens. -/
theorem standalone_of_closed {source : Text} {limit : Nat} {tokens : List Token} {block : Block}
    (room : tokens.length ≤ limit)
    (member : block ∈ Forest.walk (Machine.start.run source limit tokens).root)
    (closed : block.closed = true) : Machine.Standalone source limit tokens block := by
  have start : Machine.start.Traced source limit [] (tokens ++ []) := .nil source limit _
  have traced := start.feed (by simpa using room)
  rw [List.nil_append] at traced
  rw [Machine.run_eq_unwind] at member
  have held := traced.standalone.unwind (fun _ => false) .leftOpen
  rw [List.append_nil] at held
  exact held block (List.mem_append_left _ member) closed

end BrightBlocks.Block
