import BrightBlocks.Proofs.Block.Feeding
import BrightBlocks.Proofs.Block.Place

/-!
# Where the machine stands

The blocks that a machine has open are the blocks around the place of its next node
(`Machine.place`), and the leaves that it has placed already have the places which they
keep in the finished tree (`Machine.placed`). Opening a block, leaving one and noting a
decision down move no leaf, and a token is added behind all others, so what one token
adds is one leaf at the end (`adds_read`). At the end of a run the placed leaves are those
of the tree (`leafSites_recover`).

Which place a token is given is said by the steps in `Feeding`.
-/

namespace BrightBlocks

namespace Forest

/-- The leaves among the nodes of a forest that starts at a place. -/
def leafSites (place : Place) (forest : List Node) : List Site :=
  (sites place forest).filter (·.node.leaf?.isSome)

@[simp]
theorem leafSites_nil (place : Place) : leafSites place [] = [] := rfl

@[simp]
theorem leafSites_append (place : Place) (left right : List Node) :
    leafSites place (left ++ right) =
      leafSites place left ++ leafSites (place.past left) right := by
  simp [leafSites]

@[simp]
theorem leafSites_leaf_cons (place : Place) (token : Token) (rest : List Node) :
    leafSites place (.leaf token :: rest) =
      ⟨place, .leaf token⟩ :: leafSites (place.past [.leaf token]) rest := by
  simp [leafSites, Node.leaf?]

@[simp]
theorem leafSites_block_cons (place : Place) (kind : Block.Kind) (children rest : List Node)
    (closed singleLine : Bool) :
    leafSites place (.block kind children closed singleLine :: rest) =
      leafSites (place.inside kind) children ++
        leafSites (place.past [.block kind children closed singleLine]) rest := by
  simp [leafSites, sites, Node.sites, Node.leaf?]

/-- The leaves with their places are the leaves, in the same order. -/
theorem filterMap_leaf?_leafSites (place : Place) (forest : List Node) :
    (leafSites place forest).filterMap (·.node.leaf?) = leaves forest := by
  rw [leafSites, List.filterMap_filter, ← filterMap_leaf?_sites place forest]
  congr 1
  funext site
  cases site.node <;> rfl

end Forest

namespace Block

/-- The place of the next node, by what is in the file and the blocks that are open. -/
def placeIn (root : List Node) : List Frame → Place
  | [] => Place.start.past root
  | frame :: outer => ((placeIn root outer).inside frame.kind).past frame.children

/-- The leaves that are placed, by what is in the file and the blocks that are open. -/
def placedIn (root : List Node) : List Frame → List Site
  | [] => Forest.leafSites .start root
  | frame :: outer =>
    placedIn root outer ++ Forest.leafSites ((placeIn root outer).inside frame.kind) frame.children

namespace Machine

/-- The place of the next node that is attached. -/
def place (machine : Machine) : Place :=
  placeIn machine.root machine.stack

/-- The leaves that are placed, in their order. -/
def placed (machine : Machine) : List Site :=
  placedIn machine.root machine.stack

/-! ## Parts of a step -/

@[simp]
theorem placed_note (machine : Machine) (notice : Notice) :
    (machine.note notice).placed = machine.placed := rfl

@[simp]
theorem place_enter (machine : Machine) (kind : Kind) :
    (machine.enter kind).place = machine.place.inside kind :=
  Place.past_nil _

@[simp]
theorem placed_enter (machine : Machine) (kind : Kind) :
    (machine.enter kind).placed = machine.placed :=
  List.append_nil _

@[simp]
theorem place_attach (machine : Machine) (nodes : List Node) :
    (machine.attach nodes).place = machine.place.past nodes := by
  obtain ⟨stage, stack, root, previous, log⟩ := machine
  cases stack <;> simp [attach, place, placeIn]

@[simp]
theorem placed_attach (machine : Machine) (nodes : List Node) :
    (machine.attach nodes).placed = machine.placed ++ Forest.leafSites machine.place nodes := by
  obtain ⟨stage, stack, root, previous, log⟩ := machine
  cases stack <;> simp [attach, placed, placedIn, place, placeIn]

@[simp]
theorem place_append (machine : Machine) (source : Text) (token : Token) :
    (machine.append source token).place = machine.place.past [.leaf token] :=
  machine.place_attach [.leaf token]

@[simp]
theorem placed_append (machine : Machine) (source : Text) (token : Token) :
    (machine.append source token).placed = machine.placed ++ [⟨machine.place, .leaf token⟩] := by
  refine (machine.placed_attach [.leaf token]).trans ?_
  simp

/-- Setting a flag of the innermost block moves nothing. -/
@[simp]
theorem place_setSingleLine (machine : Machine) (singleLine : Bool) :
    (machine.setSingleLine singleLine).place = machine.place := by
  obtain ⟨stage, stack, root, previous, log⟩ := machine
  cases stack <;> rfl

@[simp]
theorem placed_setSingleLine (machine : Machine) (singleLine : Bool) :
    (machine.setSingleLine singleLine).placed = machine.placed := by
  obtain ⟨stage, stack, root, previous, log⟩ := machine
  cases stack <;> rfl

/-- Leaving a block leads behind it. -/
theorem place_leave {machine : Machine} {frame : Frame} {outer : List Frame}
    (opened : machine.stack = frame :: outer) (closed : Bool) :
    (machine.leave closed).place = (placeIn machine.root outer).past
      [.block frame.kind frame.children closed frame.singleLine] := by
  unfold leave
  rw [opened]
  exact place_attach _ _

/-- What is inside a block keeps its place when the block is left. -/
@[simp]
theorem placed_leave (machine : Machine) (closed : Bool) :
    (machine.leave closed).placed = machine.placed := by
  obtain ⟨stage, stack, root, previous, log⟩ := machine
  cases stack with
  | nil => rfl
  | cons frame outer =>
    simp only [leave, placed_attach]
    simp [placed, placedIn, place]

@[simp]
theorem placed_unwind (closes : Kind → Bool) (notice : Kind → Notice) (machine : Machine) :
    (machine.unwind closes notice).placed = machine.placed := by
  fun_induction unwind closes notice machine with
  | case1 => rfl
  | case2 => rfl
  | case3 machine frame outer opened rejects inductionHypothesis =>
    rw [inductionHypothesis, placed_leave, placed_note]

/-- As many blocks are around the place of a machine as it has open. -/
@[simp]
theorem length_around_placeIn (root : List Node) (stack : List Frame) :
    (placeIn root stack).around.length = stack.length := by
  induction stack with
  | nil => rfl
  | cons frame outer inductionHypothesis =>
    exact congrArg (· + 1) inductionHypothesis

/-- The innermost block around the place of a machine is the one that it has open innermost. -/
theorem kind?_place (machine : Machine) : machine.place.kind? = machine.kind? := by
  obtain ⟨stage, stack, root, previous, log⟩ := machine
  cases stack <;> rfl

/-- In front of the place of a machine stand the leaves that it has placed. -/
theorem before_placeIn (root : List Node) (stack : List Frame) :
    (placeIn root stack).before = (placedIn root stack).filterMap (·.node.leaf?) := by
  induction stack with
  | nil => simp [placeIn, placedIn, Forest.filterMap_leaf?_leafSites]
  | cons frame outer inductionHypothesis =>
    simp [placeIn, placedIn, inductionHypothesis, Forest.filterMap_leaf?_leafSites]

theorem before_place (machine : Machine) :
    machine.place.before = machine.placed.filterMap (·.node.leaf?) :=
  before_placeIn machine.root machine.stack

/-! ## Steps -/

/-- A leaf has been placed behind those that were placed before, and behind all their tokens. -/
def Adds (machine : Machine) (token : Token) (after : Machine) : Prop :=
  ∃ place, place.before = machine.place.before ∧
    after.placed = machine.placed ++ [⟨place, .leaf token⟩]

variable {source : Text} {limit : Nat} {machine after : Machine} {token : Token}
  {next : List Token}

/-- Placing a token adds it, also where blocks were left or entered to make the place. -/
theorem Adds.of_append {reached : Machine} (same : reached.placed = machine.placed) :
    machine.Adds token (reached.append source token) :=
  ⟨reached.place, by rw [before_place, before_place, same], by rw [placed_append, same]⟩

theorem Adds.leave (adds : machine.Adds token after) (closed : Bool) :
    machine.Adds token (after.leave closed) := by
  obtain ⟨place, before, placed⟩ := adds
  exact ⟨place, before, by rw [placed_leave, placed]⟩

theorem Adds.setStage (adds : machine.Adds token after) (stage : Stage) :
    machine.Adds token { after with stage := stage } :=
  adds

theorem BodyStep.adds (step : BodyStep source limit machine token next after) :
    machine.Adds token after := by
  cases step with
  | plain => exact .of_append rfl
  | branch => exact (Adds.of_append rfl).setStage _
  | strayEnd => exact .of_append (placed_unwind ..)
  | ownEnd => exact (Adds.of_append (placed_unwind ..)).setStage .closing
  | closer => exact (Adds.of_append (placed_unwind ..)).leave true
  | opener => exact .of_append (placed_enter ..)
  | flat => exact .of_append (placed_note ..)

theorem FrontStep.adds {phase : Phase}
    (step : FrontStep source limit phase machine token next after) : machine.Adds token after := by
  cases step with
  | plain => exact .of_append rfl
  | lineBreak => exact (Adds.of_append rfl).setStage .body
  | atThen found conditional same =>
    rcases same with rfl | ⟨singleLine, rfl⟩
    · exact (Adds.of_append rfl).setStage .body
    · exact (Adds.of_append (placed_setSingleLine ..)).setStage .body
  | @cutShort word kind =>
    have step : BodyStep source limit
        { machine.note (.headerCutShort kind word token.start) with stage := .body } token next _ :=
      bodyStep_readBody _ token next
    exact step.adds

variable (source limit) in
/-- Every token adds one leaf, and moves none that is placed. -/
theorem adds_read (machine : Machine) (token : Token) (next : List Token) :
    machine.Adds token (machine.read source limit token next) := by
  unfold read
  split
  · exact (frontStep_readFront machine _ token next).adds
  · exact (Adds.of_append rfl).setStage _
  · split
    · exact .of_append rfl
    · exact (Adds.of_append rfl).leave true
  · exact (bodyStep_readBody machine token next).adds

/-! ## Runs -/

variable (source limit) in
/-- Reading a stretch of tokens adds their leaves behind those that are placed. -/
theorem placed_feed (machine : Machine) (behind tokens : List Token) :
    ∃ sites, (machine.feed source limit behind tokens).placed = machine.placed ++ sites ∧
      sites.map (·.node) = leafNodes tokens := by
  induction tokens generalizing machine with
  | nil => exact ⟨[], (List.append_nil _).symm, rfl⟩
  | cons token rest inductionHypothesis =>
    obtain ⟨place, -, first⟩ := adds_read source limit machine token ((rest ++ behind).take 2)
    obtain ⟨sites, placed, nodes⟩ :=
      inductionHypothesis (machine.read source limit token ((rest ++ behind).take 2))
    refine ⟨⟨place, .leaf token⟩ :: sites, ?_, ?_⟩
    · rw [feed, placed, first, List.append_assoc, List.singleton_append]
    · rw [List.map_cons, nodes]
      rfl

end Machine

/-- The leaves of a recovered tree stand where the machine has placed them. -/
theorem leafSites_recover (source : Text) (limit : Nat) (tokens : List Token) :
    Forest.leafSites .start (recover source limit tokens).1.children =
      (Machine.start.feed source limit [] (significantTokens tokens)).placed := by
  have ended := run_start source limit tokens
  rw [Machine.run_eq_unwind] at ended
  rw [← Machine.placed_unwind (fun _ => false) .leftOpen, ended]
  rfl

end Block

end BrightBlocks
