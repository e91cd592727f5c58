import BrightBlocks.Block.Header
import BrightBlocks.Block.Tree

/-!
# A stack machine for blocks

The machine reads each token once, from left to right, and never goes back. It
keeps the blocks that are open, the innermost first, and where it stands in the
innermost one; only that one can be in its header or in a condition. A token is
placed as soon as it is read, and at most two tokens behind it are looked at.

An `end` or a closing word leaves open blocks until it meets the one that it
closes. Where there is none it becomes a leaf of the file.
-/

namespace BrightBlocks.Block

/-- A block that is open, with the children that it has so far. -/
structure Frame where
  kind : Kind
  children : List Node
  singleLine : Bool
  deriving DecidableEq

/-- Where the machine stands in the innermost open block. -/
inductive Stage
  /-- In the header of the block, or in the condition of a branch. -/
  | front (phase : Phase)
  /-- Between an `else` and the `if` on its line. -/
  | elseIf
  /-- Between an `end` and the word that closes the block with it. -/
  | closing
  | body
  deriving DecidableEq, Repr

/-- The role of the next token, or of the one behind it when the next one is a gap. -/
def roleOnLine (source : Text) : List Token → Role
  | [] => .endOfInput
  | token :: rest =>
    if role source token = .gap then
      match rest with
      | [] => .endOfInput
      | second :: _ => role source second
    else role source token

/-- Whether code follows on the line. -/
def codeOnLine (source : Text) (next : List Token) : Bool :=
  match roleOnLine source next with
  | .endOfInput | .comment | .lineBreak => false
  | _ => true

/-- The state between two tokens. -/
structure Machine where
  stage : Stage
  /-- The open blocks, the innermost in front. -/
  stack : List Frame
  /-- The children of the file so far. -/
  root : List Node
  /-- The last significant word of the line so far. -/
  previous : Option String
  /-- The notices so far, the first one in front. -/
  log : List Notice
  deriving DecidableEq

namespace Machine

/-- The machine before the first token. -/
def start : Machine := ⟨.body, [], [], none, []⟩

/-- Notes a decision down. -/
def note (machine : Machine) (notice : Notice) : Machine :=
  { machine with log := machine.log ++ [notice] }

/-- Adds nodes to the innermost open block, or to the file. -/
def attach (machine : Machine) (nodes : List Node) : Machine :=
  match machine.stack with
  | [] => { machine with root := machine.root ++ nodes }
  | frame :: outer =>
    { machine with stack := { frame with children := frame.children ++ nodes } :: outer }

/-- Places a token in the innermost open block, or in the file. -/
def append (machine : Machine) (source : Text) (token : Token) : Machine :=
  { machine.attach [.leaf token] with
    previous := (role source token).follow machine.previous }

/-- Opens a block inside the innermost one. -/
def enter (machine : Machine) (kind : Kind) : Machine :=
  { machine with stage := .front .opening, stack := ⟨kind, [], false⟩ :: machine.stack }

/-- Leaves the innermost open block, which becomes a child of the one around it. -/
def leave (machine : Machine) (closed : Bool) : Machine :=
  match machine.stack with
  | [] => machine
  | frame :: outer =>
    ({ machine with stage := .body, stack := outer }).attach
      [.block frame.kind frame.children closed frame.singleLine]

/-- Sets whether code follows `then` on the line of the innermost block's header. -/
def setSingleLine (machine : Machine) (singleLine : Bool) : Machine :=
  match machine.stack with
  | [] => machine
  | frame :: outer => { machine with stack := { frame with singleLine := singleLine } :: outer }

/-- The kind of the innermost open block. -/
def kind? (machine : Machine) : Option Kind :=
  machine.stack.head?.map (·.kind)

@[simp]
theorem length_stack_attach (machine : Machine) (nodes : List Node) :
    (machine.attach nodes).stack.length = machine.stack.length := by
  unfold attach
  split <;> simp [*]

/-- Leaving an open block leaves fewer of them. -/
theorem length_stack_leave {machine : Machine} {frame : Frame} {outer : List Frame}
    (opened : machine.stack = frame :: outer) (closed : Bool) :
    (machine.leave closed).stack.length = outer.length := by
  unfold leave
  rw [opened]
  simp

@[simp]
theorem stage_attach (machine : Machine) (nodes : List Node) :
    (machine.attach nodes).stage = machine.stage := by
  unfold attach
  split <;> rfl

@[simp]
theorem kind?_attach (machine : Machine) (nodes : List Node) :
    (machine.attach nodes).kind? = machine.kind? := by
  unfold attach
  split
  · rfl
  · rename_i opened
    simp [kind?, opened]

/-- The machine stands in a body, or in the file, once a block has been left. -/
theorem stage_leave {machine : Machine} {frame : Frame} {outer : List Frame}
    (opened : machine.stack = frame :: outer) (closed : Bool) :
    (machine.leave closed).stage = .body := by
  unfold leave
  rw [opened]
  exact stage_attach _ _

@[simp]
theorem previous_attach (machine : Machine) (nodes : List Node) :
    (machine.attach nodes).previous = machine.previous := by
  unfold attach
  split <;> rfl

@[simp]
theorem previous_leave (machine : Machine) (closed : Bool) :
    (machine.leave closed).previous = machine.previous := by
  unfold leave
  split
  · rfl
  · exact previous_attach _ _

/-- Leaves open blocks as they are, the innermost first, until it meets one that is accepted. -/
def unwind (closes : Kind → Bool) (notice : Kind → Notice) (machine : Machine) : Machine :=
  match _opened : machine.stack with
  | [] => machine
  | frame :: _ =>
    if closes frame.kind then machine
    else unwind closes notice ((machine.note (notice frame.kind)).leave false)
  termination_by machine.stack.length
  decreasing_by
    rw [length_stack_leave (show (machine.note (notice frame.kind)).stack = _ from _opened),
      _opened]
    exact Nat.lt_succ_self _

/-- Where an else word leads, by the word and what follows it. -/
def stageOfElse (source : Text) (word : String) (next : List Token) : Stage :=
  if word ≠ "else" then .front .condition
  else if roleOnLine source next = .word "if" then .elseIf
  else .body

/-- Reads a token in the body of the innermost open block, or at the top of the file. -/
def readBody (source : Text) (limit : Nat) (machine : Machine) (token : Token)
    (next : List Token) : Machine :=
  match (role source token).structural machine.previous with
  | none => machine.append source token
  | some word =>
    if machine.kind? = some .conditional ∧ word ∈ elseWords then
      { machine.append source token with stage := stageOfElse source word next }
    else if word = "end" then
      let reached := machine.unwind (fun kind => roleOnLine source next = .word kind.opener)
        (.deferredEnd · token.start)
      let placed := reached.append source token
      if reached.stack = [] then placed else { placed with stage := .closing }
    else if word ∈ closers then
      let reached := machine.unwind (fun kind => word ∈ kind.closers)
        (.deferredCloser · word token.start)
      (reached.append source token).leave true
    else
      match Kind.ofOpener? word with
      | some kind =>
        if machine.stack.length < limit then (machine.enter kind).append source token
        else (machine.note (.keptFlat limit word token.start)).append source token
      | none => machine.append source token

/-- Reads a token in a header or a condition of the innermost open block. -/
def readFront (source : Text) (limit : Nat) (phase : Phase) (machine : Machine) (token : Token)
    (next : List Token) : Machine :=
  let word := (role source token).structural machine.previous
  if role source token = .lineBreak then { machine.append source token with stage := .body }
  else if word = some "then" ∧ machine.kind? = some .conditional then
    let flagged :=
      match phase with
      | .opening => machine.setSingleLine (codeOnLine source next)
      | .condition => machine
    { flagged.append source token with stage := .body }
  else
    match machine.kind?, word with
    | some kind, some word =>
      if word ∈ phase.boundaries kind then
        { machine.note (.headerCutShort kind word token.start) with stage := .body }.readBody
          source limit token next
      else machine.append source token
    | _, _ => machine.append source token

/-- Reads a token. Of those behind it, `next` holds as many as may be looked at. -/
def read (source : Text) (limit : Nat) (machine : Machine) (token : Token)
    (next : List Token) : Machine :=
  match machine.stage with
  | .front phase => machine.readFront source limit phase token next
  | .elseIf =>
    { machine.append source token with
      stage := if role source token = .gap then .elseIf else .front .condition }
  | .closing =>
    if role source token = .gap then machine.append source token
    else (machine.append source token).leave true
  | .body => machine.readBody source limit token next

/-- Reads tokens from left to right, each of them once; at the end all blocks are left. -/
def run (source : Text) (limit : Nat) (machine : Machine) : List Token → Machine
  | [] => machine.unwind (fun _ => false) .leftOpen
  | token :: rest => run source limit (machine.read source limit token (rest.take 2)) rest

/-! ## What a token means in a header -/

theorem read_of_front {machine : Machine} {phase : Phase} (stands : machine.stage = .front phase)
    (source : Text) (limit : Nat) (token : Token) (next : List Token) :
    machine.read source limit token next =
      machine.readFront source limit phase token next := by
  simp only [read, stands]

theorem then_not_boundary (phase : Phase) (kind : Kind) : "then" ∉ phase.boundaries kind := by
  cases phase <;> cases kind <;> decide

theorem role_of_structural {source : Text} {token : Token} {previous : Option String}
    {word : String} (found : (role source token).structural previous = some word) :
    role source token = .word word := by
  unfold Role.structural at found
  split at found
  · contradiction
  · cases meaning : role source token with
    | word small =>
      rw [meaning] at found
      exact congrArg Role.word (Option.some.inj found)
    | _ => simp [meaning, Role.word?] at found

section

variable {source : Text} {limit : Nat} {phase : Phase} {machine : Machine} {kind : Kind}
  {token : Token} {next : List Token}

theorem readFront_of_lineBreak (broken : role source token = .lineBreak) :
    machine.readFront source limit phase token next =
      { machine.append source token with stage := .body } :=
  if_pos broken

theorem readFront_of_then
    (found : (role source token).structural machine.previous = some "then")
    (conditional : machine.kind? = some .conditional) :
    machine.readFront source limit phase token next =
      { (match phase with
          | .opening => machine.setSingleLine (codeOnLine source next)
          | .condition => machine).append source token with stage := .body } := by
  have unbroken : role source token ≠ .lineBreak := by simp [role_of_structural found]
  simp only [readFront, if_neg unbroken, if_pos (And.intro found conditional)]

theorem readFront_of_boundary {word : String}
    (found : (role source token).structural machine.previous = some word)
    (opened : machine.kind? = some kind) (boundary : word ∈ phase.boundaries kind) :
    machine.readFront source limit phase token next =
      { machine.note (.headerCutShort kind word token.start) with stage := .body }.readBody
        source limit token next := by
  have unbroken : role source token ≠ .lineBreak := by simp [role_of_structural found]
  have not_then : ¬ (some word = some "then" ∧ some kind = some .conditional) := by
    rintro ⟨same, -⟩
    rw [Option.some.inj same] at boundary
    exact then_not_boundary phase kind boundary
  simp only [readFront, if_neg unbroken, found, opened, if_neg not_then, if_pos boundary]

/-- A token is placed in the header unless it ends the header. -/
theorem readFront_of_plain (opened : machine.kind? = some kind)
    (unbroken : role source token ≠ .lineBreak)
    (plain : ∀ word, (role source token).structural machine.previous = some word →
      ¬ (word = "then" ∧ kind = .conditional) ∧ word ∉ phase.boundaries kind) :
    machine.readFront source limit phase token next = machine.append source token := by
  simp only [readFront, if_neg unbroken, opened]
  cases found : (role source token).structural machine.previous with
  | none => simp
  | some word =>
    obtain ⟨not_then, inside⟩ := plain word found
    simp only [Option.some.injEq, if_neg not_then, if_neg inside]

end

end Machine

end BrightBlocks.Block
