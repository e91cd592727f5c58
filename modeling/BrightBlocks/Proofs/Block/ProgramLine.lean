import BrightBlocks.Proofs.Block.Program

/-!
# Lines of a program

A machine at the start of a line (`Machine.AtLine`) is led by the lines of a program from one
start of a line to the next (`Machine.LeadsTo`). A line that shapes nothing is placed up to where it
stops (`LineStop.run_eq`), the front of a conditional on a single line opens a block that is marked
(`run_oneLiner`), and this block is left open where the body around it ends
(`BodyEnds.run_left_open`).
-/

namespace BrightBlocks.Block

open Machine (appendAll)

/-! ## Machines on their way through a body -/

namespace Machine

/-- The machine behind nodes that were attached, with another last word and other notices. -/
def behind (machine : Machine) (nodes : List Node) (previous : Option String)
    (log : List Notice) : Machine :=
  { machine.attach nodes with previous := previous, log := log }

section

variable {machine : Machine} {nodes front back : List Node} {previous previous' : Option String}
  {log log' : List Notice}

@[simp]
theorem behind_nil (machine : Machine) :
    machine.behind [] machine.previous machine.log = machine := by
  rw [behind, attach_nil]

@[simp]
theorem behind_behind : (machine.behind front previous log).behind back previous' log' =
    machine.behind (front ++ back) previous' log' := by
  obtain ⟨stage, stack, root, first, notices⟩ := machine
  cases stack <;> simp [behind, attach]

@[simp]
theorem stage_behind : (machine.behind nodes previous log).stage = machine.stage :=
  stage_attach machine nodes

@[simp]
theorem previous_behind : (machine.behind nodes previous log).previous = previous := rfl

@[simp]
theorem log_behind : (machine.behind nodes previous log).log = log := rfl

@[simp]
theorem kind?_behind : (machine.behind nodes previous log).kind? = machine.kind? :=
  kind?_attach machine nodes

@[simp]
theorem length_stack_behind :
    (machine.behind nodes previous log).stack.length = machine.stack.length :=
  length_stack_attach machine nodes

end

/-- A machine stands at the start of a line in a body of the given kind; where nothing is ahead, the
line may also be the end of the last one. -/
structure AtLine (machine : Machine) (inside : Option Kind) (ahead : List Token) : Prop where
  stands : machine.stage = .body
  fresh : ahead ≠ [] → machine.previous = none
  within : inside = some .conditional → machine.kind? = some .conditional

/-- Behind a line the machine stands at the start of the next one. -/
theorem AtLine.behind {machine : Machine} {inside : Option Kind} {ahead further : List Token}
    (standing : machine.AtLine inside ahead) (nodes : List Node) {previous : Option String}
    (log : List Notice) (fresh : further ≠ [] → previous = none) :
    (machine.behind nodes previous log).AtLine inside further where
  stands := stage_behind.trans standing.stands
  fresh := fresh
  within conditional := kind?_behind.trans (standing.within conditional)

/-- Tokens lead a machine to where nodes are attached, at the start of a line. -/
def LeadsTo (source : Text) (limit : Nat) (machine : Machine) (tokens rest : List Token)
    (nodes : List Node) : Prop :=
  ∃ previous log, (rest ≠ [] → previous = none) ∧
    machine.run source limit (tokens ++ rest) =
      (machine.behind nodes previous log).run source limit rest

/-- A machine is led on by lines one after the other. -/
theorem LeadsTo.of_run {source : Text} {limit : Nat} {machine : Machine}
    {front tokens rest : List Token} {nodes more : List Node} {previous : Option String}
    {log : List Notice}
    (run : machine.run source limit (front ++ (tokens ++ rest)) =
      (machine.behind nodes previous log).run source limit (tokens ++ rest))
    (leads : (machine.behind nodes previous log).LeadsTo source limit tokens rest more) :
    machine.LeadsTo source limit (front ++ tokens) rest (nodes ++ more) := by
  obtain ⟨last, notices, fresh, further⟩ := leads
  refine ⟨last, notices, fresh, ?_⟩
  rw [List.append_assoc, run, further, behind_behind]

end Machine

section

variable {source : Text} {limit : Nat} {machine : Machine} {inside : Option Kind} {kind : Kind}
  {front stop tokens rest : List Token} {stack : List Frame} {root : List Node}
  {log : List Notice}

/-! ## Lines -/

theorem BranchLine.ne_nil (starts : BranchLine source front) : front ≠ [] := by
  cases starts <;> exact List.cons_ne_nil _ _

theorem Closing.ne_nil (closes : Closing source kind front) : front ≠ [] := by
  cases closes <;> exact List.cons_ne_nil _ _

/-- What is spared at the start of a line is spared where the machine stands. -/
theorem Machine.AtLine.spares {barred : List String} {ahead : List Token}
    (standing : machine.AtLine inside (front ++ ahead)) (spares : Spares source barred none front) :
    Spares source barred machine.previous front := by
  cases front with
  | nil => trivial
  | cons token front => rwa [standing.fresh (List.cons_ne_nil _ _)]

/-- The rest of a line that shapes nothing is placed, and the line stops. -/
theorem LineStop.run_eq (stops : LineStop source inside stop tokens) (limit : Nat)
    (ends : BodyEnds source inside rest) (stands : machine.stage = .body)
    (spares : Spares source shapingWords machine.previous front) :
    ∃ previous, (tokens ++ rest ≠ [] → previous = none) ∧
      machine.run source limit (front ++ (stop ++ (tokens ++ rest))) =
        (machine.behind (leafNodes (front ++ stop)) previous machine.log).run source limit
          (tokens ++ rest) := by
  rw [spares.run_body machine stands]
  cases stops with
  | lineBreak breaks =>
    rename_i lineBreak
    refine ⟨none, fun _ => rfl, ?_⟩
    rw [List.singleton_append, run_body_lineBreak (by simpa [appendAll] using stands) breaks]
    obtain ⟨stage, stack, root, previous, log⟩ := machine
    cases stack <;> simp [appendAll, Machine.behind, Machine.attach, leafNodes]
  | endOfFile =>
    cases ends
    refine ⟨trail source machine.previous front, by simp, ?_⟩
    obtain ⟨stage, stack, root, previous, log⟩ := machine
    cases stack <;> simp [appendAll, Machine.behind, Machine.attach]

/-- Code that is found on a line is found whatever follows. -/
theorem codeOnLine_append (acts : codeOnLine source front = true) (rest : List Token) :
    codeOnLine source (front ++ rest) = true := by
  cases front with
  | nil => contradiction
  | cons token front =>
    cases front with
    | nil =>
      by_cases gap : role source token = .gap
      · simp [codeOnLine, roleOnLine, gap] at acts
      · simpa [codeOnLine, roleOnLine, gap] using acts
    | cons second front => exact acts

/-- The front of a conditional on a single line, up to its `then`, opens a block that is marked. -/
theorem run_oneLiner {opener word : Token} {condition statement : List Token}
    (root : List Node) (log : List Notice) (opens : role source opener = .word "if")
    (tested : Clear source (endingWords .opening .conditional) (some "if") condition)
    (leads : (role source word).structural (trail source (some "if") condition) = some "then")
    (acts : codeOnLine source statement = true) (room : stack.length < limit)
    (rest : List Token) :
    Machine.run source limit ⟨.body, stack, root, none, log⟩
        (opener :: (condition ++ word :: (statement ++ rest))) =
      Machine.run source limit ⟨.body,
        ⟨.conditional, leafNodes (opener :: (condition ++ [word])), true⟩ :: stack, root,
        some "then", log⟩ (statement ++ rest) := by
  have code : codeOnLine source ((statement ++ rest).take 2) = true := by
    rw [codeOnLine_take]
    exact codeOnLine_append acts rest
  rw [@run_opener source limit .conditional _ _ _ _ opens room, tested.run_front _ rfl rfl,
    appendAll_frame, Machine.run, Machine.read_of_front rfl, Machine.readFront_of_then leads rfl,
    code]
  have follows : (role source word).follow
      (trail source (some (Kind.opener .conditional)) condition) = some "then" := by
    rw [Machine.role_of_structural leads]
    rfl
  simp [Machine.append, Machine.attach, Machine.setSingleLine, follows, leafNodes]

/-! ## Conditionals that are left open -/

/-- No other block closes like a conditional. -/
theorem conditional_apart : ∀ kind ∈ Kind.all, kind ≠ .conditional →
    kind.opener ≠ Kind.opener .conditional ∧
      ∀ word ∈ kind.closers, word ∉ Kind.closers .conditional := by
  decide

/-- A conditional is left open where a body around it ends that is not a conditional's. -/
theorem BodyEnds.run_left_open {frame : Frame} {outer : List Frame}
    (ends : BodyEnds source inside rest) (limit : Nat) (machine : Machine)
    (outside : inside ≠ some .conditional) (stands : machine.stage = .body)
    (fresh : rest ≠ [] → machine.previous = none)
    (opened : machine.stack = frame :: outer) (conditional : frame.kind = .conditional) :
    ∃ notice, machine.run source limit rest =
      ((machine.note notice).leave false).run source limit rest := by
  cases ends with
  | file =>
    refine ⟨.leftOpen frame.kind, ?_⟩
    rw [Machine.run, Machine.unwind_of_not_closes opened (by simp), Machine.run]
  | @closer kind back closes rest =>
    have other : kind ≠ .conditional := fun same => outside (congrArg some same)
    obtain ⟨apart, foreign⟩ := conditional_apart kind (by cases kind <;> decide) other
    have left (notice : Notice) : ((machine.note notice).leave false).stage = .body :=
      @Machine.stage_leave (machine.note notice) frame outer opened false
    cases closes with
    | @phrase first last gap starts blank names =>
      have solid : role source last ≠ .gap := by simp [names]
      have next : roleOnLine source ((gap ++ last :: rest).take 2) ≠ .word frame.kind.opener := by
        rw [roleOnLine_take, blank.roleOnLine_gap solid, names, conditional]
        exact fun same => apart (Role.word.inj same)
      refine ⟨.deferredEnd frame.kind first.start, ?_⟩
      rw [List.cons_append, List.append_assoc, List.singleton_append, Machine.run, Machine.run,
        Machine.read_of_body stands, Machine.read_of_body (left _),
        Machine.readBody_of_foreign_end _ opened next]
      rw [fresh (List.cons_ne_nil _ _)]
      exact structural_at_start starts
    | @word token small spelled closes =>
      refine ⟨.deferredCloser frame.kind small token.start, ?_⟩
      rw [List.singleton_append, Machine.run, Machine.run, Machine.read_of_body stands,
        Machine.read_of_body (left _), Machine.readBody_of_foreign_closer _
          (closers_of_kind closes) opened (conditional ▸ foreign small closes)]
      rw [fresh (List.cons_ne_nil _ _)]
      exact structural_at_start spelled

end

end BrightBlocks.Block
