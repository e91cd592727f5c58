import BrightBlocks.Proofs.Block.Standing

/-!
# Reading above open blocks

The machine does not look below the innermost block. As long as a block stays open, what is
outside of it makes no difference to what happens inside: a machine that has the
blocks around it open as well, and one that has none of them, go on in the same way
(`Machine.Above.read`).

This needs room: with more blocks around, the nesting limit is reached earlier. And an
`end` that leaves a block goes on outside, where the two part.
-/

namespace BrightBlocks.Block

namespace Machine

variable {source : Text} {limit : Nat}

/--
The right machine is in the file where the left one is inside the blocks `base`, and both have the
same blocks open above that.
-/
structure Above (base : List Frame) (whole part : Machine) : Prop where
  stage : part.stage = whole.stage
  stack : whole.stack = part.stack ++ base
  opened : part.stack ≠ []
  root : part.root = []
  previous : part.previous = whole.previous

@[simp]
theorem length_stack_append (machine : Machine) (source : Text) (token : Token) :
    (machine.append source token).stack.length = machine.stack.length :=
  length_stack_attach machine _

theorem length_stack_leave_le (machine : Machine) (closed : Bool) :
    (machine.leave closed).stack.length ≤ machine.stack.length := by
  cases opened : machine.stack with
  | nil => simp [leave, opened]
  | cons frame outer =>
    rw [length_stack_leave opened]
    exact Nat.le_succ _

/-- Leaving blocks never opens any. -/
theorem length_stack_unwind_le (closes : Kind → Bool) (notice : Kind → Notice) (machine : Machine) :
    (machine.unwind closes notice).stack.length ≤ machine.stack.length := by
  fun_induction unwind closes notice machine with
  | case1 => exact Nat.le_refl _
  | case2 => exact Nat.le_refl _
  | case3 machine frame outer opened rejects inductionHypothesis =>
    rw [length_stack_leave (show (machine.note _).stack = _ from opened)] at inductionHypothesis
    rw [opened]
    exact inductionHypothesis.trans (Nat.le_succ _)

namespace Above

variable {base : List Frame} {whole part : Machine} {token : Token} {next : List Token}

/-- Apart from the base, the file and the notices the two are the same. -/
theorem exists_eq (above : Above base whole part) :
    ∃ stage frame inner root previous log log',
      whole = ⟨stage, frame :: (inner ++ base), root, previous, log⟩ ∧
        part = ⟨stage, frame :: inner, [], previous, log'⟩ := by
  obtain ⟨stage, stack, root, previous, log⟩ := whole
  obtain ⟨stage', stack', root', previous', log'⟩ := part
  obtain ⟨same_stage, same_stack, opened, empty, same_previous⟩ := above
  dsimp only at same_stage same_stack opened empty same_previous
  obtain ⟨frame, inner, rfl⟩ := List.exists_cons_of_ne_nil opened
  subst same_stage same_stack empty same_previous
  exact ⟨_, frame, inner, root, _, log, log', rfl, rfl⟩

/-! ## Parts of a step -/

theorem length_stack (above : Above base whole part) :
    whole.stack.length = part.stack.length + base.length := by
  rw [above.stack, List.length_append]

theorem kind? (above : Above base whole part) : part.kind? = whole.kind? := by
  obtain ⟨stage, frame, inner, root, previous, log, log', rfl, rfl⟩ := above.exists_eq
  rfl

/-- The innermost open block is the same on both sides. -/
theorem exists_inner (above : Above base whole part) {frame : Frame} {outer : List Frame}
    (opened : whole.stack = frame :: outer) :
    ∃ inner, part.stack = frame :: inner ∧ outer = inner ++ base := by
  obtain ⟨stage, top, inner, root, previous, log, log', rfl, rfl⟩ := above.exists_eq
  obtain ⟨rfl, rfl⟩ := List.cons.inj opened
  exact ⟨inner, rfl, rfl⟩

/-- Notices are not compared. -/
theorem note (above : Above base whole part) (notice notice' : Notice) :
    Above base (whole.note notice) (part.note notice') :=
  ⟨above.stage, above.stack, above.opened, above.root, above.previous⟩

theorem setStage (above : Above base whole part) (stage : Stage) :
    Above base { whole with stage := stage } { part with stage := stage } :=
  ⟨rfl, above.stack, above.opened, above.root, above.previous⟩

theorem enter (above : Above base whole part) (kind : Kind) :
    Above base (whole.enter kind) (part.enter kind) := by
  refine ⟨rfl, ?_, List.cons_ne_nil _ _, above.root, above.previous⟩
  show ⟨kind, [], false⟩ :: whole.stack = _
  rw [above.stack]
  rfl

theorem attach (above : Above base whole part) (nodes : List Node) :
    Above base (whole.attach nodes) (part.attach nodes) := by
  obtain ⟨stage, frame, inner, root, previous, log, log', rfl, rfl⟩ := above.exists_eq
  exact ⟨rfl, rfl, List.cons_ne_nil _ _, rfl, rfl⟩

theorem append (above : Above base whole part) (source : Text) (token : Token) :
    Above base (whole.append source token) (part.append source token) := by
  have placed := above.attach [.leaf token]
  refine ⟨placed.stage, placed.stack, placed.opened, placed.root, ?_⟩
  show (role source token).follow part.previous = (role source token).follow whole.previous
  rw [above.previous]

theorem setSingleLine (above : Above base whole part) (singleLine : Bool) :
    Above base (whole.setSingleLine singleLine) (part.setSingleLine singleLine) := by
  obtain ⟨stage, frame, inner, root, previous, log, log', rfl, rfl⟩ := above.exists_eq
  exact ⟨rfl, rfl, List.cons_ne_nil _ _, rfl, rfl⟩

/-- A block is left on both sides where it is not the one right above the base. -/
theorem leave (above : Above base whole part) {closed : Bool}
    (deep : base.length < (whole.leave closed).stack.length) :
    Above base (whole.leave closed) (part.leave closed) := by
  obtain ⟨stage, frame, inner, root, previous, log, log', rfl, rfl⟩ := above.exists_eq
  rw [length_stack_leave rfl, List.length_append] at deep
  have further : inner ≠ [] := List.length_pos_iff.mp (by omega)
  have below : Above base ⟨.body, inner ++ base, root, previous, log⟩
      ⟨.body, inner, [], previous, log'⟩ :=
    ⟨rfl, rfl, further, rfl, rfl⟩
  exact below.attach _

/-- Leaving the block right above the base makes it the file of the right machine. -/
theorem finish (above : Above base whole part) {frame : Frame}
    (opened : whole.stack = frame :: base) (closed : Bool) :
    (part.leave closed).stack = [] ∧ (part.leave closed).root =
      [.block frame.kind frame.children closed frame.singleLine] := by
  obtain ⟨inner, opened', alone⟩ := above.exists_inner opened
  obtain rfl : inner = [] := List.append_left_eq_self.mp alone.symm
  simp [Machine.leave, Machine.attach, opened', above.root]

theorem unwind (above : Above base whole part) {closes : Kind → Bool} {notice : Kind → Notice}
    (notice' : Kind → Notice) (deep : base.length < (whole.unwind closes notice).stack.length) :
    Above base (whole.unwind closes notice) (part.unwind closes notice') := by
  fun_induction Machine.unwind closes notice whole generalizing part with
  | case1 machine nothing =>
    rw [nothing] at deep
    contradiction
  | case2 machine frame outer opened accepts =>
    obtain ⟨inner, opened', -⟩ := above.exists_inner opened
    rwa [unwind_of_closes opened' accepts]
  | case3 machine frame outer opened rejects inductionHypothesis =>
    obtain ⟨inner, opened', -⟩ := above.exists_inner opened
    have further := (above.note (notice frame.kind) (notice' frame.kind)).leave
      (deep.trans_le (length_stack_unwind_le _ _ _))
    rw [unwind_of_not_closes opened' rejects]
    exact inductionHypothesis further deep

/-! ## Steps -/

theorem readBody (above : Above base whole part) (room : whole.stack.length < limit)
    (deep : base.length < (whole.readBody source limit token next).stack.length) :
    Above base (whole.readBody source limit token next)
      (part.readBody source limit token next) := by
  have placed := above.append source token
  have room' : part.stack.length < limit := by
    rw [above.length_stack] at room
    omega
  revert deep
  unfold Machine.readBody
  rw [above.previous, above.kind?]
  cases found : (role source token).structural whole.previous with
  | none => exact fun _ => placed
  | some word =>
    dsimp only
    split
    · exact fun _ => placed.setStage _
    split
    · intro deep
      -- Where no block above the base has the word behind the `end`, the base would be left too.
      have still_open : base.length < (whole.unwind
          (fun kind => roleOnLine source next = .word kind.opener)
          (.deferredEnd · token.start)).stack.length := by
        split at deep <;> rwa [length_stack_append] at deep
      have reached := above.unwind (.deferredEnd · token.start) still_open
      have inside := List.ne_nil_of_length_pos (Nat.zero_lt_of_lt still_open)
      rw [if_neg inside, if_neg reached.opened]
      exact (reached.append source token).setStage .closing
    split
    · intro deep
      have placed_deep := deep.trans_le (length_stack_leave_le _ _)
      rw [length_stack_append] at placed_deep
      exact ((above.unwind _ placed_deep).append source token).leave deep
    split
    · exact fun _ => (above.enter _).append source token
    · exact fun _ => placed

theorem readFront (above : Above base whole part) (room : whole.stack.length < limit)
    (phase : Phase)
    (deep : base.length < (whole.readFront source limit phase token next).stack.length) :
    Above base (whole.readFront source limit phase token next)
      (part.readFront source limit phase token next) := by
  have placed := above.append source token
  revert deep
  unfold Machine.readFront
  rw [above.previous, above.kind?]
  dsimp only
  split
  · exact fun _ => placed.setStage .body
  split
  · cases phase with
    | opening => exact fun _ => ((above.setSingleLine _).append source token).setStage .body
    | condition => exact fun _ => placed.setStage .body
  split
  · split
    · exact ((above.note _ _).setStage .body).readBody room
    · exact fun _ => placed
  · exact fun _ => placed

/-- One token, read with the blocks of the base open and without, as long as it leads to neither. -/
theorem read (above : Above base whole part) (room : whole.stack.length < limit)
    (deep : base.length < (whole.read source limit token next).stack.length) :
    Above base (whole.read source limit token next) (part.read source limit token next) := by
  have placed := above.append source token
  revert deep
  unfold Machine.read
  rw [above.stage]
  split
  · exact above.readFront room _
  · exact fun _ => placed.setStage _
  · split
    · exact fun _ => placed
    · exact placed.leave
  · exact above.readBody room

end Above

end Machine

end BrightBlocks.Block
