import BrightBlocks.Proofs.Block.Above

/-!
# Reading inside a block

A step opens a block, or the blocks that are open behind it were open before, with nothing changed
below the last of them (`Machine.read_descends_or_opens`). So every open block has come from its
opener as if nothing had been in front of it (`Machine.Nested`): the tokens from there on could as
well be those of a file of their own.
-/

namespace BrightBlocks.Block

namespace Machine

variable {source : Text} {limit : Nat}

/-! ## Blocks that stay open -/

/-- The blocks that are open after a step were open before, and nothing happened below the last. -/
structure Descends (machine after : Machine) : Prop where
  below : after.stack.tail <:+ machine.stack.tail
  length_le : after.stack.length ≤ machine.stack.length

namespace Descends

variable {machine reached : Machine}

theorem refl (machine : Machine) : machine.Descends machine :=
  ⟨List.suffix_refl _, Nat.le_refl _⟩

theorem note (descends : machine.Descends reached) (notice : Notice) :
    machine.Descends (reached.note notice) :=
  ⟨descends.below, descends.length_le⟩

theorem setStage (descends : machine.Descends reached) (stage : Stage) :
    machine.Descends { reached with stage := stage } :=
  ⟨descends.below, descends.length_le⟩

theorem setSingleLine (descends : machine.Descends reached) (singleLine : Bool) :
    machine.Descends (reached.setSingleLine singleLine) := by
  obtain ⟨stage, stack, root, previous, log⟩ := reached
  cases stack <;> exact ⟨descends.below, descends.length_le⟩

theorem attach (descends : machine.Descends reached) (nodes : List Node) :
    machine.Descends (reached.attach nodes) := by
  obtain ⟨stage, stack, root, previous, log⟩ := reached
  cases stack <;> exact ⟨descends.below, descends.length_le⟩

theorem append (descends : machine.Descends reached) (source : Text) (token : Token) :
    machine.Descends (reached.append source token) :=
  ⟨(descends.attach _).below, (descends.attach _).length_le⟩

theorem leave (descends : machine.Descends reached) (closed : Bool) :
    machine.Descends (reached.leave closed) := by
  obtain ⟨stage, stack, root, previous, log⟩ := reached
  obtain ⟨below, length_le⟩ := descends
  cases stack with
  | nil => exact ⟨below, length_le⟩
  | cons frame outer =>
    have further : machine.Descends ⟨.body, outer, root, previous, log⟩ :=
      ⟨(List.tail_suffix outer).trans below, (Nat.le_succ _).trans length_le⟩
    exact further.attach _

theorem unwind (descends : machine.Descends reached) (closes : Kind → Bool)
    (notice : Kind → Notice) : machine.Descends (reached.unwind closes notice) := by
  fun_induction Machine.unwind closes notice reached with
  | case1 => exact descends
  | case2 => exact descends
  | case3 reached frame outer opened rejects inductionHypothesis =>
    exact inductionHypothesis ((descends.note _).leave false)

end Descends

/-- A new block is open, and what has happened in it could as well have at the start of a file. -/
structure Opens (source : Text) (limit : Nat) (machine : Machine) (token : Token)
    (next : List Token) (after : Machine) : Prop where
  below : after.stack.tail = machine.stack
  above : Above machine.stack after (start.read source limit token next)

/-- An opener that opens a block also does so at the start of a file. -/
theorem opens_of_opener {machine : Machine} {token : Token} {next : List Token} {word : String}
    {kind : Kind} (found : (role source token).structural machine.previous = some word)
    (opens : Kind.ofOpener? word = some kind) (room : machine.stack.length < limit) :
    Opens source limit machine token next ((machine.enter kind).append source token) := by
  have spelled := role_of_structural found
  have found' : (role source token).structural start.previous = some word := by
    simp [spelled, Role.structural, Role.word?, start]
  have room' : start.stack.length < limit := Nat.zero_lt_of_lt room
  have alone : start.read source limit token next = (start.enter kind).append source token := by
    rw [read_of_body rfl, readBody_of_opener found' opens, if_pos room']
  refine ⟨rfl, ?_⟩
  rw [alone]
  refine ⟨rfl, rfl, List.cons_ne_nil _ _, rfl, ?_⟩
  rw [previous_append, previous_append, spelled]
  rfl

theorem BodyStep.descends_or_opens {machine after : Machine} {token : Token} {next : List Token}
    (step : BodyStep source limit machine token next after) :
    machine.Descends after ∨ Opens source limit machine token next after := by
  have here := Descends.refl machine
  cases step with
  | plain => exact .inl (here.append source token)
  | branch => exact .inl ((here.append source token).setStage _)
  | strayEnd => exact .inl ((here.unwind ..).append source token)
  | ownEnd => exact .inl (((here.unwind ..).append source token).setStage .closing)
  | closer => exact .inl (((here.unwind ..).append source token).leave true)
  | opener found opens room => exact .inr (opens_of_opener found opens room)
  | flat => exact .inl ((here.note _).append source token)

theorem FrontStep.descends_or_opens {phase : Phase} {machine after : Machine} {token : Token}
    {next : List Token} (step : FrontStep source limit phase machine token next after) :
    machine.Descends after ∨ Opens source limit machine token next after := by
  have here := Descends.refl machine
  cases step with
  | plain => exact .inl (here.append source token)
  | lineBreak => exact .inl ((here.append source token).setStage .body)
  | atThen found conditional same =>
    rcases same with rfl | ⟨singleLine, rfl⟩
    · exact .inl ((here.append source token).setStage .body)
    · exact .inl (((here.setSingleLine _).append source token).setStage .body)
  | @cutShort word kind =>
    have step : BodyStep source limit
        { machine.note (.headerCutShort kind word token.start) with stage := .body } token next _ :=
      bodyStep_readBody _ token next
    rcases step.descends_or_opens with ⟨below, length_le⟩ | ⟨below, above⟩
    · exact .inl ⟨below, length_le⟩
    · exact .inr ⟨below, above⟩

variable (source limit) in
theorem read_descends_or_opens (machine : Machine) (token : Token) (next : List Token) :
    machine.Descends (machine.read source limit token next) ∨
      Opens source limit machine token next (machine.read source limit token next) := by
  have placed := (Descends.refl machine).append source token
  unfold read
  split
  · exact (frontStep_readFront machine _ token next).descends_or_opens
  · exact .inl (placed.setStage _)
  · split
    · exact .inl placed
    · exact .inl (placed.leave true)
  · exact (bodyStep_readBody machine token next).descends_or_opens

variable (source limit) in
/-- One token opens one block at most. -/
theorem length_stack_read_le (machine : Machine) (token : Token) (next : List Token) :
    (machine.read source limit token next).stack.length ≤ machine.stack.length + 1 := by
  rcases read_descends_or_opens source limit machine token next with descends | opens
  · exact descends.length_le.trans (Nat.le_succ _)
  · rw [← opens.below, List.length_tail]
    omega

/--
Every open block started somewhere in the past, and has come from there as if nothing had been in
front of it.
-/
def Nested (source : Text) (limit : Nat) (past ahead : List Token) (machine : Machine) : Prop :=
  ∀ base, base <:+ machine.stack → base.length < machine.stack.length →
    ∃ before since, past = before ++ since ∧
      Above base machine (start.feed source limit ahead since)

theorem suffix_tail {base stack : List Frame} (below : base <:+ stack)
    (smaller : base.length < stack.length) : base <:+ stack.tail := by
  cases stack with
  | nil => contradiction
  | cons frame outer =>
    rcases List.suffix_cons_iff.mp below with rfl | inside
    · exact absurd smaller (Nat.lt_irrefl _)
    · exact inside

namespace Nested

variable {machine : Machine} {past rest : List Token} {token : Token}

theorem nil (source : Text) (limit : Nat) (ahead : List Token) :
    Nested source limit [] ahead start :=
  fun _ _ smaller => absurd smaller (Nat.not_lt_zero _)

/-- One token keeps every open block as it would be without those around it. -/
theorem read (nested : Nested source limit past (token :: rest) machine)
    (room : machine.stack.length < limit) :
    Nested source limit (past ++ [token]) rest
      (machine.read source limit token (rest.take 2)) := by
  intro base below smaller
  have inside := suffix_tail below smaller
  -- A block that was open before goes on with the token; a new one starts with it.
  have extend (outside : base <:+ machine.stack) (fewer : base.length < machine.stack.length) :
      ∃ before since, past ++ [token] = before ++ since ∧
        Above base (machine.read source limit token (rest.take 2))
          (start.feed source limit rest since) := by
    obtain ⟨before, since, rfl, above⟩ := nested base outside fewer
    refine ⟨before, since ++ [token], List.append_assoc .., ?_⟩
    rw [feed_append]
    exact above.read room smaller
  rcases read_descends_or_opens source limit machine token (rest.take 2) with descends | opens
  · have fewer := smaller.trans_le descends.length_le
    exact extend (inside.trans (descends.below.trans (List.tail_suffix _))) fewer
  · rw [opens.below] at inside
    rcases inside.length_le.lt_or_eq with fewer | same
    · exact extend inside fewer
    · obtain rfl := inside.eq_of_length same
      exact ⟨past, [token], rfl, opens.above⟩

end Nested

end Machine

end BrightBlocks.Block
