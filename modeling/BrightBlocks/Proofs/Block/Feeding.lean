import BrightBlocks.Proofs.Block.Conservation
import BrightBlocks.Proofs.Block.Simulation

/-!
# Reading a stretch of tokens

`Machine.run` reads to the end and then leaves all blocks. `Machine.feed` reads a
stretch of tokens in front of others and stays where it is then, so that a run
over a list is a feed over its front and a run over the rest (`run_append`).

What one token can do is said once, in `BodyStep` and `FrontStep`, with as much
detail as facts about where the machine stands need. Three such facts are here: the
last significant word is that of the last token (`previous_read`), outside of a body
some block is open (`Anchored.read`), and blocks that are still open at the end stay
open (`exists_open_of_unwind`).
-/

namespace BrightBlocks.Block

namespace Machine

variable {source : Text} {limit : Nat}

/-- Reads a stretch of tokens from left to right, with the tokens `behind` after it. -/
def feed (source : Text) (limit : Nat) (behind : List Token) (machine : Machine) :
    List Token → Machine
  | [] => machine
  | token :: rest =>
    feed source limit behind (machine.read source limit token ((rest ++ behind).take 2)) rest

/-- To run over a list is to read its front and to run over the rest. -/
theorem run_append (machine : Machine) (front behind : List Token) :
    machine.run source limit (front ++ behind) =
      (machine.feed source limit behind front).run source limit behind := by
  induction front generalizing machine with
  | nil => rfl
  | cons token rest inductionHypothesis => exact inductionHypothesis _

/-- A run ends by leaving all blocks that are open after the last token. -/
theorem run_eq_unwind (machine : Machine) (tokens : List Token) :
    machine.run source limit tokens =
      (machine.feed source limit [] tokens).unwind (fun _ => false) .leftOpen := by
  have run : machine.run source limit (tokens ++ []) = _ := machine.run_append tokens []
  rwa [List.append_nil] at run

theorem feed_append (machine : Machine) (front back behind : List Token) :
    machine.feed source limit behind (front ++ back) =
      (machine.feed source limit (back ++ behind) front).feed source limit behind back := by
  induction front generalizing machine with
  | nil => rfl
  | cons token rest inductionHypothesis =>
    rw [List.cons_append, feed, feed, inductionHypothesis, List.append_assoc]

/-! ## What one token can do -/

/-- What reading a token in a body can lead to. -/
inductive BodyStep (source : Text) (limit : Nat) (machine : Machine) (token : Token)
    (next : List Token) : Machine → Prop where
  | plain
      (shapeless : ∀ word, (role source token).structural machine.previous = some word →
        (machine.kind? = some .conditional → word ∉ elseWords) ∧ word ∉ openers) :
      BodyStep source limit machine token next (machine.append source token)
  | branch {word : String} (conditional : machine.kind? = some .conditional)
      (found : (role source token).structural machine.previous = some word)
      (listed : word ∈ elseWords) :
      BodyStep source limit machine token next
        { machine.append source token with stage := stageOfElse source word next }
  | strayEnd {closes : Kind → Bool}
      (found : (role source token).structural machine.previous = some "end")
      (outside : (machine.unwind closes (.deferredEnd · token.start)).stack = []) :
      BodyStep source limit machine token next
        ((machine.unwind closes (.deferredEnd · token.start)).append source token)
  | ownEnd {closes : Kind → Bool} {kind : Kind}
      (opened : (machine.unwind closes (.deferredEnd · token.start)).stack ≠ [])
      (names : roleOnLine source next = .word kind.opener)
      (found : (role source token).structural machine.previous = some "end") :
      BodyStep source limit machine token next
        { (machine.unwind closes (.deferredEnd · token.start)).append source token with
          stage := .closing }
  | closer {word : String}
      (found : (role source token).structural machine.previous = some word)
      (listed : word ∈ closers) :
      BodyStep source limit machine token next
        (((machine.unwind (fun kind => word ∈ kind.closers)
          (.deferredCloser · word token.start)).append source token).leave true)
  | opener {word : String} {kind : Kind}
      (found : (role source token).structural machine.previous = some word)
      (opens : Kind.ofOpener? word = some kind) (room : machine.stack.length < limit) :
      BodyStep source limit machine token next ((machine.enter kind).append source token)
  | flat {word : String} {kind : Kind}
      (found : (role source token).structural machine.previous = some word)
      (opens : Kind.ofOpener? word = some kind) (full : ¬ machine.stack.length < limit) :
      BodyStep source limit machine token next
        ((machine.note (.keptFlat limit word token.start)).append source token)

/-- What reading a token in a header or a condition can lead to. -/
inductive FrontStep (source : Text) (limit : Nat) (phase : Phase) (machine : Machine)
    (token : Token) (next : List Token) : Machine → Prop where
  | plain (unbroken : role source token ≠ .lineBreak)
      (inside : ∀ word kind, (role source token).structural machine.previous = some word →
        machine.kind? = some kind →
          ¬ (word = "then" ∧ kind = .conditional) ∧ word ∉ phase.boundaries kind) :
      FrontStep source limit phase machine token next (machine.append source token)
  | lineBreak (breaks : role source token = .lineBreak) :
      FrontStep source limit phase machine token next
        { machine.append source token with stage := .body }
  | atThen {flagged : Machine}
      (found : (role source token).structural machine.previous = some "then")
      (conditional : machine.kind? = some .conditional)
      (same : flagged = machine ∨ ∃ singleLine, flagged = machine.setSingleLine singleLine) :
      FrontStep source limit phase machine token next
        { flagged.append source token with stage := .body }
  | cutShort {word : String} {kind : Kind}
      (found : (role source token).structural machine.previous = some word)
      (opened : machine.kind? = some kind) (boundary : word ∈ phase.boundaries kind) :
      FrontStep source limit phase machine token next
        ({ machine.note (.headerCutShort kind word token.start) with stage := .body }.readBody
          source limit token next)

/-- Blocks that are still open after some have been left are open for one that is accepted. -/
theorem exists_closes_of_unwind {machine : Machine} (closes : Kind → Bool)
    (notice : Kind → Notice) (opened : (machine.unwind closes notice).stack ≠ []) :
    ∃ kind, closes kind = true := by
  fun_induction unwind closes notice machine with
  | case1 machine nothing => exact absurd nothing opened
  | case2 machine frame outer top accepts => exact ⟨frame.kind, accepts⟩
  | case3 machine frame outer top rejects inductionHypothesis => exact inductionHypothesis opened

theorem bodyStep_readBody (machine : Machine) (token : Token) (next : List Token) :
    BodyStep source limit machine token next (machine.readBody source limit token next) := by
  unfold readBody
  split
  · rename_i wordless
    exact .plain (by simp [wordless])
  rename_i word found
  split
  · rename_i starts
    exact .branch starts.1 found starts.2
  rename_i no_branch
  split
  · rename_i ends
    rw [ends] at found
    dsimp only
    split
    · rename_i outside
      exact .strayEnd found outside
    · rename_i opened
      obtain ⟨kind, closes⟩ := exists_closes_of_unwind _ _ opened
      exact .ownEnd opened (of_decide_eq_true closes) found
  split
  · rename_i listed
    exact .closer found listed
  split
  · rename_i kind opens
    split
    · rename_i room
      exact .opener found opens room
    · rename_i full
      exact .flat found opens full
  · rename_i opens_none
    refine .plain fun other same => ?_
    obtain rfl : word = other := Option.some.inj (found.symm.trans same)
    refine ⟨fun conditional listed => no_branch ⟨conditional, listed⟩, fun listed => ?_⟩
    obtain ⟨kind, member, rfl⟩ := List.mem_map.mp listed
    simpa using List.find?_eq_none.mp opens_none kind member

theorem previous_setSingleLine (machine : Machine) (singleLine : Bool) :
    (machine.setSingleLine singleLine).previous = machine.previous := by
  unfold setSingleLine
  split <;> rfl

theorem frontStep_readFront (machine : Machine) (phase : Phase) (token : Token)
    (next : List Token) :
    FrontStep source limit phase machine token next
      (machine.readFront source limit phase token next) := by
  unfold readFront
  dsimp only
  split
  · rename_i breaks
    exact .lineBreak breaks
  rename_i unbroken
  split
  · rename_i leads
    cases phase with
    | opening => exact .atThen leads.1 leads.2 (.inr ⟨_, rfl⟩)
    | condition => exact .atThen leads.1 leads.2 (.inl rfl)
  rename_i no_then
  split
  · rename_i kind word opened found
    split
    · rename_i boundary
      exact .cutShort found opened boundary
    · rename_i outside
      refine .plain unbroken fun other kind' same opened' => ?_
      obtain rfl : word = other := Option.some.inj (found.symm.trans same)
      obtain rfl : kind = kind' := Option.some.inj (opened.symm.trans opened')
      exact ⟨fun both => no_then ⟨found.trans (congrArg some both.1),
        opened.trans (congrArg some both.2)⟩, outside⟩
  · rename_i apart
    exact .plain unbroken fun word kind found opened => absurd found (apart kind word opened)

/-! ## The last significant word -/

@[simp]
theorem previous_unwind (closes : Kind → Bool) (notice : Kind → Notice) (machine : Machine) :
    (machine.unwind closes notice).previous = machine.previous := by
  fun_induction unwind closes notice machine with
  | case1 => rfl
  | case2 => rfl
  | case3 machine frame outer opened rejects inductionHypothesis =>
    rw [inductionHypothesis, previous_leave]
    rfl

/-- Placing a token, in whatever machine, passes its word on. -/
@[simp]
theorem previous_append (machine : Machine) (token : Token) :
    (machine.append source token).previous = (role source token).follow machine.previous := rfl

theorem BodyStep.previous {machine after : Machine} {token : Token} {next : List Token}
    (step : BodyStep source limit machine token next after) :
    after.previous = (role source token).follow machine.previous := by
  cases step <;> simp [note, enter]

theorem FrontStep.previous {phase : Phase} {machine after : Machine} {token : Token}
    {next : List Token} (step : FrontStep source limit phase machine token next after) :
    after.previous = (role source token).follow machine.previous := by
  cases step with
  | plain | lineBreak => rfl
  | atThen found conditional same =>
    rcases same with rfl | ⟨singleLine, rfl⟩
    · rfl
    · simp [previous_setSingleLine]
  | cutShort => exact (bodyStep_readBody _ token next).previous

/-- After a token the last significant word is that of the token, or still the one before it. -/
theorem previous_read (machine : Machine) (token : Token) (next : List Token) :
    (machine.read source limit token next).previous =
      (role source token).follow machine.previous := by
  unfold read
  split
  · exact (frontStep_readFront machine _ token next).previous
  · rfl
  · split <;> simp
  · exact (bodyStep_readBody machine token next).previous

/-! ## Where a machine may stand -/

/-- Outside of a body, in a header or behind an `else` or an `end`, some block is open. -/
def Anchored (machine : Machine) : Prop :=
  machine.stage ≠ .body → machine.stack ≠ []

@[simp]
theorem stack_append_eq_nil (machine : Machine) (token : Token) :
    (machine.append source token).stack = [] ↔ machine.stack = [] := by
  rw [← List.length_eq_zero_iff, ← List.length_eq_zero_iff]
  exact Iff.of_eq (congrArg (· = 0) (length_stack_attach machine _))

/-- A machine that stands in a body still does when it has left blocks open. -/
theorem stage_unwind {machine : Machine} (stands : machine.stage = .body)
    (closes : Kind → Bool) (notice : Kind → Notice) :
    (machine.unwind closes notice).stage = .body := by
  fun_induction unwind closes notice machine with
  | case1 => exact stands
  | case2 => exact stands
  | case3 machine frame outer opened rejects inductionHypothesis =>
    exact inductionHypothesis (stage_leave (show (machine.note _).stack = _ from opened) false)

/-- A machine that has left a block stands in a body. -/
theorem Anchored.of_leave {machine : Machine} (anchored : machine.Anchored) (closed : Bool) :
    (machine.leave closed).Anchored := by
  intro outside
  cases opened : machine.stack with
  | nil =>
    have same : machine.leave closed = machine := by simp [leave, opened]
    rw [same] at outside ⊢
    exact absurd opened (anchored outside)
  | cons frame outer => exact absurd (stage_leave opened closed) outside

theorem anchored_of_body {machine : Machine} (stands : machine.stage = .body) :
    machine.Anchored :=
  fun outside => absurd stands outside

theorem anchored_of_open {machine : Machine} (opened : machine.stack ≠ []) : machine.Anchored :=
  fun _ => opened

theorem BodyStep.anchored {machine after : Machine} {token : Token} {next : List Token}
    (step : BodyStep source limit machine token next after) (stands : machine.stage = .body) :
    after.Anchored := by
  cases step with
  | plain => exact anchored_of_body ((stage_append machine source token).trans stands)
  | branch conditional =>
    apply anchored_of_open
    rw [Ne, stack_append_eq_nil]
    intro nothing
    simp [kind?, nothing] at conditional
  | strayEnd =>
    exact anchored_of_body ((stage_append _ source token).trans (stage_unwind stands _ _))
  | ownEnd opened => exact anchored_of_open (by rwa [Ne, stack_append_eq_nil])
  | closer =>
    exact (anchored_of_body
      ((stage_append _ source token).trans (stage_unwind stands _ _))).of_leave true
  | opener =>
    apply anchored_of_open
    rw [Ne, stack_append_eq_nil]
    exact List.cons_ne_nil _ _
  | flat => exact anchored_of_body ((stage_append _ source token).trans stands)

theorem FrontStep.anchored {phase : Phase} {machine after : Machine} {token : Token}
    {next : List Token} (step : FrontStep source limit phase machine token next after)
    (opened : machine.stack ≠ []) : after.Anchored := by
  cases step with
  | plain => exact anchored_of_open (by rwa [Ne, stack_append_eq_nil])
  | lineBreak | atThen => exact anchored_of_body rfl
  | cutShort => exact (bodyStep_readBody _ token next).anchored rfl

/-- One token keeps a machine from standing outside of a body with no block open. -/
theorem Anchored.read {machine : Machine} (anchored : machine.Anchored) (token : Token)
    (next : List Token) : (machine.read source limit token next).Anchored := by
  have placed (outside : machine.stage ≠ .body) : (machine.append source token).Anchored :=
    anchored_of_open (by rw [Ne, stack_append_eq_nil]; exact anchored outside)
  unfold Machine.read
  split
  · rename_i phase front
    exact (frontStep_readFront machine phase token next).anchored (anchored (by simp [front]))
  · rename_i waiting
    apply anchored_of_open
    rw [Ne, stack_append_eq_nil]
    exact anchored (by simp [waiting])
  · rename_i closing
    split
    · exact placed (by simp [closing])
    · exact (placed (by simp [closing])).of_leave true
  · rename_i stands
    exact (bodyStep_readBody machine token next).anchored stands

theorem Anchored.feed {machine : Machine} (anchored : machine.Anchored)
    (behind tokens : List Token) : (machine.feed source limit behind tokens).Anchored := by
  induction tokens generalizing machine with
  | nil => exact anchored
  | cons token rest inductionHypothesis => exact inductionHypothesis (anchored.read token _)

/-! ## Blocks that are open at the end -/

/-- Where blocks are still open at the end, the file gets a block that is left open. -/
theorem exists_open_of_unwind {notice : Kind → Notice} {machine : Machine}
    (opened : machine.stack ≠ []) :
    ∃ block ∈ Forest.blocks (machine.unwind (fun _ => false) notice).root,
      block.closed = false := by
  obtain ⟨frame, outer, split⟩ := List.exists_cons_of_ne_nil opened
  induction outer generalizing machine frame with
  | nil =>
    have last : ((machine.note (notice frame.kind)).leave false).stack = [] := by
      simp [leave, note, split, attach]
    rw [unwind_of_not_closes split (by simp), unwind_of_nothing_open last]
    refine ⟨⟨frame.kind, frame.children, false, frame.singleLine⟩, ?_, rfl⟩
    simp [leave, note, split, attach, Forest.blocks, Node.block?]
  | cons around outer inductionHypothesis =>
    rw [unwind_of_not_closes split (by simp)]
    have left : ((machine.note (notice frame.kind)).leave false).stack =
        { around with children := around.children ++
          [.block frame.kind frame.children false frame.singleLine] } :: outer := by
      simp [leave, note, split, attach]
    exact inductionHypothesis (by simp [left]) _ left

end Machine

/-- The children of a parsed source are those that the machine places in the file. -/
theorem parse_children (source : Text) (limit : Nat) :
    (parse source limit).children =
      (Machine.start.run source limit (Token.tokensFrom 0 source)).root := by
  rw [← significantTokens_tokenize, run_start]
  rfl

end BrightBlocks.Block
