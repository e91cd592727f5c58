import Mathlib.Data.List.Forall2
import BrightBlocks.Proofs.Block.Feeding

/-!
# Machines that do alike

Two runs of the stack machine, over different tokens and against different
sources, build alike trees as long as the tokens mean the same. What is compared
is up to the reader of the trees: a `view` shows a token as whatever matters about
it, or hides it. `Machine.Alike` relates two machines in front of their next
tokens, and `Machine.Alike.read` keeps it over one token on each side.

Only at a word does the machine look at what is behind the token, so only there
the tokens behind have to agree (`SameAhead`). Notices are not compared.
-/

namespace BrightBlocks

/-- A tree whose leaves are no tokens but what is seen of them. -/
inductive Shape (α : Type)
  | leaf (value : α)
  | block (kind : Block.Kind) (children : List (Shape α)) (closed singleLine : Bool)

mutual

/-- What is seen of a node: a leaf or nothing of a token, and a block of every block. -/
def Node.shape {α : Type} (view : Token → Option α) : Node → List (Shape α)
  | .leaf token => (view token).toList.map .leaf
  | .block kind children closed singleLine =>
    [.block kind (Forest.shape view children) closed singleLine]

/-- What is seen of the nodes of a forest, from left to right. -/
def Forest.shape {α : Type} (view : Token → Option α) : List Node → List (Shape α)
  | [] => []
  | node :: rest => node.shape view ++ Forest.shape view rest

end

@[simp]
theorem Forest.shape_append {α : Type} (view : Token → Option α) (front back : List Node) :
    shape view (front ++ back) = shape view front ++ shape view back := by
  induction front with
  | nil => rfl
  | cons node rest inductionHypothesis => simp [shape, inductionHypothesis]

namespace Block

variable {α : Type} {view view' : Token → Option α} {source source' : Text}

/-- Open blocks of the same kind whose children look the same. -/
structure Frame.Alike (view view' : Token → Option α) (left right : Frame) : Prop where
  kind : left.kind = right.kind
  children : Forest.shape view left.children = Forest.shape view' right.children
  singleLine : left.singleLine = right.singleLine

/-- The same word is found on the line of both lists of tokens, or on neither, and code likewise. -/
structure SameAhead (source source' : Text) (next next' : List Token) : Prop where
  word : ∀ small, roleOnLine source next = .word small ↔ roleOnLine source' next' = .word small
  code : codeOnLine source next = codeOnLine source' next'

/-- Tokens that mean and look the same. -/
structure TokenAlike (view view' : Token → Option α) (source source' : Text)
    (token token' : Token) : Prop where
  role : role source token = role source' token'
  view : view token = view' token'

/-- Tokens that are read alike: they mean and look the same, and so does what is behind a word. -/
structure ReadAlike (view view' : Token → Option α) (source source' : Text) (token token' : Token)
    (next next' : List Token) : Prop extends TokenAlike view view' source source' token token' where
  ahead : ∀ small, Block.role source token = .word small → SameAhead source source' next next'

/-- Stretches of tokens that are read alike, one by one, with further tokens behind them. -/
inductive ReadsAlike (view view' : Token → Option α) (source source' : Text)
    (behind behind' : List Token) : List Token → List Token → Prop where
  | nil : ReadsAlike view view' source source' behind behind' [] []
  | cons {token token' : Token} {rest rest' : List Token}
      (first : ReadAlike view view' source source' token token' (rest ++ behind) (rest' ++ behind'))
      (more : ReadsAlike view view' source source' behind behind' rest rest') :
      ReadsAlike view view' source source' behind behind' (token :: rest) (token' :: rest')

/-! ## What is found on the line -/

/-- What is found on the line is found on both sides where the tokens mean the same. -/
theorem SameAhead.of_role {next next' : List Token}
    (same : roleOnLine source next = roleOnLine source' next') :
    SameAhead source source' next next' :=
  ⟨fun small => by rw [same], by simp only [codeOnLine, same]⟩

theorem SameAhead.trans {source'' : Text} {next next' next'' : List Token}
    (first : SameAhead source source' next next')
    (second : SameAhead source' source'' next' next'') : SameAhead source source'' next next'' :=
  ⟨fun small => (first.word small).trans (second.word small), first.code.trans second.code⟩

theorem roleOnLine_congr {next next' : List Token}
    (alike : List.Forall₂ (TokenAlike view view' source source') next next') :
    roleOnLine source next = roleOnLine source' next' := by
  cases alike with
  | nil => rfl
  | cons first rest =>
    cases rest with
    | nil => simp [roleOnLine, first.role]
    | cons second others => simp [roleOnLine, first.role, second.role]

/-- Tokens that mean and look the same, one by one, are read alike up to their end. -/
theorem ReadsAlike.of_forall₂ {tokens tokens' : List Token}
    (alike : List.Forall₂ (TokenAlike view view' source source') tokens tokens') :
    ReadsAlike view view' source source' [] [] tokens tokens' := by
  induction alike with
  | nil => exact .nil
  | cons first rest inductionHypothesis =>
    refine .cons ⟨first, fun _ _ => .of_role ?_⟩ inductionHypothesis
    rw [List.append_nil, List.append_nil]
    exact roleOnLine_congr rest

/-- Tokens of which the same is known are read alike if that tells what they mean and look like. -/
theorem ReadsAlike.of_map_eq {β : Type} {known known' : Token → β} {tokens tokens' : List Token}
    (same : tokens.map known = tokens'.map known')
    (tells : ∀ token token', known token = known' token' →
      TokenAlike view view' source source' token token') :
    ReadsAlike view view' source source' [] [] tokens tokens' := by
  rw [← List.forall₂_eq_eq_eq, List.forall₂_map_left_iff, List.forall₂_map_right_iff] at same
  exact .of_forall₂ (same.imp tells)

/-- Behind the last line break of a stretch nothing is looked at. -/
theorem roleOnLine_append_of_lineBreak {tokens : List Token} (nonempty : tokens ≠ [])
    (ended : ∀ last ∈ tokens.getLast?, role source last = .lineBreak) (behind : List Token) :
    roleOnLine source (tokens ++ behind) = roleOnLine source tokens := by
  match tokens with
  | [] => contradiction
  | [last] => simp [roleOnLine, ended last rfl]
  | token :: second :: rest => rfl

/-- Whatever is behind them, tokens up to a line break are read alike where they mean the same. -/
theorem ReadsAlike.of_lineBreak {tokens : List Token}
    (same : ∀ token ∈ tokens, role source token = role source' token)
    (ended : ∀ last ∈ tokens.getLast?, role source last = .lineBreak)
    (behind behind' : List Token) :
    ReadsAlike view view source source' behind behind' tokens tokens := by
  induction tokens with
  | nil => exact .nil
  | cons token rest inductionHypothesis =>
    have further : ∀ last ∈ rest.getLast?, role source last = .lineBreak := by
      intro last found
      apply ended
      rw [List.getLast?_cons, Option.mem_def.mp found]
      rfl
    have more : ∀ token ∈ rest, role source token = role source' token :=
      fun other member => same other (List.mem_cons_of_mem token member)
    refine .cons ⟨⟨same token List.mem_cons_self, rfl⟩, ?_⟩ (inductionHypothesis more further)
    intro small spelled
    apply SameAhead.of_role
    have nonempty : rest ≠ [] := by
      rintro rfl
      rw [ended token rfl] at spelled
      contradiction
    have further' : ∀ last ∈ rest.getLast?, role source' last = .lineBreak := by
      intro last found
      rw [← more last (List.mem_of_getLast? found), further last found]
    have alike : List.Forall₂ (TokenAlike view view source source') rest rest :=
      List.forall₂_same.mpr fun other member => ⟨more other member, rfl⟩
    rw [roleOnLine_append_of_lineBreak nonempty further,
      roleOnLine_append_of_lineBreak nonempty further', roleOnLine_congr alike]

namespace Machine

/--
Machines that stand in the same place of alike trees. The left one may have placed a `lead` in the
file that the right one has not.
-/
structure Alike (view view' : Token → Option α) (lead : List (Shape α)) (left right : Machine) :
    Prop where
  stage : left.stage = right.stage
  stack : List.Forall₂ (Frame.Alike view view') left.stack right.stack
  root : Forest.shape view left.root = lead ++ Forest.shape view' right.root
  previous : left.previous = right.previous

namespace Alike

/-- At the start nothing is placed. -/
theorem start : Alike view view' [] Machine.start Machine.start :=
  ⟨rfl, .nil, rfl, rfl⟩

variable {lead : List (Shape α)} {left right : Machine}

/-! ## Parts of a step -/

theorem kind? (alike : Alike view view' lead left right) : left.kind? = right.kind? := by
  have stack := alike.stack
  unfold Machine.kind?
  generalize left.stack = frames at stack ⊢
  generalize right.stack = frames' at stack ⊢
  cases stack with
  | nil => rfl
  | cons frame outer => exact congrArg some frame.kind

theorem length_stack (alike : Alike view view' lead left right) :
    left.stack.length = right.stack.length :=
  alike.stack.length_eq

theorem stack_eq_nil (alike : Alike view view' lead left right) :
    left.stack = [] ↔ right.stack = [] := by
  rw [← List.length_eq_zero_iff, ← List.length_eq_zero_iff, alike.length_stack]

/-- Notices are not compared. -/
theorem note (alike : Alike view view' lead left right) (notice notice' : Notice) :
    Alike view view' lead (left.note notice) (right.note notice') :=
  ⟨alike.stage, alike.stack, alike.root, alike.previous⟩

theorem setStage (alike : Alike view view' lead left right) (stage : Stage) :
    Alike view view' lead { left with stage := stage } { right with stage := stage } :=
  ⟨rfl, alike.stack, alike.root, alike.previous⟩

theorem enter (alike : Alike view view' lead left right) (kind : Kind) :
    Alike view view' lead (left.enter kind) (right.enter kind) :=
  ⟨rfl, .cons ⟨rfl, rfl, rfl⟩ alike.stack, alike.root, alike.previous⟩

theorem attach (alike : Alike view view' lead left right) {nodes nodes' : List Node}
    (same : Forest.shape view nodes = Forest.shape view' nodes') :
    Alike view view' lead (left.attach nodes) (right.attach nodes') := by
  obtain ⟨leftStage, leftStack, leftRoot, leftPrevious, leftLog⟩ := left
  obtain ⟨rightStage, rightStack, rightRoot, rightPrevious, rightLog⟩ := right
  obtain ⟨stage, stack, root, previous⟩ := alike
  dsimp only at stage stack root previous
  cases stack with
  | nil => exact ⟨stage, .nil, by simp [Machine.attach, root, same], previous⟩
  | cons frame outer =>
    refine ⟨stage, .cons ⟨frame.kind, ?_, frame.singleLine⟩ outer, root, previous⟩
    simp [frame.children, same]

theorem setSingleLine (alike : Alike view view' lead left right) (singleLine : Bool) :
    Alike view view' lead (left.setSingleLine singleLine) (right.setSingleLine singleLine) := by
  obtain ⟨leftStage, leftStack, leftRoot, leftPrevious, leftLog⟩ := left
  obtain ⟨rightStage, rightStack, rightRoot, rightPrevious, rightLog⟩ := right
  obtain ⟨stage, stack, root, previous⟩ := alike
  dsimp only at stage stack root previous
  cases stack with
  | nil => exact ⟨stage, .nil, root, previous⟩
  | cons frame outer => exact ⟨stage, .cons ⟨frame.kind, frame.children, rfl⟩ outer, root, previous⟩

theorem leave (alike : Alike view view' lead left right) (closed : Bool) :
    Alike view view' lead (left.leave closed) (right.leave closed) := by
  obtain ⟨leftStage, leftStack, leftRoot, leftPrevious, leftLog⟩ := left
  obtain ⟨rightStage, rightStack, rightRoot, rightPrevious, rightLog⟩ := right
  obtain ⟨stage, stack, root, previous⟩ := alike
  dsimp only at stage stack root previous
  cases stack with
  | nil => exact ⟨stage, .nil, root, previous⟩
  | @cons frame frame' outer outer' same others =>
    obtain ⟨kind, children, singleLine⟩ := same
    have below : Alike view view' lead ⟨.body, outer, leftRoot, leftPrevious, leftLog⟩
        ⟨.body, outer', rightRoot, rightPrevious, rightLog⟩ :=
      ⟨rfl, others, root, previous⟩
    exact below.attach (by simp [Forest.shape, Node.shape, kind, children, singleLine])

/-- A token is placed on both sides where it means and looks the same. -/
theorem append (alike : Alike view view' lead left right) {token token' : Token}
    (meaning : role source token = role source' token') (seen : view token = view' token') :
    Alike view view' lead (left.append source token) (right.append source' token') := by
  have placed : Alike view view' lead (left.attach [.leaf token]) (right.attach [.leaf token']) :=
    alike.attach (by simp [Forest.shape, Node.shape, seen])
  refine ⟨placed.stage, placed.stack, placed.root, ?_⟩
  show (role source token).follow left.previous = (role source' token').follow right.previous
  rw [meaning, alike.previous]

/-- Open blocks are left on both sides up to the same one. -/
theorem unwind (alike : Alike view view' lead left right) (closes : Kind → Bool)
    (notice notice' : Kind → Notice) :
    Alike view view' lead (left.unwind closes notice) (right.unwind closes notice') := by
  induction depth : left.stack.length generalizing left right with
  | zero =>
    have nothing := List.length_eq_zero_iff.mp depth
    rwa [unwind_of_nothing_open nothing, unwind_of_nothing_open (alike.stack_eq_nil.mp nothing)]
  | succ depth inductionHypothesis =>
    obtain ⟨frame, outer, opened⟩ := List.exists_cons_of_length_eq_add_one depth
    obtain ⟨frame', outer', opened'⟩ : ∃ frame' outer', right.stack = frame' :: outer' :=
      List.exists_cons_of_length_eq_add_one (alike.length_stack.symm.trans depth)
    have kind : frame.kind = frame'.kind := by
      have innermost := alike.kind?
      simpa [Machine.kind?, opened, opened'] using innermost
    by_cases accepts : closes frame.kind
    · rwa [unwind_of_closes opened accepts, unwind_of_closes opened' (kind ▸ accepts)]
    · rw [unwind_of_not_closes opened accepts, unwind_of_not_closes opened' (kind ▸ accepts)]
      apply inductionHypothesis ((alike.note _ _).leave false)
      rw [length_stack_leave (show (left.note _).stack = _ from opened)]
      rw [opened, List.length_cons] at depth
      exact Nat.succ.inj depth

/-! ## Steps -/

theorem stageOfElse_congr {next next' : List Token} (ahead : SameAhead source source' next next')
    (word : String) : stageOfElse source word next = stageOfElse source' word next' := by
  simp only [stageOfElse, ahead.word]

section

variable {limit : Nat} {token token' : Token} {next next' : List Token}

theorem readBody (alike : Alike view view' lead left right)
    (reads : ReadAlike view view' source source' token token' next next') :
    Alike view view' lead (left.readBody source limit token next)
      (right.readBody source' limit token' next') := by
  obtain ⟨⟨meaning, seen⟩, ahead⟩ := reads
  have placed := alike.append meaning seen
  unfold Machine.readBody
  rw [← meaning, ← alike.previous, ← alike.kind?, ← alike.length_stack]
  cases found : (role source token).structural left.previous with
  | none => exact placed
  | some word =>
    have same := ahead word (role_of_structural found)
    dsimp only
    split
    · rw [stageOfElse_congr same]
      exact placed.setStage _
    split
    · have closes : (fun kind : Kind => decide (roleOnLine source next = .word kind.opener)) =
          fun kind => decide (roleOnLine source' next' = .word kind.opener) := by
        funext kind
        exact decide_eq_decide.mpr (same.word kind.opener)
      rw [closes]
      have reached := alike.unwind (fun kind => roleOnLine source' next' = .word kind.opener)
        (.deferredEnd · token.start) (.deferredEnd · token'.start)
      simp only [reached.stack_eq_nil]
      split
      · exact reached.append meaning seen
      · exact (reached.append meaning seen).setStage .closing
    split
    · exact ((alike.unwind _ _ _).append meaning seen).leave true
    split
    · split
      · exact (alike.enter _).append meaning seen
      · exact (alike.note _ _).append meaning seen
    · exact placed

theorem readFront (alike : Alike view view' lead left right) (phase : Phase)
    (reads : ReadAlike view view' source source' token token' next next') :
    Alike view view' lead (left.readFront source limit phase token next)
      (right.readFront source' limit phase token' next') := by
  obtain ⟨⟨meaning, seen⟩, ahead⟩ := id reads
  have placed := alike.append meaning seen
  unfold Machine.readFront
  rw [← meaning, ← alike.previous, ← alike.kind?]
  dsimp only
  split
  · exact placed.setStage .body
  split
  · rename_i leads
    have same := ahead "then" (role_of_structural leads.1)
    rw [same.code]
    cases phase with
    | opening => exact ((alike.setSingleLine _).append meaning seen).setStage .body
    | condition => exact placed.setStage .body
  split
  · split
    · exact ((alike.note _ _).setStage .body).readBody reads
    · exact placed
  · exact placed

/-- One token on each side keeps machines alike. -/
theorem read (alike : Alike view view' lead left right)
    (reads : ReadAlike view view' source source' token token' next next') :
    Alike view view' lead (left.read source limit token next)
      (right.read source' limit token' next') := by
  have placed := alike.append reads.role reads.view
  unfold Machine.read
  rw [← alike.stage, ← reads.role]
  split
  · exact alike.readFront _ reads
  · exact placed.setStage _
  · split
    · exact placed
    · exact placed.leave true
  · exact alike.readBody reads

end

/-! ## Runs -/

/-- Stretches of tokens that are read alike keep machines alike. -/
theorem feed (alike : Alike view view' lead left right) (limit : Nat)
    {tokens tokens' behind behind' : List Token}
    (reads : ReadsAlike view view' source source' behind behind' tokens tokens') :
    Alike view view' lead (left.feed source limit behind tokens)
      (right.feed source' limit behind' tokens') := by
  induction reads generalizing left right with
  | nil => exact alike
  | cons first more inductionHypothesis =>
    obtain ⟨same, ahead⟩ := first
    apply inductionHypothesis
    apply alike.read
    refine ⟨same, fun small spelled => ?_⟩
    obtain ⟨word, code⟩ := ahead small spelled
    exact ⟨by simpa using word, by simpa using code⟩

theorem run (alike : Alike view view' lead left right) (limit : Nat) {tokens tokens' : List Token}
    (reads : ReadsAlike view view' source source' [] [] tokens tokens') :
    Alike view view' lead (left.run source limit tokens) (right.run source' limit tokens') := by
  rw [run_eq_unwind, run_eq_unwind]
  exact (alike.feed limit reads).unwind _ _ _

end Alike

end Machine

end Block

end BrightBlocks
