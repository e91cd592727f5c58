import BrightBlocks.Proofs.Block.LineRecognition

/-!
# Layouts are recovered

Tokens that lay out nodes are recovered as these nodes, without a notice, where
the nesting limit allows their depth (`recover_of_laid`). A laid out block leads the stack machine
from the line before the block to the line behind it (`Laid.run_eq`).
-/

namespace BrightBlocks.Block

open Machine (appendAll)

section

variable {source : Text} {limit : Nat}
variable {kind : Kind} {children root : List Node} {singleLine : Bool} {outer : List Frame}
  {previous : Option String} {log : List Notice}

/-! ## Layouts -/

theorem ofOpener?_opener (kind : Kind) : Kind.ofOpener? kind.opener = some kind := by
  cases kind <;> rfl

/-- An opener at the start of a line opens a block, if there is room for it. -/
theorem run_opener {opener : Token} {stack : List Frame}
    (opens : role source opener = .word kind.opener) (room : stack.length < limit)
    (rest : List Token) :
    Machine.run source limit ⟨.body, stack, root, none, log⟩ (opener :: rest) =
      Machine.run source limit ⟨.front .opening, ⟨kind, [.leaf opener], false⟩ :: stack, root,
        some kind.opener, log⟩ rest := by
  have step : Machine.readBody source limit ⟨.body, stack, root, none, log⟩ opener
      (rest.take 2) =
        ⟨.front .opening, ⟨kind, [.leaf opener], false⟩ :: stack, root,
          (role source opener).follow none, log⟩ := by
    rw [Machine.readBody_of_opener (structural_at_start opens) (ofOpener?_opener kind)]
    exact if_pos room
  have follows : (role source opener).follow none = some kind.opener := by
    rw [opens]
    rfl
  rw [Machine.run, Machine.read_of_body rfl, step, follows]

/-- A header line opens a block, if there is room for it. -/
theorem run_header_line {opener : Token} {header : List Token} {stack : List Frame}
    (opens : role source opener = .word kind.opener)
    (headed : FrontLine source kind .opening (some kind.opener) header)
    (room : stack.length < limit) (rest : List Token) :
    Machine.run source limit ⟨.body, stack, root, none, log⟩ (opener :: (header ++ rest)) =
      Machine.run source limit ⟨.body, ⟨kind, leafNodes (opener :: header), false⟩ :: stack, root,
        none, log⟩ rest := by
  rw [run_opener opens room, headed.run_eq fun _ => rfl]
  rfl

/-- A line break in a body is placed, and forgets the last significant word. -/
theorem run_body_lineBreak {machine : Machine} {lineBreak : Token} (stands : machine.stage = .body)
    (breaks : role source lineBreak = .lineBreak) (rest : List Token) :
    machine.run source limit (lineBreak :: rest) =
      ({ machine with previous := none }.attach [.leaf lineBreak]).run source limit rest := by
  have wordless : (role source lineBreak).word? = none := by
    rw [breaks]
    rfl
  rw [run_token_of_plain stands (by simp [structural_of_no_word wordless])]
  obtain ⟨stage, stack, root, previous, log⟩ := machine
  cases stack <;> simp [Machine.append, Machine.attach, breaks, Role.follow]

/--
Tokens that lay out nodes lead the machine from the start of a line to the start of a line, with the
nodes attached to what it stands in.
-/
theorem Laid.run_eq {inside : Option Kind} {depth : Nat} {tokens : List Token} {nodes : List Node}
    (laid : Laid source inside depth tokens nodes) (machine : Machine)
    (stands : machine.stage = .body) (fresh : machine.previous = none)
    (within : machine.kind? = inside) (room : machine.stack.length + depth ≤ limit)
    (rest : List Token) :
    machine.run source limit (tokens ++ rest) =
      (machine.attach nodes).run source limit rest := by
  -- the nodes are attached line by line, so the machine is another one for every line
  induction laid generalizing machine rest with
  | nil => simp
  | line clear ends more inductionHypothesis =>
    rename_i front tokens lineBreak nodes
    have placed : { machine.appendAll source front with previous := none } =
        machine.attach (leafNodes front) := by
      rw [← fresh, ← Machine.previous_attach machine (leafNodes front)]
      rfl
    have further := inductionHypothesis (machine.attach (leafNodes (front ++ [lineBreak])))
      (by simpa using stands) (by simpa using fresh) (by simpa using within) (by simpa using room)
      rest
    rw [Machine.attach_attach] at further
    rw [List.append_assoc, Spares.run_body machine stands (fresh ▸ clear.spares), List.cons_append,
      run_body_lineBreak (by simpa [appendAll] using stands) ends, placed, Machine.attach_attach,
      ← further]
    simp [leafNodes]
  | branch starts more inductionHypothesis =>
    rename_i depth front tokens nodes
    have further := inductionHypothesis (machine.attach (leafNodes front))
      (by simpa using stands) (by simpa using fresh) (by simpa using within) (by simpa using room)
      rest
    rw [Machine.attach_attach] at further
    rw [List.append_assoc, ← further]
    obtain ⟨stage, stack, root, previous, log⟩ := machine
    cases stack with
    | nil => contradiction
    | cons frame outer =>
      obtain ⟨kind, children, singleLine⟩ := frame
      obtain rfl : stage = .body := stands
      obtain rfl : previous = none := fresh
      obtain rfl : kind = .conditional := Option.some.inj within
      exact starts.run_eq _
  | block opens headed inner closes ends more innerHypothesis inductionHypothesis =>
    rename_i inside depth kind opener lineBreak header body back tokens children nodes
    obtain ⟨stage, stack, root, previous, log⟩ := machine
    obtain rfl : stage = .body := stands
    obtain rfl : previous = none := fresh
    have room : stack.length + (depth + 1) ≤ limit := room
    have body_read := innerHypothesis
      ⟨.body, ⟨kind, leafNodes (opener :: header), false⟩ :: stack, root, none, log⟩ rfl rfl rfl
      (by simp only [List.length_cons]; omega) (back ++ lineBreak :: (tokens ++ rest))
    have further := inductionHypothesis
      (Machine.attach ⟨.body, stack, root, none, log⟩
        [.block kind (leafNodes (opener :: header) ++ children ++ leafNodes back) true false,
          .leaf lineBreak])
      (by simp) (by simp) (by simpa using within) (by simpa using room) rest
    have left : { Machine.leave ⟨.body, ⟨kind, leafNodes (opener :: header) ++ children ++
        leafNodes back, false⟩ :: stack, root, trail source none back, log⟩ true with
          previous := none } =
        Machine.attach ⟨.body, stack, root, none, log⟩ [.block kind
          (leafNodes (opener :: header) ++ children ++ leafNodes back) true false] := by
      cases stack <;> rfl
    calc
      Machine.run source limit ⟨.body, stack, root, none, log⟩
          (opener :: header ++ body ++ back ++ lineBreak :: tokens ++ rest)
        = Machine.run source limit
            ⟨.body, ⟨kind, leafNodes (opener :: header), false⟩ :: stack, root, none, log⟩
            (body ++ (back ++ lineBreak :: (tokens ++ rest))) := by
          rw [← run_header_line opens headed (by omega)]
          simp
      _ = Machine.run source limit
            ⟨.body, ⟨kind, leafNodes (opener :: header) ++ children, false⟩ :: stack, root, none,
              log⟩
            (back ++ lineBreak :: (tokens ++ rest)) := body_read
      _ = Machine.run source limit
            (Machine.attach ⟨.body, stack, root, none, log⟩ [.block kind
              (leafNodes (opener :: header) ++ children ++ leafNodes back) true false,
              .leaf lineBreak])
            (tokens ++ rest) := by
          rw [closes.run_eq, run_body_lineBreak (Machine.stage_leave rfl true) ends, left,
            Machine.attach_attach]
          rfl
      _ = _ := by
          rw [further, Machine.attach_attach]
          rfl

end

/-! ## Recognition -/

/--
Every layout is recovered exactly: where tokens before the end of the input lay out nodes that nest
no deeper than the limit, the recovery yields these nodes and notes nothing.
-/
theorem recover_of_laid {source : Text} {limit depth : Nat} {tokens : List Token}
    {nodes : List Node}
    (laid : Laid source none depth (tokens.takeWhile (·.kind ≠ .endOfInput)) nodes)
    (room : depth ≤ limit) :
    (recover source limit tokens).1.children = nodes ∧
      (recover source limit tokens).2.log = [] := by
  have read := laid.run_eq .start rfl rfl rfl (by simpa [Machine.start] using room) []
  rw [List.append_nil] at read
  have ended : (Machine.start.attach nodes).run source limit [] =
      ⟨.body, [], nodes, none, []⟩ :=
    Machine.unwind_of_nothing_open rfl
  have recovered := (run_start source limit tokens).symm.trans (read.trans ended)
  exact ⟨congrArg Machine.root recovered, congrArg Machine.log recovered⟩

/-- A conditional in a loop, where `m.next` closes nothing, is recovered from its source. -/
theorem recover_of_laid_in_loop :
    let source : Text := "for\nif then\nelse\nm.next\nend if\nnext\n".toList
    let nodes : List Node :=
      [.block .forLoop
        [.leaf ⟨.keyword, 0, 3⟩, .leaf ⟨.whitespace, 3, 4⟩,
          .block .conditional
            [.leaf ⟨.keyword, 4, 6⟩, .leaf ⟨.whitespace, 6, 7⟩, .leaf ⟨.keyword, 7, 11⟩,
              .leaf ⟨.whitespace, 11, 12⟩, .leaf ⟨.keyword, 12, 16⟩, .leaf ⟨.whitespace, 16, 17⟩,
              .leaf ⟨.keyword, 17, 18⟩, .leaf ⟨.dot, 18, 19⟩, .leaf ⟨.keyword, 19, 23⟩,
              .leaf ⟨.whitespace, 23, 24⟩, .leaf ⟨.identifier, 24, 27⟩, .leaf ⟨.whitespace, 27, 28⟩,
              .leaf ⟨.keyword, 28, 30⟩] true false,
          .leaf ⟨.whitespace, 30, 31⟩, .leaf ⟨.keyword, 31, 35⟩] true false,
        .leaf ⟨.whitespace, 35, 36⟩]
    Laid source none 2
        ((Token.tokenize source).takeWhile (·.kind ≠ .endOfInput)) nodes ∧
      (recover source 2 (Token.tokenize source)).1.children = nodes ∧
      (recover source 2 (Token.tokenize source)).2.log = [] := by
  intro source nodes
  have line_end : ∀ token : Token, role source token = .lineBreak → LineEnd source [token] :=
    fun token breaks => .intro .absent .absent breaks
  -- the lines of the conditional, from its `else` to its `end if`
  have branches : Laid source (some .conditional) 0
      [⟨.keyword, 12, 16⟩, ⟨.whitespace, 16, 17⟩, ⟨.keyword, 17, 18⟩, ⟨.dot, 18, 19⟩,
        ⟨.keyword, 19, 23⟩, ⟨.whitespace, 23, 24⟩]
      (leafNodes [⟨.keyword, 12, 16⟩, ⟨.whitespace, 16, 17⟩] ++
        (leafNodes [⟨.keyword, 17, 18⟩, ⟨.dot, 18, 19⟩, ⟨.keyword, 19, 23⟩,
          ⟨.whitespace, 23, 24⟩] ++ [])) :=
    .branch (.plain (by decide +kernel) (line_end _ (by decide +kernel)))
      (@Laid.line source _ _ [⟨.keyword, 17, 18⟩, ⟨.dot, 18, 19⟩, ⟨.keyword, 19, 23⟩] [] _ _
        (by decide +kernel) (by decide +kernel) .nil)
  have headed : FrontLine source .conditional .opening (some "if")
      [⟨.whitespace, 6, 7⟩, ⟨.keyword, 7, 11⟩, ⟨.whitespace, 11, 12⟩] :=
    @FrontLine.withThen source .conditional .opening (some "if") [⟨.whitespace, 6, 7⟩]
      [⟨.whitespace, 11, 12⟩] ⟨.keyword, 7, 11⟩ rfl (by decide +kernel) (by decide +kernel)
      (line_end _ (by decide +kernel))
  have closing : Closing source .conditional
      [⟨.identifier, 24, 27⟩, ⟨.whitespace, 27, 28⟩, ⟨.keyword, 28, 30⟩] :=
    @Closing.phrase source .conditional ⟨.identifier, 24, 27⟩ ⟨.keyword, 28, 30⟩
      [⟨.whitespace, 27, 28⟩] (by decide +kernel) (.present (by decide +kernel))
      (by decide +kernel)
  have conditional := @Laid.block source (some .forLoop) 0 .conditional ⟨.keyword, 4, 6⟩
    ⟨.whitespace, 30, 31⟩ _ _ _ _ _ _ (by decide +kernel) headed branches closing
    (by decide +kernel) .nil
  have loop := @Laid.block source none 1 .forLoop ⟨.keyword, 0, 3⟩ ⟨.whitespace, 35, 36⟩ _ _ _ _ _
    _ (by decide +kernel)
    (@FrontLine.bare source .forLoop .opening (some "for") [] ⟨.whitespace, 3, 4⟩
      (by decide +kernel) (by decide +kernel))
    conditional
    (@Closing.word source .forLoop ⟨.keyword, 31, 35⟩ "next" (by decide +kernel)
      (by decide +kernel))
    (by decide +kernel) .nil
  have read : (Token.tokenize source).takeWhile (·.kind ≠ .endOfInput) = Forest.leaves nodes := by
    decide +kernel
  have laid : Laid source none 2
      ((Token.tokenize source).takeWhile (·.kind ≠ .endOfInput)) nodes := by
    rw [read]
    exact loop
  exact ⟨laid, recover_of_laid laid (by decide)⟩

end BrightBlocks.Block
