import BrightBlocks.Proofs.Block.HeaderSimulation

/-!
# The recovery is a run of the machine

The recovery reads blocks by recursion, tries terminators and puts them back.
The stack machine reads every token once. `recover_eq_machine_run` says that
they build the same tree and note the same decisions.

Every frame of the machine's stack stands for a body that is being read. The
frames below the innermost one stay as they are until it is left, so a
statement about one body leaves them open (`BodyReads.run_eq`).
-/

namespace BrightBlocks.Block

section

variable {source : Text} {limit : Nat} {cursor after : Cursor} {token : Token}
  {kind : Kind} {children root : List Node} {singleLine : Bool} {outer : List Frame}

/-! ## Bodies -/

/-- The machine opens a block as the recovery does. -/
theorem read_opener {inner : Kind} {word : String} {stack : List Frame}
    (taken : cursor.advance? source = some (token, after))
    (found : (role source token).structural cursor.previous = some word)
    (opens : Kind.ofOpener? word = some inner) (allowed : stack.length < limit)
    (next : List Token) :
    (cursor.machine .body stack root).read source limit token next =
      after.enter.machine (.front .opening) (⟨inner, [.leaf token], false⟩ :: stack) root := by
  have entered : (cursor.machine .body stack root).enter inner =
      cursor.machine (.front .opening) (⟨inner, [], false⟩ :: stack) root := rfl
  have counted : (cursor.machine .body stack root).stack.length < limit := allowed
  rw [Machine.read_of_body rfl, Machine.readBody_of_opener found opens, if_pos counted, entered,
    attach_of_advance? taken]
  rfl

/-- The machine keeps an opener flat as the recovery does. -/
theorem read_full {inner : Kind} {word : String} {stack : List Frame}
    (taken : cursor.advance? source = some (token, after))
    (found : (role source token).structural cursor.previous = some word)
    (opens : Kind.ofOpener? word = some inner) (full : ¬ stack.length < limit)
    (next : List Token) :
    (cursor.machine .body stack root).read source limit token next =
      ((after.note (.keptFlat limit word token.start)).machine .body stack root).attach
        [.leaf token] := by
  have noted : (cursor.note (.keptFlat limit word token.start)).advance? source =
      some (token, after.note (.keptFlat limit word token.start)) := by
    rw [Cursor.advance?_note, taken]
    rfl
  have counted : ¬ (cursor.machine .body stack root).stack.length < limit := full
  rw [Machine.read_of_body rfl, Machine.readBody_of_opener found opens, if_neg counted,
    ← attach_of_advance? noted]
  rfl

/-- The machine reads a nested block as the recovery does, once it reads the block's body so. -/
theorem run_nested {inner : Kind} {word : String} {nested : Body} (stack : List Frame)
    (ready : cursor.Ready stack.length) (taken : cursor.advance? source = some (token, after))
    (found : (role source token).structural cursor.previous = some word)
    (opens : Kind.ofOpener? word = some inner) (allowed : stack.length < limit)
    (inside : ∀ children singleLine,
      ((header source inner .opening after.enter).cursor.machine .body
        (⟨inner, children, singleLine⟩ :: stack) root).run source limit
          (header source inner .opening after.enter).cursor.ahead =
        ((nested.cursor.machine .body
          (⟨inner, children ++ nested.children, singleLine⟩ :: stack) root).leave
            nested.closed).run source limit nested.cursor.ahead) :
    (cursor.machine .body stack root).run source limit cursor.ahead =
      ((nested.cursor.leave.machine .body stack root).attach
        [.block inner
          (leafNodes (token :: (header source inner .opening after.enter).leaves) ++
            nested.children)
          nested.closed (header source inner .opening after.enter).singleLine]).run source limit
        nested.cursor.leave.ahead := by
  have opened : after.enter.Ready (stack.length + 1) := (ready.moves (.of_advance? taken)).enter
  rw [run_of_advance? taken, read_opener taken found opens allowed, ← Cursor.ahead_enter after,
    (header_reads source inner .opening after.enter).run_eq opened (fun _ => rfl), inside]
  rfl

/--
While the machine stands in a body it does to its frame what reading the body does, and leaves it
as the body ends. The frames around it are not looked at.
-/
theorem BodyReads.run_eq {result : Body} (reads : BodyReads source limit kind cursor result)
    (outer : List Frame) (ready : cursor.Ready (outer.length + 1)) (children : List Node)
    (singleLine : Bool) :
    (cursor.machine .body (⟨kind, children, singleLine⟩ :: outer) root).run source limit
        cursor.ahead =
      ((result.cursor.machine .body
        (⟨kind, children ++ result.children, singleLine⟩ :: outer) root).leave
          result.closed).run source limit result.cursor.ahead := by
  induction reads generalizing children singleLine outer with
  | ended stuck =>
    rw [run_of_stuck stuck, List.append_nil]
    rfl
  | branch taken found further inductionHypothesis =>
    obtain ⟨meaning, rfl, is_else⟩ := means_of_turn found
    rw [run_branch ready taken meaning is_else,
      inductionHypothesis outer (ready.moves (branch_moves source _ _ _))]
    simp [Body.prepend]
  | tryEnd taken found => exact run_tryEnd ready taken (means_of_turn found)
  | close taken found =>
    obtain ⟨word, meaning, own⟩ := means_of_turn found
    rw [run_of_advance? taken, Machine.read_of_body rfl,
      Machine.readBody_of_own_closer meaning (closers_of_kind own) rfl own,
      append_of_advance? taken]
  | defer taken found =>
    obtain ⟨meaning, closer, foreign⟩ := means_of_turn found
    rw [run_of_advance? taken, Machine.read_of_body rfl,
      Machine.readBody_of_foreign_closer meaning closer rfl foreign,
      ← Machine.read_of_body (Machine.stage_leave rfl false), ← run_of_advance? taken,
      Cursor.ahead_note, Cursor.ahead_fill, List.append_nil]
    rfl
  | nest taken found allowed inside further nestedHypothesis inductionHypothesis =>
    rename_i kind inner cursor after token word nested rest
    obtain ⟨meaning, opens⟩ := means_of_turn found
    rw [ready.depth] at allowed
    have opened : after.enter.Ready (outer.length + 1 + 1) :=
      (ready.moves (.of_advance? taken)).enter
    have inner_ready := opened.moves (header_moves source inner .opening after.enter)
    rw [run_nested (⟨kind, children, singleLine⟩ :: outer) ready taken meaning opens allowed
      (nestedHypothesis (⟨kind, children, singleLine⟩ :: outer) inner_ready)]
    refine (inductionHypothesis outer (inner_ready.moves inside.moves).leave _ singleLine).trans ?_
    rw [List.append_assoc]
    rfl
  | flat taken found full further inductionHypothesis =>
    rename_i kind inner cursor after token word rest
    obtain ⟨meaning, opens⟩ := means_of_turn found
    rw [ready.depth] at full
    have noted := (ready.moves (.of_advance? taken)).note (.keptFlat limit word token.start)
    rw [run_of_advance? taken, read_full taken meaning opens full]
    refine (inductionHypothesis outer noted _ singleLine).trans ?_
    rw [List.append_assoc]
    rfl
  | plain taken found further inductionHypothesis =>
    rename_i kind cursor after token rest
    have plain := means_of_turn found
    have placed : (cursor.machine .body (⟨kind, children, singleLine⟩ :: outer) root).readBody
        source limit token (after.ahead.take 2) =
          after.machine .body (⟨kind, children ++ [.leaf token], singleLine⟩ :: outer) root := by
      rw [← append_of_advance? taken]
      apply Machine.readBody_of_plain
      intro word meaning
      obtain ⟨no_else, others⟩ := plain word meaning
      exact ⟨fun conditional => no_else (Option.some.inj conditional), others⟩
    rw [run_of_advance? taken, Machine.read_of_body rfl, placed,
      inductionHypothesis outer (ready.moves (.of_advance? taken)), List.append_assoc]
    rfl

/-! ## Files -/

/-- Outside all blocks the machine does to the file what reading statements does. -/
theorem ForestReads.run_eq {nodes : List Node} {last : Cursor}
    (reads : ForestReads source limit cursor nodes last) (ready : cursor.Ready 0)
    (root : List Node) :
    (cursor.machine .body [] root).run source limit cursor.ahead =
      last.machine .body [] (root ++ nodes) := by
  induction reads generalizing root with
  | ended nothing =>
    rw [nothing, List.append_nil]
    exact Machine.unwind_of_nothing_open rfl
  | nest taken found opens allowed inside further inductionHypothesis =>
    rename_i cursor after last token word kind nested rest
    rw [ready.depth] at allowed
    have opened : after.enter.Ready 1 := (ready.moves (.of_advance? taken)).enter
    have inner_ready := opened.moves (header_moves source kind .opening after.enter)
    rw [run_nested [] ready taken found opens allowed (inside.run_eq [] inner_ready)]
    refine (inductionHypothesis (inner_ready.moves inside.moves).leave _).trans ?_
    rw [List.append_assoc]
    rfl
  | flat taken found opens full further inductionHypothesis =>
    rename_i cursor after last token word kind rest
    rw [ready.depth] at full
    have noted := (ready.moves (.of_advance? taken)).note (.keptFlat limit word token.start)
    rw [run_of_advance? taken, read_full taken found opens full]
    refine (inductionHypothesis noted _).trans ?_
    rw [List.append_assoc]
    rfl
  | plain taken found further inductionHypothesis =>
    rename_i cursor after last token rest
    rw [run_of_advance? taken, Machine.read_of_body rfl,
      Machine.readBody_of_nothing_open rfl found, attach_of_advance? taken]
    refine (inductionHypothesis (ready.moves (.of_advance? taken)) _).trans ?_
    rw [List.append_assoc]
    rfl

/-- Recovering a list of tokens ends where the machine ends. -/
theorem run_start (source : Text) (limit : Nat) (tokens : List Token) :
    Machine.start.run source limit (significantTokens tokens) =
      (recover source limit tokens).2.machine .body [] (recover source limit tokens).1.children :=
  (forest_reads source limit (Cursor.ofTokens tokens)).run_eq (.ofTokens tokens) []

end

/-! ## Refinement -/

/--
The recovery builds the tree that the machine builds, and notes the same decisions: for every list
of tokens, whether or not it fits the source, and for every limit. The machine ends with no block
open.
-/
theorem recover_eq_machine_run (source : Text) (limit : Nat) (tokens : List Token) :
    let ended := Machine.start.run source limit (tokens.takeWhile (·.kind ≠ .endOfInput))
    (recover source limit tokens).1.children = ended.root ∧
      (recover source limit tokens).2.log = ended.log ∧ ended.stack = [] := by
  have same : Machine.start.run source limit (tokens.takeWhile (·.kind ≠ .endOfInput)) = _ :=
    run_start source limit tokens
  dsimp only
  rw [same]
  exact ⟨rfl, rfl, rfl⟩

end BrightBlocks.Block
