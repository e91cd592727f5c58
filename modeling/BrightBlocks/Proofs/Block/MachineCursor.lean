import BrightBlocks.Proofs.Block.Lookahead

/-!
# Machines and cursors

The machine that has placed what a cursor has placed (`Cursor.machine`). Where the cursor takes a
token the machine reads it, and tokens that the cursor moves over are placed in a row.
-/

namespace BrightBlocks.Block

open Cursor (Moves)

namespace Machine

variable {source : Text} {limit : Nat}

/-! ## Placing tokens in a row -/

/-- Places tokens in the innermost open block, or in the file. -/
def appendAll (machine : Machine) (source : Text) (tokens : List Token) : Machine :=
  { machine.attach (leafNodes tokens) with previous := trail source machine.previous tokens }

@[simp]
theorem attach_nil (machine : Machine) : machine.attach [] = machine := by
  obtain ⟨stage, stack, root, previous, log⟩ := machine
  cases stack <;> simp [attach]

@[simp]
theorem attach_attach (machine : Machine) (front back : List Node) :
    (machine.attach front).attach back = machine.attach (front ++ back) := by
  obtain ⟨stage, stack, root, previous, log⟩ := machine
  cases stack <;> simp [attach]

@[simp]
theorem appendAll_nil (machine : Machine) (source : Text) :
    machine.appendAll source [] = machine := by
  simp [appendAll, leafNodes]

/-- Tokens are placed one after the other. -/
theorem appendAll_cons (machine : Machine) (source : Text) (token : Token) (rest : List Token) :
    machine.appendAll source (token :: rest) =
      (machine.append source token).appendAll source rest := by
  obtain ⟨stage, stack, root, previous, log⟩ := machine
  cases stack <;> simp [appendAll, append, attach, leafNodes]

@[simp]
theorem stage_append (machine : Machine) (source : Text) (token : Token) :
    (machine.append source token).stage = machine.stage :=
  stage_attach machine _

@[simp]
theorem kind?_append (machine : Machine) (source : Text) (token : Token) :
    (machine.append source token).kind? = machine.kind? :=
  kind?_attach machine _

/-- A gap and a word complete a terminator. -/
theorem run_closing {gap : List Token} {last : Token} (machine : Machine)
    (closing : machine.stage = .closing)
    (blank : ∀ token ∈ gap, role source token = .gap) (word : role source last ≠ .gap)
    (rest : List Token) :
    machine.run source limit (gap ++ last :: rest) =
      ((machine.appendAll source (gap ++ [last])).leave true).run source limit rest := by
  induction gap generalizing machine with
  | nil =>
    simp only [List.nil_append, run, read, closing, if_neg word, appendAll_cons, appendAll_nil]
  | cons token gap inductionHypothesis =>
    have skipped := inductionHypothesis (machine.append source token) (by simpa using closing)
      fun other member => blank other (List.mem_cons_of_mem _ member)
    simp only [List.cons_append, run, read, closing, if_pos (blank token List.mem_cons_self),
      appendAll_cons, skipped]

/-- A gap and a word lead from an `else` to a condition. -/
theorem run_elseIf {gap : List Token} {last : Token} (machine : Machine)
    (waiting : machine.stage = .elseIf)
    (blank : ∀ token ∈ gap, role source token = .gap) (word : role source last ≠ .gap)
    (rest : List Token) :
    machine.run source limit (gap ++ last :: rest) =
      run source limit
        { machine.appendAll source (gap ++ [last]) with stage := .front .condition } rest := by
  induction gap generalizing machine with
  | nil =>
    simp only [List.nil_append, run, read, waiting, if_neg word, appendAll_cons, appendAll_nil]
  | cons token gap inductionHypothesis =>
    have kept : { machine.append source token with stage := .elseIf } =
        machine.append source token := by
      rw [← waiting, ← stage_append machine source token]
    have skipped := inductionHypothesis (machine.append source token) (by simpa using waiting)
      fun other member => blank other (List.mem_cons_of_mem _ member)
    simp only [List.cons_append, run, read, waiting, if_pos (blank token List.mem_cons_self),
      appendAll_cons, kept, skipped]

end Machine

/-! ## Machines and cursors -/

/-- The machine that has placed what a cursor has placed. -/
def Cursor.machine (cursor : Cursor) (stage : Stage) (stack : List Frame) (root : List Node) :
    Machine :=
  ⟨stage, stack, root, cursor.previous, cursor.log⟩

section

variable {source : Text} {limit : Nat} {cursor after : Cursor} {token : Token}
  {kind : Kind} {children root : List Node} {singleLine : Bool} {outer : List Frame}

/-- The machine reads the token that the cursor takes. -/
theorem run_of_advance? (taken : cursor.advance? source = some (token, after)) (machine : Machine) :
    machine.run source limit cursor.ahead =
      (machine.read source limit token (after.ahead.take 2)).run source limit after.ahead := by
  rw [Cursor.ahead_of_advance? taken]
  rfl

/-- What moves a cursor without a notice appends to the machine. -/
theorem Cursor.Moves.appendAll {placed : List Token} (moves : Moves source cursor placed after)
    (quiet : after.log = cursor.log) (stage : Stage) :
    (cursor.machine stage (⟨kind, children, singleLine⟩ :: outer) root).appendAll source placed =
      after.machine stage (⟨kind, children ++ leafNodes placed, singleLine⟩ :: outer) root := by
  simp only [Cursor.machine, moves.previous, quiet]
  rfl

/-- A cursor that stands still without a notice stands for the same machine. -/
theorem machine_eq (moves : Moves source cursor [] after) (quiet : after.log = cursor.log) :
    cursor.machine = after.machine := by
  funext stage stack root
  simp only [Cursor.machine, moves.previous, quiet, trail_nil]

/-- A cursor that stands still with a notice stands for a machine that notes it down. -/
theorem machine_note {notice : Notice} (moves : Moves source cursor [] after)
    (noted : after.log = cursor.log ++ [notice]) (stage : Stage) (stack : List Frame) :
    after.machine stage stack root = (cursor.machine stage stack root).note notice := by
  simp only [Cursor.machine, moves.previous, noted, trail_nil]
  rfl

/-- Placing a token is taking it and attaching its leaf. -/
theorem attach_of_advance? (taken : cursor.advance? source = some (token, after)) (stage : Stage)
    (stack : List Frame) :
    (cursor.machine stage stack root).append source token =
      (after.machine stage stack root).attach [.leaf token] := by
  have previous := (Moves.of_advance? taken).previous
  have quiet := Cursor.log_of_advance? taken
  cases stack <;> simp [Cursor.machine, Machine.append, Machine.attach, previous, quiet]

theorem append_of_advance? (taken : cursor.advance? source = some (token, after)) (stage : Stage) :
    (cursor.machine stage (⟨kind, children, singleLine⟩ :: outer) root).append source token =
      after.machine stage (⟨kind, children ++ [.leaf token], singleLine⟩ :: outer) root :=
  attach_of_advance? taken stage _

/-- At the end of the stream the machine leaves an open block in any stage. -/
theorem run_of_stuck (stuck : cursor.advance? source = none) (stage : Stage) :
    (cursor.machine stage (⟨kind, children, singleLine⟩ :: outer) root).run source limit
        cursor.ahead =
      (((cursor.note (.leftOpen kind)).machine .body
        (⟨kind, children, singleLine⟩ :: outer) root).leave false).run source limit
        cursor.ahead := by
  have opened : (cursor.machine stage (⟨kind, children, singleLine⟩ :: outer) root).stack =
      ⟨kind, children, singleLine⟩ :: outer := rfl
  rw [Cursor.advance?_eq_none_iff.mp stuck]
  exact Machine.unwind_of_not_closes opened (by simp)

end

end BrightBlocks.Block
