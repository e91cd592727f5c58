import BrightBlocks.Proofs.Block.Bookkeeping

/-!
# The recovery with its progress checked

`Checked` is the recovery with progress put to the test. It has no bound from the tokens ahead;
instead every turn of a loop and every call hands on one step less than it was given, and
fails without any. After each turn of a body and of a file it is checked that a token was
placed. `Checked.recover_eq` says that the checks never fail, and that three steps for each
token are enough.
-/

namespace BrightBlocks.Block

open Cursor (Moves)

/-- Fails when nothing has been placed since the cursor had placed `before` tokens. -/
def checkProgress (before : Nat) (place : Text) (cursor : Cursor) : Except NoProgress Unit :=
  if cursor.consumed = before then .error ⟨place, cursor.current.1⟩ else .ok ()

/-- More has been placed than before, which the check notices. -/
structure Advances (before after : Cursor) : Prop where
  consumed : before.consumed < after.consumed
  check : ∀ place, checkProgress before.consumed place after = .ok ()

/-- Why a checked recovery ends without a result. -/
inductive Halt
  | noProgress (fault : NoProgress)
  | outOfSteps
  deriving DecidableEq, Repr

/-- A movement that leaves fewer tokens ahead has placed one. -/
theorem Cursor.Moves.advances {source : Text} {before after : Cursor} {placed : List Token}
    (moves : Moves source before placed after) (fewer : after.ahead.length < before.ahead.length) :
    Advances before after := by
  have more : before.consumed < after.consumed := by
    rw [moves.ahead, List.length_append] at fewer
    rw [moves.consumed]
    omega
  exact ⟨more, fun place => if_neg (Nat.ne_of_gt more)⟩

theorem Cursor.Moves.consumed_le {source : Text} {before after : Cursor} {placed : List Token}
    (moves : Moves source before placed after) : before.consumed ≤ after.consumed :=
  moves.consumed ▸ Nat.le_add_right _ _

namespace Checked

/-- The check, as a part of a checked recovery. -/
def check (before : Nat) (place : Text) (cursor : Cursor) : Except Halt Unit :=
  (checkProgress before place cursor).mapError .noProgress

/-- Reads a header in at most so many steps. -/
def header (source : Text) (kind : Kind) (phase : Phase) : Nat → Cursor → Except Halt Header
  | 0, _ => .error .outOfSteps
  | steps + 1, cursor =>
    match cursor.advance? source with
    | none => .ok ⟨[], false, cursor⟩
    | some (token, after) =>
      let tokenRole := role source token
      if tokenRole = .lineBreak then .ok ⟨[token], false, after⟩
      else
        let word := tokenRole.structural cursor.previous
        if word = some "then" ∧ kind = .conditional then .ok (headerAtThen source phase token after)
        else
          match word.filter (· ∈ phase.boundaries kind) with
          | some boundary =>
            .ok ⟨[], false, (cursor.fill 1).note (.headerCutShort kind boundary token.start)⟩
          | none => do
            let rest ← header source kind phase steps after
            pure (rest.prepend [token])

/-- Reads the start of a branch, and a condition in at most so many steps. -/
def branch (source : Text) (kind : Kind) (steps : Nat) (word : Option String) (cursor : Cursor) :
    Except Halt Header := do
  let (opening, afterOpening) := cursor.take source
  if word = some "else" then
    let (next, looked) := afterOpening.nextOnLine source
    if role source next = .word "if" then
      let (gap, afterGap) := looked.takeGap source
      let (second, afterSecond) := afterGap.take source
      let rest ← header source kind .condition steps afterSecond
      pure (rest.prepend (opening ++ gap ++ second))
    else
      pure ⟨opening, false, looked⟩
  else
    let rest ← header source kind .condition steps afterOpening
    pure (rest.prepend opening)

mutual

/-- Reads a statement in at most so many steps. -/
def statement (source : Text) (limit : Nat) :
    Nat → Option String → Cursor → Except Halt (List Node × Cursor)
  | 0, _, _ => .error .outOfSteps
  | steps + 1, word, cursor =>
    match word.bind Kind.ofOpener? with
    | none =>
      let (leaves, after) := cursor.take source
      pure (leafNodes leaves, after)
    | some kind =>
      if cursor.depth < limit then do
        let (nested, after) ← block source limit steps kind cursor
        pure ([nested.node], after)
      else
        let (token, filled) := cursor.current
        let noted := filled.note (.keptFlat limit (word.getD "") token.start)
        let (leaves, after) := noted.take source
        pure (leafNodes leaves, after)

/-- Reads a block in at most so many steps. -/
def block (source : Text) (limit : Nat) : Nat → Kind → Cursor → Except Halt (Block × Cursor)
  | 0, _, _ => .error .outOfSteps
  | steps + 1, kind, cursor => do
    let (opener, after) := cursor.enter.take source
    let opening ← header source kind .opening steps after
    let inner ← body source limit steps kind opening.cursor
    pure (⟨kind, leafNodes (opener ++ opening.leaves) ++ inner.children, inner.closed,
      opening.singleLine⟩, inner.cursor.leave)

/-- Reads a body in at most so many steps. A turn after which it goes on is checked. -/
def body (source : Text) (limit : Nat) : Nat → Kind → Cursor → Except Halt Body
  | 0, _, _ => .error .outOfSteps
  | steps + 1, kind, cursor =>
    match cursor.advance? source with
    | none => pure ⟨[], false, cursor.note (.leftOpen kind)⟩
    | some (token, after) =>
      let word := (role source token).structural cursor.previous
      let place := kind.name.toList ++ " body".toList
      match turn kind word with
      | .branch word => do
        let start ← branch source kind steps (some word) cursor
        check cursor.consumed place start.cursor
        let rest ← body source limit steps kind start.cursor
        pure (rest.prepend (leafNodes start.leaves))
      | .tryEnd =>
        let attempt := closeWithEnd source kind cursor
        pure ⟨leafNodes (attempt.1.getD []), attempt.1.isSome, attempt.2⟩
      | .close => pure ⟨[.leaf token], true, after⟩
      | .defer word =>
        pure ⟨[], false, (cursor.fill 1).note (.deferredCloser kind word token.start)⟩
      | .nest _ _ | .plain => do
        let (nodes, next) ← statement source limit steps word cursor
        check cursor.consumed place next
        let rest ← body source limit steps kind next
        pure (rest.prepend nodes)

end

/-- Reads statements up to the end of the stream, in at most so many steps. -/
def forest (source : Text) (limit : Nat) : Nat → Cursor → Except Halt (List Node × Cursor)
  | 0, _ => .error .outOfSteps
  | steps + 1, cursor =>
    if cursor.ahead = [] then pure ([], cursor)
    else do
      let (word, located) := cursor.structuralWord source
      let (nodes, next) ← statement source limit steps word located
      check cursor.consumed "top level".toList next
      let (rest, last) ← forest source limit steps next
      pure (nodes ++ rest, last)

/-- Recovers the blocks of a list of tokens in at most so many steps. -/
def recover (source : Text) (limit steps : Nat) (tokens : List Token) :
    Except Halt (File × Cursor) := do
  let (children, last) ← forest source limit steps (Cursor.ofTokens tokens)
  pure (⟨children, last.finish.stop⟩, last)

section

variable {source : Text} {limit : Nat}

theorem check_eq_ok {before after : Cursor} (advances : Advances before after) (place : Text) :
    check before.consumed place after = .ok () := by
  rw [check, advances.check place]
  rfl

/-- A header takes a step for each of its tokens, and one to see its end. -/
theorem header_eq {kind : Kind} {phase : Phase} {cursor : Cursor} {steps : Nat}
    (enough : cursor.ahead.length < steps) :
    header source kind phase steps cursor = .ok (Block.header source kind phase cursor) := by
  induction steps generalizing cursor with
  | zero => contradiction
  | succ steps inductionHypothesis =>
    rw [header]
    fun_cases Block.header source kind phase cursor with
    | case1 stuck => rw [stuck]
    | case2 token after taken tokenRole broken =>
      simp only [taken]
      rw [if_pos broken]
    | case3 token after taken tokenRole unbroken word at_then =>
      simp only [taken]
      rw [if_neg unbroken, if_pos at_then]
    | case4 token after taken tokenRole unbroken word not_then boundary found =>
      simp only [taken]
      rw [if_neg unbroken, if_neg not_then, found]
    | case5 token after taken tokenRole unbroken word not_then outside rest =>
      rw [Cursor.ahead_of_advance? taken, List.length_cons, Nat.add_lt_add_iff_right] at enough
      simp only [taken]
      rw [if_neg unbroken, if_neg not_then, outside]
      simp only [inductionHypothesis enough]
      rfl

/-- The condition of a branch is a header. -/
theorem branch_eq {kind : Kind} {word : Option String} {cursor : Cursor} {steps : Nat}
    (enough : cursor.ahead.length < steps) :
    branch source kind steps word cursor = .ok (Block.branch source kind word cursor) := by
  have opening := take_moves source cursor
  have looked := opening.trans (nextOnLine_moves source (cursor.take source).2)
  have passed := (looked.trans (takeGap_moves source _)).trans (take_moves source _)
  unfold branch Block.branch
  dsimp only
  split
  · split
    · rw [header_eq (Nat.lt_of_le_of_lt passed.ahead_le enough)]
      rfl
    · rfl
  · rw [header_eq (Nat.lt_of_le_of_lt opening.ahead_le enough)]
    rfl

/-- A block takes a step more than its header and its body, which have fewer tokens ahead. -/
theorem block_eq_of_bodies {kind : Kind} {cursor : Cursor} {steps : Nat}
    (more : cursor.ahead ≠ []) (enough : 3 * cursor.ahead.length ≤ steps + 1)
    (bodies : ∀ {kind : Kind} {next : Cursor} {steps : Nat},
      next.ahead.length < cursor.ahead.length → 3 * next.ahead.length < steps →
        body source limit steps kind next = .ok (Block.body source limit kind next)) :
    block source limit steps kind cursor = .ok (Block.block source limit kind cursor) := by
  cases taken : cursor.advance? source with
  | none => exact absurd (Cursor.advance?_eq_none_iff.mp taken) more
  | some pair =>
    obtain ⟨token, after⟩ := pair
    have ahead : cursor.ahead.length = after.enter.ahead.length + 1 := by
      rw [Cursor.ahead_of_advance? taken, List.length_cons, Cursor.ahead_enter]
    have headed := (header_moves source kind .opening after.enter).ahead_le
    obtain ⟨steps, rfl⟩ : ∃ fewer, steps = fewer + 1 := ⟨steps - 1, by omega⟩
    have opening : header source kind .opening steps after.enter =
        .ok (Block.header source kind .opening after.enter) := header_eq (by omega)
    have inner := @bodies kind (Block.header source kind .opening after.enter).cursor steps
      (by omega) (by omega)
    rw [block, Block.block, Cursor.take_enter_eq taken]
    simp only [opening, inner, bind, Except.bind, pure, Except.pure]

/-- A statement takes a step more than the block that it may open. -/
theorem statement_eq_of_bodies {word : Option String} {cursor : Cursor} {steps : Nat}
    (more : cursor.ahead ≠ []) (enough : 3 * cursor.ahead.length ≤ steps)
    (bodies : ∀ {kind : Kind} {next : Cursor} {steps : Nat},
      next.ahead.length < cursor.ahead.length → 3 * next.ahead.length < steps →
        body source limit steps kind next = .ok (Block.body source limit kind next)) :
    statement source limit steps word cursor = .ok (Block.statement source limit word cursor) := by
  have some_ahead := List.length_pos_iff.mpr more
  obtain ⟨steps, rfl⟩ : ∃ fewer, steps = fewer + 1 := ⟨steps - 1, by omega⟩
  unfold statement Block.statement
  cases opens : word.bind Kind.ofOpener? with
  | none => rfl
  | some kind =>
    dsimp only
    split
    · rw [block_eq_of_bodies more enough bodies]
      rfl
    · rfl

/--
Three steps for each token ahead are enough for a body, and one to see its end: a turn of its
loop, the statement that it reads and the block that this opens, which then has fewer tokens
ahead.
-/
theorem body_eq {kind : Kind} {cursor : Cursor} {steps : Nat}
    (enough : 3 * cursor.ahead.length < steps) :
    body source limit steps kind cursor = .ok (Block.body source limit kind cursor) := by
  induction size : cursor.ahead.length using Nat.strongRecOn generalizing kind cursor steps with
  | ind size inductionHypothesis =>
    subst size
    have bodies {kind : Kind} {next : Cursor} {steps : Nat}
        (fewer : next.ahead.length < cursor.ahead.length) (enough : 3 * next.ahead.length < steps) :
        body source limit steps kind next = .ok (Block.body source limit kind next) :=
      inductionHypothesis _ fewer enough rfl
    obtain ⟨steps, rfl⟩ := Nat.exists_eq_add_one_of_ne_zero (Nat.ne_zero_of_lt enough)
    rw [body, Block.body_eq]
    cases taken : cursor.advance? source with
    | none => rfl
    | some pair =>
      obtain ⟨token, after⟩ := pair
      have more : cursor.ahead ≠ [] := by
        rw [Cursor.ahead_of_advance? taken]
        exact List.cons_ne_nil _ _
      have statement_first (word : Option String) (place : Text) :
          (do
            let (nodes, next) ← statement source limit steps word cursor
            check cursor.consumed place next
            let rest ← body source limit steps kind next
            pure (rest.prepend nodes)) =
          .ok ((Block.body source limit kind (Block.statement source limit word cursor).2).prepend
            (Block.statement source limit word cursor).1) := by
        have fewer := @statement_ahead_lt source limit word cursor more
        have advances := (moves_of_statement source limit word cursor).advances fewer
        have rest := @bodies kind _ steps fewer (by omega)
        rw [statement_eq_of_bodies more (by omega) bodies]
        simp only [bind, Except.bind, check_eq_ok advances place, rest, pure, Except.pure]
      dsimp only
      cases found : turn kind ((role source token).structural cursor.previous) with
      | tryEnd | close | defer => rfl
      | branch word =>
        have fewer := @branch_ahead_lt source kind (some word) cursor after token taken
        have advances := (branch_moves source kind (some word) cursor).advances fewer
        simp only [branch_eq (show cursor.ahead.length < steps by omega), bind, Except.bind,
          check_eq_ok advances, bodies fewer (show _ < steps by omega), pure, Except.pure]
      | nest word inner => exact statement_first _ _
      | plain => exact statement_first _ _

/-- Three steps for each token ahead are enough for a file, and one to see its end. -/
theorem forest_eq {cursor : Cursor} {steps : Nat} (enough : 3 * cursor.ahead.length < steps) :
    forest source limit steps cursor = .ok (Block.forest source limit cursor) := by
  induction steps generalizing cursor with
  | zero => contradiction
  | succ steps inductionHypothesis =>
    rw [forest, Block.forest]
    split
    · rfl
    · rename_i more
      have same : (cursor.structuralWord source).2.ahead = cursor.ahead := cursor.ahead_fill 1
      have count : (cursor.structuralWord source).2.consumed = cursor.consumed := rfl
      generalize cursor.structuralWord source = located at same count ⊢
      obtain ⟨word, looked⟩ := located
      have more' : looked.ahead ≠ [] := same ▸ more
      have fewer := @statement_ahead_lt source limit word looked more'
      have advances := (moves_of_statement source limit word looked).advances fewer
      rw [same] at fewer
      have first : statement source limit steps word looked =
          .ok (Block.statement source limit word looked) :=
        statement_eq_of_bodies more' (by rw [same]; omega) fun _ enough => body_eq enough
      have rest := @inductionHypothesis (Block.statement source limit word looked).2 (by omega)
      simp only [first, bind, Except.bind, ← count, check_eq_ok advances, rest, pure, Except.pure]

/-- The checked recovery of a list of tokens is the recovery. -/
theorem recover_eq {tokens : List Token} {steps : Nat}
    (enough : 3 * (significantTokens tokens).length < steps) :
    recover source limit steps tokens = .ok (Block.recover source limit tokens) := by
  have all : forest source limit steps (Cursor.ofTokens tokens) =
      .ok (Block.forest source limit (Cursor.ofTokens tokens)) := forest_eq enough
  rw [recover, all]
  rfl

end

end Checked

end BrightBlocks.Block
