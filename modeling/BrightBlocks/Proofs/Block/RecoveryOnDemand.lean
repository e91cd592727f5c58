import BrightBlocks.Proofs.Block.Answers
import BrightBlocks.Proofs.Block.Conservation

/-!
# The recovery on demand has the answer of the recovery

Three steps for each token ahead and a few more are enough for a body (`OnDemand.body_answers`), and
so for blocks, statements and files. `OnDemand.recover_answers` says it of a whole stream.
-/

namespace BrightBlocks.Block

namespace OnDemand

open Intake

variable {source : Text} {limit : Nat}

/-- A block takes a step more than its header and its body. -/
theorem block_answers_of_body {kind : Kind} {intake : Intake} {steps : Nat}
    (enough : (intake.cursor.enter.take source).2.ahead.length < steps)
    (inner : ∀ next : Intake,
      next.cursor.ahead.length ≤ (intake.cursor.enter.take source).2.ahead.length →
        AnswersBody next (body source limit steps kind next)
          (Block.body source limit kind next.cursor)) :
    Answers intake (block source limit (steps + 1) kind intake)
      (Block.block source limit kind intake.cursor).1
      (Block.block source limit kind intake.cursor).2 := by
  have opened := intake.enter_keeps.trans (take_keeps _ source)
  rw [cursor_enter, cursor_take] at inner enough
  rw [block, Block.block, cursor_enter, cursor_take]
  refine .after_keeps opened ((header_answers enough).bind fun headed starts => ?_)
  dsimp only
  rw [← starts]
  have body_first := inner headed (by rw [starts]; exact header_ahead_le source kind .opening _)
  refine body_first.bind fun last stands => ?_
  exact .done (leave_keeps last) (congrArg Cursor.leave stands)

/-- A statement takes a step more than the block that it may open. -/
theorem statement_answers_of_body {word : Option String} {intake : Intake} {steps : Nat}
    (enough : (intake.cursor.enter.take source).2.ahead.length < steps)
    (inner : ∀ (kind : Kind) (next : Intake),
      next.cursor.ahead.length ≤ (intake.cursor.enter.take source).2.ahead.length →
        AnswersBody next (body source limit steps kind next)
          (Block.body source limit kind next.cursor)) :
    Answers intake (statement source limit (steps + 2) word intake)
      (Block.statement source limit word intake.cursor).1
      (Block.statement source limit word intake.cursor).2 := by
  rw [statement, Block.statement]
  cases word.bind Kind.ofOpener? with
  | none =>
    simp only [cursor_take]
    exact .done (intake.take_keeps source) rfl
  | some kind =>
    have depth : intake.cursor.depth = intake.depth := rfl
    dsimp only
    rw [depth]
    split
    · refine (block_answers_of_body enough (inner kind)).bind fun after stands => ?_
      exact .done (.refl after) stands
    · simp only [cursor_current, cursor_note, cursor_take]
      exact .done ((intake.current_keeps.trans (note_keeps _ _)).trans (take_keeps _ source)) rfl

/-- A statement that starts with the token after which fewer are ahead. -/
theorem statement_answers_of_next {word : Option String} {intake looked : Intake} {token : Token}
    {after : Cursor} {steps : Nat} (taken : intake.cursor.advance? source = some (token, after))
    (same : looked.cursor = intake.cursor.fill 1) (enough : after.ahead.length < steps)
    (inner : ∀ (kind : Kind) (next : Intake), next.cursor.ahead.length ≤ after.ahead.length →
      AnswersBody next (body source limit steps kind next)
        (Block.body source limit kind next.cursor)) :
    Answers looked (statement source limit (steps + 2) word looked)
      (Block.statement source limit word intake.cursor).1
      (Block.statement source limit word intake.cursor).2 := by
  have opened : (looked.cursor.enter.take source).2.ahead = after.ahead := by
    rw [same, Cursor.enter_fill, Cursor.take_fill, Cursor.take_enter_eq taken, Cursor.ahead_enter]
  rw [← statement_fill, ← same]
  refine statement_answers_of_body ?_ fun kind next inside => inner kind next ?_
  · rwa [opened]
  · rwa [opened] at inside

/-- A body goes on behind what it has read. -/
theorem answersBody_prepend {α : Type} {kind : Kind} {steps : Nat} {before : Intake} {value : α}
    {answer : Option (α × Intake)} {next : α × Intake → Option ((List Node × Bool) × Intake)}
    {front : List Node} {cursor : Cursor} (first : Answers before answer value cursor)
    (rest : ∀ after : Intake, after.cursor = cursor →
      AnswersBody after (body source limit steps kind after)
        (Block.body source limit kind after.cursor))
    (goes : ∀ after, next (value, after) = do
      let ((children, closed), last) ← body source limit steps kind after
      some ((front ++ children, closed), last)) :
    AnswersBody before (answer >>= next)
      ((Block.body source limit kind cursor).prepend front) := by
  refine first.bind fun after stands => ?_
  rw [goes, ← stands]
  refine (rest after stands).bind fun last ends => ?_
  exact .done (.refl last) ends

/--
Three steps for each token ahead are enough for a body, and one to see its end. The induction is on
the tokens ahead: every turn of the loop and every block inside starts with fewer.
-/
theorem body_answers {kind : Kind} {intake : Intake} {steps : Nat}
    (enough : 3 * intake.cursor.ahead.length < steps) :
    AnswersBody intake (body source limit steps kind intake)
      (Block.body source limit kind intake.cursor) := by
  induction size : intake.cursor.ahead.length using Nat.strongRecOn
    generalizing kind intake steps with
  | ind size inductionHypothesis =>
    subst size
    obtain ⟨steps, rfl⟩ := Nat.exists_eq_add_one_of_ne_zero (Nat.ne_zero_of_lt enough)
    rw [body, Block.body_eq]
    cases taken : intake.cursor.advance? source with
    | none =>
      obtain ⟨looked, found, same⟩ := next?_of_advance?_none taken
      rw [found]
      refine .done ((next?_keeps found).trans (note_keeps _ _)) ?_
      rw [← same]
      rfl
    | some pair =>
      obtain ⟨token, after⟩ := pair
      obtain ⟨looked, found, same, moved⟩ := next?_of_advance?_some taken
      have still : looked.cursor.ahead = intake.cursor.ahead := by rw [same, Cursor.ahead_fill]
      have ahead : intake.cursor.ahead.length = after.ahead.length + 1 := by
        rw [Cursor.ahead_of_advance? taken, List.length_cons]
      have more : intake.cursor.ahead ≠ [] := List.ne_nil_of_length_eq_add_one ahead
      have goes_on (kind : Kind) {fewer_steps : Nat} {cursor : Cursor}
          (fewer : cursor.ahead.length < intake.cursor.ahead.length)
          (enough : 3 * cursor.ahead.length < fewer_steps) (next : Intake)
          (stands : next.cursor = cursor) :
          AnswersBody next (body source limit fewer_steps kind next)
            (Block.body source limit kind next.cursor) := by
        subst stands
        exact inductionHypothesis _ fewer enough rfl
      have statement_first (word : Option String) :
          Answers looked (statement source limit steps word looked)
            (Block.statement source limit word intake.cursor).1
            (Block.statement source limit word intake.cursor).2 := by
        obtain ⟨fewer_steps, rfl⟩ : ∃ fewer, steps = fewer + 2 := ⟨steps - 2, by omega⟩
        exact statement_answers_of_next taken same (by omega) fun kind next inside =>
          goes_on kind (by omega) (by omega) next rfl
      have statement_shorter (word : Option String) :=
        @statement_ahead_lt source limit word intake.cursor more
      simp only [found, take_of_next? found, previous_of_next? found]
      refine .after_keeps (next?_keeps found) ?_
      cases turned : turn kind ((role source token).structural intake.cursor.previous) with
      | branch word =>
        have branched := @branch_answers source kind (some word) looked steps (by rw [still]; omega)
        rw [same, branch_fill] at branched
        have shorter := @branch_ahead_lt source kind (some word) _ _ _ taken
        exact answersBody_prepend branched (goes_on kind shorter (by omega)) fun _ => rfl
      | tryEnd =>
        have attempt := @cursor_closeWithEnd source kind looked
        rw [same, closeWithEnd_fill] at attempt
        simp only [attempt]
        exact .done (closeWithEnd_keeps kind looked) rfl
      | close =>
        have placed := looked.take_keeps source
        rw [take_of_next? found] at placed
        exact .done placed moved
      | defer word =>
        refine .done (note_keeps _ _) ?_
        rw [← same]
        rfl
      | nest word inner =>
        have shorter := statement_shorter ((role source token).structural intake.cursor.previous)
        exact answersBody_prepend (statement_first _) (goes_on kind shorter (by omega)) fun _ => rfl
      | plain =>
        have shorter := statement_shorter ((role source token).structural intake.cursor.previous)
        exact answersBody_prepend (statement_first _) (goes_on kind shorter (by omega)) fun _ => rfl

/-- Three steps for each token ahead and two more are enough for a block. -/
theorem block_answers {kind : Kind} {intake : Intake} {steps : Nat}
    (enough : 3 * intake.cursor.ahead.length + 2 ≤ steps) :
    Answers intake (block source limit steps kind intake)
      (Block.block source limit kind intake.cursor).1
      (Block.block source limit kind intake.cursor).2 := by
  have opened := (take_moves source intake.cursor.enter).ahead_le
  rw [Cursor.ahead_enter] at opened
  obtain ⟨steps, rfl⟩ : ∃ fewer, steps = fewer + 1 := ⟨steps - 1, by omega⟩
  exact block_answers_of_body (by omega) fun next inside => body_answers (by omega)

/-- Three steps for each token ahead and three more are enough for a statement. -/
theorem statement_answers {word : Option String} {intake : Intake} {steps : Nat}
    (enough : 3 * intake.cursor.ahead.length + 3 ≤ steps) :
    Answers intake (statement source limit steps word intake)
      (Block.statement source limit word intake.cursor).1
      (Block.statement source limit word intake.cursor).2 := by
  have opened := (take_moves source intake.cursor.enter).ahead_le
  rw [Cursor.ahead_enter] at opened
  obtain ⟨steps, rfl⟩ : ∃ fewer, steps = fewer + 2 := ⟨steps - 2, by omega⟩
  exact statement_answers_of_body (by omega) fun kind next inside => body_answers (by omega)

/-- Three steps for each token ahead and four more are enough for a file. -/
theorem forest_answers {intake : Intake} {steps : Nat}
    (enough : 3 * intake.cursor.ahead.length + 4 ≤ steps) :
    Answers intake (forest source limit steps intake) (Block.forest source limit intake.cursor).1
      (Block.forest source limit intake.cursor).2 := by
  induction steps generalizing intake with
  | zero => contradiction
  | succ steps inductionHypothesis =>
    rw [forest, Block.forest]
    cases taken : intake.cursor.advance? source with
    | none =>
      obtain ⟨looked, found, same⟩ := next?_of_advance?_none taken
      rw [found, dif_pos (Cursor.advance?_eq_none_iff.mp taken)]
      exact .done (next?_keeps found) same
    | some pair =>
      obtain ⟨token, after⟩ := pair
      obtain ⟨looked, found, same, _⟩ := next?_of_advance?_some taken
      have still : looked.cursor.ahead = intake.cursor.ahead := by rw [same, Cursor.ahead_fill]
      have more : intake.cursor.ahead ≠ [] := by
        rw [Cursor.ahead_of_advance? taken]
        exact List.cons_ne_nil _ _
      have located : intake.cursor.structuralWord source =
          ((role source token).structural looked.previous, looked.cursor) := by
        rw [Cursor.structuralWord, Cursor.current_eq taken, same, previous_of_next? found]
        rfl
      rw [found, dif_neg more, located]
      refine .after_keeps (next?_keeps found) ?_
      refine (statement_answers (by rw [still]; omega)).bind fun next stands => ?_
      have fewer : next.cursor.ahead.length < intake.cursor.ahead.length := by
        rw [stands, same, statement_fill]
        exact statement_ahead_lt more
      dsimp only
      rw [← stands]
      refine (inductionHypothesis (by omega)).bind fun last ends => ?_
      exact .done (.refl last) ends

/-- A stream read on demand is recovered as it is when its end is looked for first. -/
theorem recover_answers (source : Text) (limit : Nat) (tokens : List Token) :
    Answers (Intake.ofTokens tokens) (recover source limit tokens)
      (Block.recover source limit tokens).1 (Block.recover source limit tokens).2 := by
  have nothing := (recover_moves source limit tokens).2
  have ahead : (Cursor.ofTokens tokens).ahead.length ≤ tokens.length :=
    (List.takeWhile_prefix _).length_le
  have children := @forest_answers source limit (Intake.ofTokens tokens)
    (3 * tokens.length + 4) (by rw [cursor_ofTokens]; omega)
  rw [cursor_ofTokens] at children
  refine children.bind fun after stands => ?_
  have ended : after.cursor.ahead = [] := by
    rw [stands]
    exact nothing
  obtain ⟨empty, unread⟩ := List.append_eq_nil_iff.mp ended
  have still : after.current.2.cursor = after.cursor := by
    rw [cursor_current_snd, Cursor.fill_of_unread_eq_nil unread]
  have finish : after.current.1 = after.cursor.finish := by
    have current := congrArg Prod.fst after.cursor_current
    rw [← current, Cursor.current, Cursor.peek, Cursor.fill_of_unread_eq_nil unread, empty]
    rfl
  have length : Block.recover source limit tokens =
      (⟨(Block.forest source limit (Cursor.ofTokens tokens)).1, after.current.1.stop⟩,
        after.current.2.cursor) := by
    rw [finish, still, stands]
    rfl
  rw [length]
  exact .done after.current_keeps rfl

end OnDemand

end BrightBlocks.Block
