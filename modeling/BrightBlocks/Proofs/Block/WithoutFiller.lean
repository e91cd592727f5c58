import BrightBlocks.Proofs.Block.Filler

/-!
# Runs without filler

A machine that reads only what `condense` leaves builds the same tree as far as filler is not seen
(`Machine.Beside.run`). The two machines run beside each other: filler moves one of them, and every
other token moves both.
-/

namespace BrightBlocks.Block

variable {source : Text}

namespace Machine

variable {limit : Nat} {machine : Machine} {token : Token} {next : List Token}

namespace Alike

variable {α : Type} {view : Token → Option α} {lead : List (Shape α)} {left right : Machine}

/-- A token that is not seen and passes no word on may be placed on one side only. -/
theorem append_left (alike : Alike view view lead left right) (unseen : view token = none)
    (keeps : (role source token).follow left.previous = left.previous) :
    Alike view view lead (left.append source token) right := by
  have placed : Alike view view lead (left.attach [.leaf token]) (right.attach []) :=
    alike.attach (by simp [Forest.shape, Node.shape, unseen])
  rw [attach_nil] at placed
  exact ⟨placed.stage, placed.stack, placed.root, keeps.trans alike.previous⟩

end Alike

/--
A machine that reads `tokens`, beside one that reads what is left of them without filler. Where
`fresh` holds, the first one stands behind a line break.
-/
structure Beside (view : Token → Option α) (source : Text) (fresh : Bool) (tokens : List Token)
    (left right : Machine) : Prop where
  alike : Alike view view [] left right
  anchored : left.Anchored
  served : left.Served source tokens
  starts : fresh = true → left.stage = .body ∧ left.previous = none

namespace Beside

variable {fresh : Bool} {rest : List Token}

/-- Filler that is no gap never comes where a word is waited for. -/
theorem idle (beside : Beside view source fresh (token :: rest) left right)
    (filler : (role source token).isFiller = true) (solid : role source token ≠ .gap) :
    ¬ left.Waiting := by
  intro waiting
  obtain ⟨small, found⟩ := beside.served waiting
  have here : roleOnLine source (token :: rest) = role source token := by
    simp [roleOnLine, solid]
  rw [← here, found] at filler
  contradiction

/-- A gap or a comment leaves the machine where it stands, so that the other one may do without. -/
theorem passing (beside : Beside view source fresh (token :: rest) left right)
    (order : InOrder source (token :: rest)) (unseen : view token = none)
    (passes : role source token = .gap ∨ role source token = .comment) :
    Beside view source fresh rest (left.read source limit token (rest.take 2)) right := by
  have keeps : (role source token).follow left.previous = left.previous := by
    rcases passes with gap | comment
    · rw [gap]; rfl
    · rw [comment]; rfl
  have stays : left.read source limit token (rest.take 2) = left.append source token := by
    rcases passes with gap | comment
    · exact read_of_gap gap
    · exact read_of_comment comment
        (beside.idle (Role.isFiller_of_passing (.inr comment)) (by simp [comment]))
  have anchored : (left.read source limit token (rest.take 2)).Anchored :=
    beside.anchored.read token _
  rw [stays] at anchored ⊢
  have stage : (left.append source token).stage = left.stage := stage_append left source token
  refine ⟨beside.alike.append_left unseen keeps, anchored, ?_, ?_⟩
  · intro waiting
    rw [Waiting, stage] at waiting
    obtain ⟨small, found⟩ := beside.served waiting
    rcases passes with gap | comment
    · have touches := (List.isChain_cons.mp order).1
      rw [roleOnLine_gap gap fun second member => ((touches second member).blank (.inl gap)).1]
        at found
      exact ⟨small, found⟩
    · simp [roleOnLine, comment] at found
  · intro holds
    rw [stage, previous_append, keeps]
    exact beside.starts holds

/-- Behind a line break the machine stands in a body, at the start of a line. -/
theorem lineBreak_starts (beside : Beside view source fresh (token :: rest) left right)
    (limit : Nat) (breaks : role source token = .lineBreak) :
    (left.read source limit token (rest.take 2)).stage = .body ∧
      (left.read source limit token (rest.take 2)).previous = none := by
  have idle := beside.idle (Role.isFiller_of_lineBreak breaks) (by simp [breaks])
  rw [previous_read, breaks, read_of_lineBreak breaks idle]
  exact ⟨rfl, rfl⟩

/-- Behind a line break the machine may do without a further one. -/
theorem lineBreak_again (beside : Beside view source true (token :: rest) left right)
    (breaks : role source token = .lineBreak) (unseen : view token = none) :
    Beside view source true rest (left.read source limit token (rest.take 2)) right := by
  have idle := beside.idle (Role.isFiller_of_lineBreak breaks) (by simp [breaks])
  have starts := beside.lineBreak_starts limit breaks
  obtain ⟨stands, nothing⟩ := beside.starts rfl
  refine ⟨?_, beside.anchored.read token _, .of_idle (not_waiting_of_body starts.1),
    fun _ => starts⟩
  rw [read_of_lineBreak breaks idle, setStage_append stands]
  exact beside.alike.append_left unseen (by rw [breaks, nothing]; rfl)

theorem lineBreak (beside : Beside view source fresh (token :: rest) left right)
    (breaks : role source token = .lineBreak) (next : List Token) :
    Beside view source true rest (left.read source limit token (rest.take 2))
      (right.read source limit token next) := by
  have starts := beside.lineBreak_starts limit breaks
  refine ⟨beside.alike.read ⟨⟨rfl, rfl⟩, ?_⟩, beside.anchored.read token _,
    .of_idle (not_waiting_of_body starts.1), fun _ => starts⟩
  intro small spelled
  rw [breaks] at spelled
  contradiction

/-- Both machines read what is no filler, and find the same on the line. -/
theorem solid (beside : Beside view source fresh (token :: rest) left right)
    (order : InOrder source rest) (solid : (role source token).isFiller = false) :
    Beside view source false rest (left.read source limit token (rest.take 2))
      (right.read source limit token ((condense (role source) false rest).take 2)) := by
  have no_gap : role source token ≠ .gap := by
    intro gap
    rw [gap] at solid
    contradiction
  have ahead := sameAhead_condense order
  have served : (left.read source limit token (rest.take 2)).Served source (rest.take 2) :=
    served_read beside.anchored no_gap _
  refine ⟨beside.alike.read ⟨⟨rfl, rfl⟩, fun _ _ => ⟨?_, ?_⟩⟩, beside.anchored.read token _, ?_,
    nofun⟩
  · simpa using ahead.word
  · simpa using ahead.code
  · simpa only [Served, roleOnLine_take] using served

/-- Over the tokens of a source, a machine does as one that reads what is left without filler. -/
theorem run {tokens : List Token} (beside : Beside view source fresh tokens left right)
    (order : InOrder source tokens)
    (unseen : ∀ token, (role source token).isFiller = true → view token = none) :
    Alike view view [] (left.run source limit tokens)
      (right.run source limit (condense (role source) fresh tokens)) := by
  induction tokens generalizing left right fresh with
  | nil => exact beside.alike.unwind _ _ _
  | cons token rest inductionHypothesis =>
    obtain passes | breaks | solid := (role source token).filler_cases
    · rw [condense_of_passing passes]
      have hidden : view token = none := unseen token (Role.isFiller_of_passing passes)
      exact inductionHypothesis (beside.passing order hidden passes) order.tail
    · rw [condense_of_lineBreak breaks]
      cases fresh with
      | false => exact inductionHypothesis (beside.lineBreak breaks _) order.tail
      | true =>
        have hidden : view token = none := unseen token (Role.isFiller_of_lineBreak breaks)
        exact inductionHypothesis (beside.lineBreak_again breaks hidden) order.tail
    · rw [condense_of_solid solid]
      exact inductionHypothesis (beside.solid order.tail solid) order.tail

end Beside

end Machine

end BrightBlocks.Block
