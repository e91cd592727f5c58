import BrightBlocks.Proofs.Block.Likeness
import BrightBlocks.Proofs.Block.Neighbours

/-!
# Tokens that the machine does without

White space and comments are filler: they are placed, but gaps and comments leave
the machine where it stands, and so does a line break right behind another one.
`condense` leaves all of them out.

Leaving them out needs tokens in the order of a source. There a word with a comment behind it
has a line break behind the comment, so that what is looked for on the line is not
found, with or without the comment (`sameAhead_condense`). In any other list a
comment may hide the word after it.
-/

namespace BrightBlocks.Block

/-- Whether tokens of the role are white space or comments. -/
def Role.isFiller : Role → Bool
  | gap | lineBreak | comment => true
  | _ => false

namespace Role

/-- A role is that of filler of one of three kinds, or of none. -/
theorem filler_cases (role : Role) :
    (role = .gap ∨ role = .comment) ∨ role = .lineBreak ∨ role.isFiller = false := by
  cases role <;> simp [isFiller]

theorem isFiller_of_passing {role : Role} (passing : role = .gap ∨ role = .comment) :
    role.isFiller = true := by
  rcases passing with rfl | rfl <;> rfl

theorem isFiller_of_lineBreak {role : Role} (breaks : role = .lineBreak) :
    role.isFiller = true := by
  rw [breaks]
  rfl

/-- Filler contributes no word. -/
theorem structural_of_filler {role : Role} (filler : role.isFiller = true)
    (previous : Option String) : role.structural previous = none := by
  cases role <;> simp [isFiller, structural, word?] at filler ⊢

end Role

/--
What is left without filler, but with the first line break of every stretch of it. Behind a line
break, where `fresh` holds, no further one is needed.
-/
def condense {β : Type} (meaning : β → Role) : Bool → List β → List β
  | _, [] => []
  | fresh, item :: rest =>
    match meaning item with
    | .gap | .comment => condense meaning fresh rest
    | .lineBreak =>
      if fresh then condense meaning true rest else item :: condense meaning true rest
    | _ => item :: condense meaning false rest

section

variable {β γ : Type} {meaning : β → Role} {item : β}

theorem condense_of_passing (passing : meaning item = .gap ∨ meaning item = .comment)
    (fresh : Bool) (rest : List β) :
    condense meaning fresh (item :: rest) = condense meaning fresh rest := by
  rcases passing with gap | comment
  · simp only [condense, gap]
  · simp only [condense, comment]

theorem condense_of_lineBreak (breaks : meaning item = .lineBreak) (fresh : Bool)
    (rest : List β) :
    condense meaning fresh (item :: rest) =
      if fresh then condense meaning true rest else item :: condense meaning true rest := by
  simp only [condense, breaks]

theorem condense_of_solid (solid : (meaning item).isFiller = false) (fresh : Bool)
    (rest : List β) :
    condense meaning fresh (item :: rest) = item :: condense meaning false rest := by
  cases found : meaning item <;> simp only [found, Role.isFiller, Bool.true_eq_false] at solid <;>
    simp only [condense, found]

/-- What is left of items that are looked at in another way is what is left of them, looked at. -/
theorem map_condense (meaning : γ → Role) (look : β → γ) (fresh : Bool) (items : List β) :
    (condense (fun item => meaning (look item)) fresh items).map look =
      condense meaning fresh (items.map look) := by
  induction items generalizing fresh with
  | nil => rfl
  | cons item rest inductionHypothesis =>
    cases found : meaning (look item) with
    | lineBreak => cases fresh <;> simp [condense, found, inductionHypothesis]
    | _ => simp [condense, found, inductionHypothesis]

end

variable {source : Text}

/-! ## Looking ahead -/

/-- Where no code follows on the line, no word is found on it either. -/
theorem SameAhead.of_no_code {next next' : List Token} (none_left : codeOnLine source next = false)
    (none_right : codeOnLine source next' = false) : SameAhead source source next next' := by
  have wordless {tokens : List Token} (no_code : codeOnLine source tokens = false)
      (small : String) : roleOnLine source tokens ≠ .word small := by
    intro found
    simp [codeOnLine, found] at no_code
  exact ⟨fun small => iff_of_false (wordless none_left small) (wordless none_right small),
    none_left.trans none_right.symm⟩

/-- Behind a gap the tokens of a source do not go on with a gap. -/
theorem roleOnLine_gap {gap : Token} {rest : List Token} (blank : role source gap = .gap)
    (solid : ∀ second ∈ rest.head?, role source second ≠ .gap) :
    roleOnLine source (gap :: rest) = roleOnLine source rest := by
  cases rest with
  | nil => simp [roleOnLine, blank]
  | cons second others => simp [roleOnLine, blank, solid second rfl]

/-- What is looked for on the line is found with filler and without it. -/
theorem sameAhead_condense {tokens : List Token} (order : InOrder source tokens) :
    SameAhead source source tokens (condense (role source) false tokens) := by
  induction tokens with
  | nil => exact .of_role rfl
  | cons token rest inductionHypothesis =>
    have further := inductionHypothesis order.tail
    have touches : ∀ second ∈ rest.head?, (role source token).Adjoins (role source second) :=
      (List.isChain_cons.mp order).1
    obtain (gap | comment) | breaks | solid := (role source token).filler_cases
    · have found : roleOnLine source (token :: rest) = roleOnLine source rest :=
        roleOnLine_gap gap fun second member => ((touches second member).blank (.inl gap)).1
      rw [condense_of_passing (.inl gap)]
      exact (SameAhead.of_role found).trans further
    · -- the comment takes up its line, so that nothing or a line break is left behind it
      rw [condense_of_passing (.inr comment)]
      refine .of_no_code (by simp [codeOnLine, roleOnLine, comment]) ?_
      cases rest with
      | nil => rfl
      | cons second others =>
        have breaks := (touches second rfl).comment comment
        rw [condense_of_lineBreak breaks]
        simp [codeOnLine, roleOnLine, breaks]
    · rw [condense_of_lineBreak breaks]
      exact .of_role (by simp [roleOnLine, breaks])
    · have no_gap : role source token ≠ .gap := by
        intro gap
        rw [gap] at solid
        contradiction
      rw [condense_of_solid solid]
      exact .of_role (by simp [roleOnLine, no_gap])

namespace Machine

variable {limit : Nat} {machine : Machine} {token : Token} {next : List Token}

/-! ## Waiting for a word -/

/-- A machine that waits for the next word of the line, behind an `else` or an `end`. -/
def Waiting (machine : Machine) : Prop :=
  machine.stage = .elseIf ∨ machine.stage = .closing

/-- The next word of the line is ahead of a machine that waits for it. -/
def Served (source : Text) (machine : Machine) (next : List Token) : Prop :=
  machine.Waiting → ∃ small, roleOnLine source next = .word small

theorem not_waiting_of_body (stands : machine.stage = .body) : ¬ machine.Waiting := by
  simp [Waiting, stands]

theorem not_waiting_of_front {phase : Phase} (stands : machine.stage = .front phase) :
    ¬ machine.Waiting := by
  simp [Waiting, stands]

theorem Served.of_idle (idle : ¬ machine.Waiting) : machine.Served source next :=
  fun waiting => absurd waiting idle

/-- A machine that waits for nothing stands in a header, in a condition or in a body. -/
theorem stage_of_idle (idle : ¬ machine.Waiting) :
    (∃ phase, machine.stage = .front phase) ∨ machine.stage = .body := by
  cases stands : machine.stage with
  | front phase => exact .inl ⟨phase, rfl⟩
  | elseIf => exact absurd (.inl stands) idle
  | closing => exact absurd (.inr stands) idle
  | body => exact .inr rfl

theorem stage_leave_of_body (stands : machine.stage = .body) (closed : Bool) :
    (machine.leave closed).stage = .body := by
  cases opened : machine.stack with
  | nil => simpa [leave, opened] using stands
  | cons frame outer => exact stage_leave opened closed

theorem BodyStep.served {after : Machine} (step : BodyStep source limit machine token next after)
    (stands : machine.stage = .body) : after.Served source next := by
  have placed (closes : Kind → Bool) (notice : Kind → Notice) :
      ((machine.unwind closes notice).append source token).stage = .body :=
    (stage_append _ source token).trans (stage_unwind stands closes notice)
  cases step with
  | plain => exact .of_idle (not_waiting_of_body ((stage_append machine source token).trans stands))
  | branch conditional =>
    -- an `else` waits only for an `if` that was found
    intro waiting
    rcases waiting with waits | closing
    · refine ⟨"if", ?_⟩
      by_contra missing
      simp only [stageOfElse, if_neg missing] at waits
      split at waits <;> contradiction
    · simp only [stageOfElse] at closing
      repeat' split at closing
      all_goals contradiction
  | strayEnd => exact .of_idle (not_waiting_of_body (placed _ _))
  | ownEnd opened found => exact fun _ => ⟨_, found⟩
  | closer => exact .of_idle (not_waiting_of_body (stage_leave_of_body (placed _ _) true))
  | opener => exact .of_idle (not_waiting_of_front (stage_append _ source token))
  | flat => exact .of_idle (not_waiting_of_body ((stage_append _ source token).trans stands))

theorem FrontStep.served {after : Machine} {phase : Phase}
    (step : FrontStep source limit phase machine token next after)
    (stands : machine.stage = .front phase) : after.Served source next := by
  cases step with
  | plain =>
    exact .of_idle (not_waiting_of_front ((stage_append machine source token).trans stands))
  | lineBreak | atThen => exact .of_idle (not_waiting_of_body rfl)
  | cutShort => exact (bodyStep_readBody _ token next).served rfl

/-- Behind a token that is no gap a machine waits only for a word that is there. -/
theorem served_read (anchored : machine.Anchored) (solid : role source token ≠ .gap)
    (next : List Token) : (machine.read source limit token next).Served source next := by
  unfold read
  split
  · rename_i phase front
    exact (frontStep_readFront machine phase token next).served front
  · rw [if_neg solid]
    exact .of_idle (not_waiting_of_front rfl)
  · rename_i closing
    have opened : (machine.append source token).stack ≠ [] := by
      rw [Ne, stack_append_eq_nil]
      exact anchored (by simp [closing])
    obtain ⟨frame, outer, split⟩ := List.exists_cons_of_ne_nil opened
    rw [if_neg solid]
    exact .of_idle (not_waiting_of_body (stage_leave split true))
  · rename_i stands
    exact (bodyStep_readBody machine token next).served stands

/-! ## Reading filler -/

/-- In a header or a condition, filler within the line is placed. -/
theorem readFront_of_filler {phase : Phase} (filler : (role source token).isFiller = true)
    (unbroken : role source token ≠ .lineBreak) :
    machine.readFront source limit phase token next = machine.append source token := by
  have no_word := Role.structural_of_filler filler machine.previous
  simp [readFront, no_word, unbroken]

/-- In a body, filler is placed. -/
theorem readBody_of_filler (filler : (role source token).isFiller = true) :
    machine.readBody source limit token next = machine.append source token := by
  have no_word := Role.structural_of_filler filler machine.previous
  exact readBody_of_plain (by simp [no_word])

theorem setStage_append {stage : Stage} (stands : machine.stage = stage) :
    { machine.append source token with stage := stage } = machine.append source token := by
  rw [← stands, ← stage_append machine source token]

/-- A gap is placed where the machine stands. -/
theorem read_of_gap (gap : role source token = .gap) :
    machine.read source limit token next = machine.append source token := by
  have filler := Role.isFiller_of_passing (.inl gap)
  unfold read
  split
  · exact readFront_of_filler filler (by simp [gap])
  · rename_i waits
    rw [if_pos gap, setStage_append waits]
  · rw [if_pos gap]
  · exact readBody_of_filler filler

/-- A comment is placed where the machine stands, unless a word is waited for. -/
theorem read_of_comment (comment : role source token = .comment) (idle : ¬ machine.Waiting) :
    machine.read source limit token next = machine.append source token := by
  have filler := Role.isFiller_of_passing (.inr comment)
  rcases stage_of_idle idle with ⟨phase, front⟩ | stands
  · rw [read_of_front front]
    exact readFront_of_filler filler (by simp [comment])
  · rw [read_of_body stands]
    exact readBody_of_filler filler

/-- Behind a line break the machine stands in a body, unless a word is waited for. -/
theorem read_of_lineBreak (breaks : role source token = .lineBreak) (idle : ¬ machine.Waiting) :
    machine.read source limit token next =
      { machine.append source token with stage := .body } := by
  rcases stage_of_idle idle with ⟨phase, front⟩ | stands
  · rw [read_of_front front]
    exact readFront_of_lineBreak breaks
  · rw [read_of_body stands, setStage_append stands]
    exact readBody_of_filler (Role.isFiller_of_lineBreak breaks)

end Machine

end BrightBlocks.Block
