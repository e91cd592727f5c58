import BrightBlocks.Proofs.Block.Steadiness

/-!
# Where a machine stands

Which openers are kept flat depends on where the machine stands: in the header of a block, or
between an `else` and its `if`. `Machine.Poised` says that both can be read off the place alone,
and `Machine.Sound` is all that is kept up along a run.
-/

namespace BrightBlocks.Block

variable {source : Text} {limit : Nat}

/-! ## Waiting for an `if` -/

/-- The next `if` on the line belongs to an `else` in front of a place. -/
def AwaitsIf (source : Text) (place : Place) (ahead : List Token) : Prop :=
  (EndsInElse source place ∧ roleOnLine source ahead = .word "if") ∨
    (EndsInGap source place ∧ ∃ token ∈ ahead.head?, role source token = .word "if")

section

variable {place : Place} {token : Token} {rest : List Token}

theorem AwaitsIf.behindElse {ahead : List Token} (awaits : AwaitsIf source place ahead) :
    BehindElse source place :=
  awaits.imp And.left And.left

/-- At an `if`, waiting for one is standing behind an `else`. -/
theorem awaitsIf_of_if (spelled : role source token = .word "if") :
    AwaitsIf source place (token :: rest) ↔ BehindElse source place := by
  have on_line : roleOnLine source (token :: rest) = .word "if" := by
    simp [roleOnLine, spelled]
  simp [AwaitsIf, BehindElse, on_line, spelled]

/-- Only an `if` is waited for, behind at most a gap. -/
theorem AwaitsIf.role_eq (awaits : AwaitsIf source place (token :: rest))
    (solid : role source token ≠ .gap) : role source token = .word "if" := by
  rcases awaits with ⟨-, on_line⟩ | ⟨-, first, found, spelled⟩
  · simpa [roleOnLine, solid] using on_line
  · obtain rfl := Option.some.inj found
    exact spelled

/-- A gap does not end waiting, and none begins with it. -/
theorem awaitsIf_past_gap (blank : role source token = .gap) :
    AwaitsIf source (place.past [.leaf token]) rest ↔ AwaitsIf source place (token :: rest) := by
  have no_else : ¬ EndsInElse source (place.past [.leaf token]) := by
    rw [endsInElse_past_leaf, blank]
    rintro ⟨-, found, -⟩
    exact absurd (structural_eq_some_iff.mp found).2 (by simp)
  have on_line : roleOnLine source (token :: rest) = .word "if" ↔
      ∃ token ∈ rest.head?, role source token = .word "if" := by
    cases rest <;> simp [roleOnLine, blank]
  simp [AwaitsIf, no_else, endsInGap_past_leaf, blank, on_line]

/-- Behind a token that is no gap, waiting begins with an `else` that starts a branch. -/
theorem awaitsIf_past_solid (solid : role source token ≠ .gap) :
    AwaitsIf source (place.past [.leaf token]) rest ↔
      EndsInElse source (place.past [.leaf token]) ∧ roleOnLine source rest = .word "if" := by
  simp [AwaitsIf, endsInGap_past_leaf, solid]

/-- Behind a token that starts no branch, waiting has begun in front of it. -/
theorem AwaitsIf.of_past (awaits : AwaitsIf source (place.past [.leaf token]) rest)
    (no_branch : ¬ EndsInElse source (place.past [.leaf token])) :
    AwaitsIf source place (token :: rest) := by
  by_cases blank : role source token = .gap
  · exact (awaitsIf_past_gap blank).mp awaits
  · exact absurd ((awaitsIf_past_solid blank).mp awaits).1 no_branch

end

namespace Machine

/-! ## Where a machine stands, by its place -/

section

variable {machine after : Machine} {token : Token} {rest : List Token} {kind : Kind}

/-- In a header that has not ended, the last significant word is that of the header. -/
theorem headerTrail_eq (steady : machine.Steady source limit) (opened : machine.Opened source)
    (inside : machine.kind? = some kind)
    (unended : HeaderUnended source kind machine.place.front) :
    headerTrail source kind machine.place.front = machine.previous := by
  obtain ⟨opener, others, front, spelled⟩ := opened.front inside
  have leaves := leaves_eq_filterMap unended.leaves
  rw [steady.previous, Place.before, leaves, front, trail_append]
  simp [headerTrail, Node.leaf?, spelled, Role.follow]

/-- A line break ends a header, and so does every word that ends one. -/
theorem header_ended_by (steady : machine.Steady source limit) (opened : machine.Opened source)
    (inside : machine.kind? = some kind)
    (ends : role source token = .lineBreak ∨
      ∃ word, (role source token).structural machine.previous = some word ∧
        word ∈ endingWords .opening kind) :
    ¬ HeaderUnended source kind (machine.place.front ++ [.leaf token]) := by
  rw [headerUnended_append_leaf (opened.front_ne_nil inside)]
  rintro ⟨unended, solid, plain⟩
  rw [headerTrail_eq steady opened inside unended] at plain
  rcases ends with broken | ⟨word, found, listed⟩
  · exact solid broken
  · exact plain word found listed

/-- A header that has ended stays so. -/
theorem header_ended_before (opened : machine.Opened source) (inside : machine.kind? = some kind)
    (ended : ¬ HeaderUnended source kind machine.place.front) :
    ¬ HeaderUnended source kind (machine.place.front ++ [.leaf token]) := by
  rw [headerUnended_append_leaf (opened.front_ne_nil inside)]
  exact fun unended => ended unended.1

/--
What the stage of a machine says about its place: whether the header of the innermost block has
ended, and whether the next `if` on the line belongs to an `else`.
-/
structure Poised (source : Text) (machine : Machine) (ahead : List Token) : Prop where
  header : ∀ kind, machine.kind? = some kind →
    (machine.stage = .front .opening ↔ HeaderUnended source kind machine.place.front)
  closing : machine.stage = .closing → machine.previous = some "end"
  awaits : machine.stage = .elseIf ↔ AwaitsIf source machine.place ahead

/-- A machine behind a token is poised if its stage fits to what is in front now. -/
theorem Poised.of_past (led : after.place = machine.place.past [.leaf token])
    (header : ∀ kind, machine.kind? = some kind → (after.stage = .front .opening ↔
      HeaderUnended source kind (machine.place.front ++ [.leaf token])))
    (closing : after.stage = .closing → after.previous = some "end")
    (awaits : after.stage = .elseIf ↔ AwaitsIf source (machine.place.past [.leaf token]) rest) :
    after.Poised source rest := by
  refine ⟨fun kind inside => ?_, closing, by rw [led]; exact awaits⟩
  rw [← kind?_place, led, Place.kind?_past, kind?_place] at inside
  rw [led]
  exact header kind inside

/-- A machine that has just left a block stands in a body, where nothing is waited for. -/
theorem Poised.of_leave {frame : Frame} {outer : List Frame}
    (stack : machine.stack = frame :: outer) (closed : Bool) (ahead : List Token) :
    (machine.leave closed).Poised source ahead := by
  have place := place_leave stack closed
  have stage := stage_leave stack closed
  have no_else : ¬ AwaitsIf source (machine.leave closed).place ahead := by
    intro awaits
    refine not_behindElse_of_no_leaf ?_ awaits.behindElse
    rw [place, Place.last?_past_block]
  refine ⟨fun kind _ => ?_, by simp [stage], by simp [stage, no_else]⟩
  rw [place, stage]
  exact iff_of_false nofun (not_headerUnended_of_block source kind _ _ _ _ _)

/-- Where no block is open, nothing is waited for. -/
theorem Poised.of_nothing_open (stands : machine.stage = .body) (nothing : machine.stack = [])
    (ahead : List Token) : machine.Poised source ahead := by
  have outside : machine.kind? = none := by simp [kind?, nothing]
  have no_else : ¬ AwaitsIf source machine.place ahead := by
    intro awaits
    exact not_behindElse_of_outside ((kind?_place machine).trans outside) awaits.behindElse
  exact ⟨by simp [outside], by simp [stands], by simp [stands, no_else]⟩

/-- All that is kept up along a run, in front of the tokens `ahead`. -/
structure Sound (source : Text) (limit : Nat) (machine : Machine) (ahead : List Token) :
    Prop where
  steady : machine.Steady source limit
  opened : machine.Opened source
  poised : machine.Poised source ahead

/-- A token that is no `else` of a conditional starts no branch. -/
theorem no_branch_past (steady : machine.Steady source limit)
    (plain : machine.kind? = some .conditional →
      (role source token).structural machine.previous ≠ some "else") :
    ¬ EndsInElse source (machine.place.past [.leaf token]) := by
  rw [endsInElse_past_leaf, kind?_place, ← steady.previous]
  exact fun ⟨conditional, found, _⟩ => plain conditional found

/-- An `else` in the body of a conditional starts a branch. -/
theorem branch_past (steady : machine.Steady source limit) (opened : machine.Opened source)
    (conditional : machine.kind? = some .conditional)
    (found : (role source token).structural machine.previous = some "else")
    (ended : ¬ HeaderUnended source .conditional (machine.place.front ++ [.leaf token])) :
    EndsInElse source (machine.place.past [.leaf token]) := by
  rw [endsInElse_past_leaf, kind?_place, ← steady.previous]
  refine ⟨conditional, found, fun unended => ended ?_⟩
  -- an `else` would not have ended the header
  rw [headerUnended_append_leaf (opened.front_ne_nil conditional),
    headerTrail_eq steady opened conditional unended, found]
  refine ⟨unended, by simp [role_of_structural found], fun word same => ?_⟩
  obtain rfl := Option.some.inj same
  decide

/-- A token that is placed in a body leads on in the body. -/
theorem Poised.of_body (steady : machine.Steady source limit)
    (idle : ¬ AwaitsIf source machine.place (token :: rest))
    (ended : ∀ kind, machine.kind? = some kind →
      ¬ HeaderUnended source kind (machine.place.front ++ [.leaf token]))
    (plain : machine.kind? = some .conditional →
      (role source token).structural machine.previous ≠ some "else")
    (led : after.place = machine.place.past [.leaf token]) (stands : after.stage = .body) :
    after.Poised source rest := by
  refine .of_past led (fun kind inside => ?_) (by simp [stands]) ?_
  · exact iff_of_false (by simp [stands]) (ended kind inside)
  · exact iff_of_false (by simp [stands])
      fun awaits => idle (awaits.of_past (no_branch_past steady plain))

end

end Machine

end BrightBlocks.Block
