import BrightBlocks.Proofs.Block.Headed
import BrightBlocks.Proofs.Block.ProgramPlaces
import Mathlib.Data.List.Forall2

/-!
# Conditionals on single lines

`recover_of_arranged` recovers every construct of a program (`Arranged`): the blocks closed by
their own closers, the conditionals on single lines marked and not closed.

Nothing ends a conditional at the end of its line. It stays open up to the closer of the block
around it, so it takes an `end if` that it meets there, and what stands behind it counts as
nested in it. Hence none may stand directly in a conditional on lines of its own, and each of
them takes a level of the nesting limit from what follows in the same body (`OneLinerRule`).
Without these two bounds the statement fails (`oneLiners_take_over`).
-/

namespace BrightBlocks.Block

section

variable {source : Text} {limit : Nat} {machine : Machine} {inside : Option Kind} {kind : Kind}
  {front stop tokens rest : List Token} {stack : List Frame} {root : List Node}
  {log : List Notice}

/-! ## Recovering programs -/

/-- A construct is recovered in front of what is recovered inside it and behind it. -/
theorem recovered_cons {construct : Construct} {constructs : List Construct} {nodes : List Node}
    {front : List Token} {closed singleLine : Bool}
    (itself : construct.Recovered ⟨kind, leafNodes front ++ nodes, closed, singleLine⟩)
    (others : List.Forall₂ Construct.Recovered constructs (Forest.walk nodes)) :
    List.Forall₂ Construct.Recovered (construct :: constructs)
      (Forest.walk [.block kind (leafNodes front ++ nodes) closed singleLine]) := by
  rw [Forest.walk, Forest.walk, List.append_nil, Node.walk, Forest.walk_append, walk_leafNodes,
    List.nil_append]
  exact .cons itself others

/-- The lines of a program are made into nodes in which every construct is recovered. -/
theorem Arranged.exists_nodes {depth : Nat} {constructs : List Construct}
    (arranged : Arranged .outsideConditionals source inside depth tokens constructs) (limit : Nat) :
    ∃ nodes, Forest.leaves nodes = tokens ∧
      List.Forall₂ Construct.Recovered constructs (Forest.walk nodes) ∧
      Places source limit inside depth tokens nodes := by
  induction arranged with
  | nil => exact ⟨[], rfl, .nil, .nil⟩
  | @indent inside depth gap tokens constructs blank more inductionHypothesis =>
    obtain ⟨nodes, leaves, recovered, places⟩ := inductionHypothesis
    exact ⟨.leaf gap :: nodes, by simp [leaves], recovered, places.indent blank⟩
  | @line inside depth front stop tokens constructs clear stops more inductionHypothesis =>
    obtain ⟨nodes, leaves, recovered, places⟩ := inductionHypothesis
    exact ⟨leafNodes (front ++ stop) ++ nodes, by simp [leaves], by simpa using recovered,
      places.line clear stops⟩
  | @branch depth front tokens constructs starts more inductionHypothesis =>
    obtain ⟨nodes, leaves, recovered, places⟩ := inductionHypothesis
    exact ⟨leafNodes front ++ nodes, by simp [leaves], by simpa using recovered,
      places.branch starts⟩
  | @oneLiner inside depth opener word condition statement stop tokens constructs outside opens
      tested leads acts clear stops more inductionHypothesis =>
    obtain ⟨nodes, leaves, recovered, places⟩ := inductionHypothesis
    refine ⟨_, ?_, recovered_cons ?_ recovered,
      places.oneLiner outside opens tested leads acts clear stops⟩
    · rw [leaves_block_cons]
      simp [leaves, Forest.leaves]
    · refine ⟨rfl, rfl, rfl, ⟨stop ++ tokens, ?_⟩, nofun⟩
      simp [leaves]
  | @block inside depth kind opener header body back tail stop tokens inner constructs opens headed
      nested closes clear stops more nestedHypothesis inductionHypothesis =>
    obtain ⟨children, inside_leaves, inside_recovered, inside_places⟩ := nestedHypothesis
    obtain ⟨nodes, leaves, recovered, places⟩ := inductionHypothesis
    refine ⟨_, ?_, ?_, inside_places.block opens headed closes clear stops places⟩
    · simp [leaves, inside_leaves]
    · have itself : Construct.Recovered ⟨kind, opener :: (header ++ (body ++ back)), false⟩
          ⟨kind, leafNodes (opener :: header) ++ children ++ leafNodes back, true, false⟩ := by
        have spelled : Forest.leaves (leafNodes (opener :: header) ++ children ++ leafNodes back) =
            opener :: (header ++ (body ++ back)) := by
          simp [inside_leaves]
        exact ⟨rfl, rfl, rfl, spelled ▸ List.prefix_rfl, fun _ => spelled⟩
      rw [Forest.walk, Node.walk]
      simp only [Forest.walk_append, walk_leafNodes, List.nil_append, List.append_nil]
      exact .cons itself (List.rel_append inside_recovered recovered)

end

/--
Conditionals on single lines take no terminators. In a program of blocks, in which conditionals may
also stand on a single line in any body but that of a conditional on lines of its own, every block
is closed by its own closer and ends with it, and every conditional on a single line is marked and
not closed, if the blocks nest no deeper than the limit and such a conditional counts as one
more level for what follows in the same body.
-/
theorem recover_of_arranged {source : Text} {limit depth : Nat} {tokens : List Token}
    {constructs : List Construct}
    (arranged : Arranged .outsideConditionals source none depth
      (tokens.takeWhile (·.kind ≠ .endOfInput)) constructs)
    (room : depth ≤ limit) :
    List.Forall₂ Construct.Recovered constructs
      (Forest.walk (recover source limit tokens).1.children) := by
  obtain ⟨nodes, -, recovered, places⟩ := arranged.exists_nodes limit
  obtain ⟨previous, log, -, read⟩ := places .start [] ⟨rfl, fun _ => rfl, nofun⟩
    (by simpa [Machine.start] using room) .file
  have ended : (Machine.start.behind nodes previous log).run source limit [] =
      ⟨.body, [], nodes, previous, log⟩ :=
    Machine.unwind_of_nothing_open rfl
  rw [List.append_nil] at read
  have root := congrArg Machine.root ((run_start source limit tokens).symm.trans (read.trans ended))
  have children : (recover source limit tokens).1.children = nodes := root
  rw [children]
  exact recovered

/-- A loop with a conditional on a single line, in which `exit for` closes nothing, is recovered. -/
theorem recover_of_arranged_in_loop :
    let source : Text := "for i = 0 to 9\n  if i > 3 then exit for\nnext".toList
    ∃ constructs : List Construct,
      constructs.map (fun construct => (construct.kind, construct.singleLine)) =
        [(.forLoop, false), (.conditional, true)] ∧
      Arranged .outsideConditionals source none 2
        ((Token.tokenize source).takeWhile (·.kind ≠ .endOfInput)) constructs ∧
      List.Forall₂ Construct.Recovered constructs
        (Forest.walk (recover source 2 (Token.tokenize source)).1.children) := by
  intro source
  have body := @Arranged.oneLiner .outsideConditionals source (some .forLoop) 0 ⟨.keyword, 17, 19⟩
    ⟨.keyword, 26, 30⟩
    [⟨.whitespace, 19, 20⟩, ⟨.identifier, 20, 21⟩, ⟨.whitespace, 21, 22⟩, ⟨.operator, 22, 23⟩,
      ⟨.whitespace, 23, 24⟩, ⟨.numberLiteral, 24, 25⟩, ⟨.whitespace, 25, 26⟩]
    [⟨.whitespace, 30, 31⟩, ⟨.keyword, 31, 35⟩, ⟨.whitespace, 35, 36⟩, ⟨.keyword, 36, 39⟩]
    [⟨.whitespace, 39, 40⟩] [] [] nofun (by decide +kernel) (by decide +kernel)
    (by decide +kernel) (by decide +kernel) (by decide +kernel) (.lineBreak (by decide +kernel))
    .nil
  have headed := @FrontLine.bare source .forLoop .opening (some "for")
    [⟨.whitespace, 3, 4⟩, ⟨.identifier, 4, 5⟩, ⟨.whitespace, 5, 6⟩, ⟨.operator, 6, 7⟩,
      ⟨.whitespace, 7, 8⟩, ⟨.numberLiteral, 8, 9⟩, ⟨.whitespace, 9, 10⟩, ⟨.keyword, 10, 12⟩,
      ⟨.whitespace, 12, 13⟩, ⟨.numberLiteral, 13, 14⟩]
    ⟨.whitespace, 14, 17⟩ (by decide +kernel) (by decide +kernel)
  have closing := @Closing.word source .forLoop ⟨.keyword, 40, 44⟩ "next" (by decide +kernel)
    (by decide +kernel)
  have loop := @Arranged.block .outsideConditionals source none 1 .forLoop ⟨.keyword, 0, 3⟩ _ _ _
    [] [] [] _ _ (by decide +kernel) headed body closing (by decide +kernel) .endOfFile .nil
  have arranged : Arranged .outsideConditionals source none 2
      ((Token.tokenize source).takeWhile (·.kind ≠ .endOfInput)) _ :=
    loop.of_eq (by decide +kernel)
  exact ⟨_, rfl, arranged, recover_of_arranged arranged (by decide)⟩

/-! ## What conditionals on single lines take over -/

/-- Constructs that are recovered are closed unless they stand on a single line. -/
theorem closed_of_recovered {constructs : List Construct} {blocks : List Block}
    (recovered : List.Forall₂ Construct.Recovered constructs blocks) :
    blocks.map (·.closed) = constructs.map (!·.singleLine) := by
  induction recovered with
  | nil => rfl
  | cons itself others inductionHypothesis =>
    rw [List.map_cons, List.map_cons, itself.closed, inductionHypothesis]

/--
Where conditionals on single lines may stand anywhere and are not counted, not all is recovered.
Directly in a conditional such a line takes its `end if`, and behind one the limit is reached early.
-/
theorem oneLiners_take_over :
    (let source : Text := "if a then\nif b then c\nend if\n".toList
      ∃ constructs, Arranged .everywhere source none 2
          ((Token.tokenize source).takeWhile (·.kind ≠ .endOfInput)) constructs ∧
        ¬ List.Forall₂ Construct.Recovered constructs
          (Forest.walk (recover source 100 (Token.tokenize source)).1.children)) ∧
    (let source : Text := "if a then b\nfunction f()\nend function\n".toList
      ∃ constructs, Arranged .everywhere source none 1
          ((Token.tokenize source).takeWhile (·.kind ≠ .endOfInput)) constructs ∧
        ¬ List.Forall₂ Construct.Recovered constructs
          (Forest.walk (recover source 1 (Token.tokenize source)).1.children)) := by
  constructor
  · intro source
    have body := @Arranged.oneLiner .everywhere source (some .conditional) 0 ⟨.keyword, 10, 12⟩
      ⟨.keyword, 15, 19⟩ [⟨.whitespace, 12, 13⟩, ⟨.identifier, 13, 14⟩, ⟨.whitespace, 14, 15⟩]
      [⟨.whitespace, 19, 20⟩, ⟨.identifier, 20, 21⟩] [⟨.whitespace, 21, 22⟩] [] [] trivial
      (by decide +kernel) (by decide +kernel) (by decide +kernel) (by decide +kernel)
      (by decide +kernel) (.lineBreak (by decide +kernel)) .nil
    have headed := @FrontLine.withThen source .conditional .opening (some "if")
      [⟨.whitespace, 2, 3⟩, ⟨.identifier, 3, 4⟩, ⟨.whitespace, 4, 5⟩] [⟨.whitespace, 9, 10⟩]
      ⟨.keyword, 5, 9⟩ rfl (by decide +kernel) (by decide +kernel)
      (.intro .absent .absent (by decide +kernel))
    have closing := @Closing.phrase source .conditional ⟨.identifier, 22, 25⟩ ⟨.keyword, 26, 28⟩
      [⟨.whitespace, 25, 26⟩] (by decide +kernel) (.present (by decide +kernel))
      (by decide +kernel)
    have outer := @Arranged.block .everywhere source none 1 .conditional ⟨.keyword, 0, 2⟩ _ _ _ []
      [⟨.whitespace, 28, 29⟩] [] _ _ (by decide +kernel) headed body closing (by decide +kernel)
      (.lineBreak (by decide +kernel)) .nil
    refine ⟨_, outer.of_eq (by decide +kernel), fun recovered => ?_⟩
    exact absurd (closed_of_recovered recovered) (by decide +kernel)
  · intro source
    have headed := @FrontLine.bare source .function .opening (some "function")
      [⟨.whitespace, 20, 21⟩, ⟨.identifier, 21, 22⟩, ⟨.leftParen, 22, 23⟩, ⟨.rightParen, 23, 24⟩]
      ⟨.whitespace, 24, 25⟩ (by decide +kernel) (by decide +kernel)
    have closing := @Closing.phrase source .function ⟨.identifier, 25, 28⟩ ⟨.keyword, 29, 37⟩
      [⟨.whitespace, 28, 29⟩] (by decide +kernel) (.present (by decide +kernel))
      (by decide +kernel)
    have declared := @Arranged.block .everywhere source none 0 .function ⟨.keyword, 12, 20⟩ _ _ _ []
      [⟨.whitespace, 37, 38⟩] [] _ _ (by decide +kernel) headed .nil closing (by decide +kernel)
      (.lineBreak (by decide +kernel)) .nil
    have whole := @Arranged.oneLiner .everywhere source none 0 ⟨.keyword, 0, 2⟩ ⟨.keyword, 5, 9⟩
      [⟨.whitespace, 2, 3⟩, ⟨.identifier, 3, 4⟩, ⟨.whitespace, 4, 5⟩]
      [⟨.whitespace, 9, 10⟩, ⟨.identifier, 10, 11⟩] [⟨.whitespace, 11, 12⟩] _ _ trivial
      (by decide +kernel) (by decide +kernel) (by decide +kernel) (by decide +kernel)
      (by decide +kernel) (.lineBreak (by decide +kernel)) declared
    refine ⟨_, whole.of_eq (by decide +kernel), fun recovered => ?_⟩
    exact absurd (closed_of_recovered recovered) (by decide +kernel)

end BrightBlocks.Block
