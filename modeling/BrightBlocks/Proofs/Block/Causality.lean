import BrightBlocks.Proofs.Block.Openers
import BrightBlocks.Proofs.Block.Standing

/-!
# The place of a token is final

Where a token goes depends on the tokens in front of it and on two behind it
(`recover_causal`). Blocks that are left open hand on what is behind them to the blocks
around, but never a token that is already inside; so a stream may be cut off, or go on in
another way, and all tokens but the last two stay where they are.

Only the left side of a place is fixed. Whether a block around it is closed is still open.
-/

namespace BrightBlocks

/-- The blocks around a place, the innermost first: the kind of each, and how many tokens stand
in front of it. -/
def openings : List Level → List (Block.Kind × Nat)
  | [] => []
  | level :: outer => (level.kind, (Place.tokensAround (level :: outer)).length) :: openings outer

theorem exists_level_of_mem_openings {around : List Level} {opening : Block.Kind × Nat}
    (member : opening ∈ openings around) : ∃ level outer, level :: outer <:+ around ∧
      opening = (level.kind, (Place.tokensAround (level :: outer)).length) := by
  induction around with
  | nil => contradiction
  | cons level outer inductionHypothesis =>
    rcases List.mem_cons.mp member with rfl | member
    · exact ⟨level, outer, List.suffix_rfl, rfl⟩
    · obtain ⟨inner, further, within, same⟩ := inductionHypothesis member
      exact ⟨inner, further, within.trans (List.suffix_cons level outer), same⟩

/-- What stands in front of a block stands in front of all that is inside it. -/
theorem tokensAround_of_suffix {outer around : List Level} (within : outer <:+ around) :
    Place.tokensAround outer <+: Place.tokensAround around := by
  obtain ⟨inner, rfl⟩ := within
  induction inner with
  | nil => exact List.prefix_rfl
  | cons level inner inductionHypothesis =>
    exact inductionHypothesis.trans (List.prefix_append _ _)

namespace Block

section

variable {source : Text} {limit : Nat}

namespace Machine

/-- Of what is behind a stretch of tokens, two tokens are looked at. -/
theorem feed_congr {behind behind' : List Token} (same : behind.take 2 = behind'.take 2)
    (machine : Machine) (tokens : List Token) :
    machine.feed source limit behind tokens = machine.feed source limit behind' tokens := by
  induction tokens generalizing machine with
  | nil => rfl
  | cons token rest inductionHypothesis =>
    have next : (rest ++ behind).take 2 = (rest ++ behind').take 2 := by
      have fewer (list : List Token) : list.take (2 - rest.length) =
          (list.take 2).take (2 - rest.length) := by
        rw [List.take_take, Nat.min_eq_left (Nat.sub_le 2 _)]
      rw [List.take_append, List.take_append, fewer behind, fewer behind', same]
    rw [feed, feed, next]
    exact inductionHypothesis _

/-- The last leaf that is placed is that of the last token, behind all tokens in front of it. -/
theorem exists_last_placed (init : List Token) (token : Token) (behind next : List Token) :
    ∃ place, place.before = init ∧
      ((start.feed source limit behind init).read source limit token next).placed.getLast? =
        some ⟨place, .leaf token⟩ := by
  obtain ⟨sites, placed, nodes⟩ := placed_feed source limit start behind init
  obtain ⟨place, before, adds⟩ :=
    adds_read source limit (start.feed source limit behind init) token next
  refine ⟨place, ?_, by rw [adds, List.getLast?_concat]⟩
  have leaves : (sites.map (·.node)).filterMap Node.leaf? = init := by
    rw [nodes]
    simp [leafNodes, List.filterMap_map, Node.leaf?, Function.comp_def]
  rw [List.filterMap_map] at leaves
  rw [before, before_place, placed]
  exact leaves

end Machine

/-- A leaf of the tree stands where the machine places its token. -/
theorem getElem?_leafSites_recover {tokens init rest : List Token} {token : Token}
    (split : significantTokens tokens = init ++ token :: rest) :
    (Forest.leafSites .start (recover source limit tokens).1.children)[init.length]? =
      ((Machine.start.feed source limit (token :: rest) init).read source limit token
        (rest.take 2)).placed.getLast? := by
  obtain ⟨sites, placed, nodes⟩ :=
    Machine.placed_feed source limit Machine.start (token :: rest) init
  have count : sites.length = init.length := by
    rw [← List.length_map, nodes, leafNodes, List.length_map]
  rw [leafSites_recover, split, Machine.feed_append, List.append_nil, Machine.feed,
    List.append_nil]
  generalize Machine.start.feed source limit (token :: rest) init = reached at placed ⊢
  obtain ⟨place, -, adds⟩ := Machine.adds_read source limit reached token (rest.take 2)
  obtain ⟨further, more, -⟩ :=
    Machine.placed_feed source limit (reached.read source limit token (rest.take 2)) [] rest
  have none_placed : Machine.start.placed = [] := rfl
  rw [more, adds, placed, none_placed, List.nil_append, ← count]
  simp

/-- Every block around a leaf is opened by the token in front of which its opening stands. -/
theorem opens_around {tokens init rest : List Token} {token : Token} {place : Place}
    (split : significantTokens tokens = init ++ token :: rest) (before : place.before = init)
    (member : ⟨place, .leaf token⟩ ∈
      Forest.sites .start (recover source limit tokens).1.children) :
    ∀ opening ∈ openings place.around, opening.2 ≤ init.length ∧
      ∃ opener, (init ++ token :: rest)[opening.2]? = some opener ∧
        role source opener = .word opening.1.opener := by
  intro opening listed
  obtain ⟨level, outer, around, rfl⟩ := exists_level_of_mem_openings listed
  have inside : Place.tokensAround (level :: outer) <+: init :=
    before ▸ (tokensAround_of_suffix around).trans (List.prefix_append _ _)
  obtain ⟨children, closed, singleLine, block⟩ :=
    Forest.block_of_around around (Nat.zero_le _) _ member
  obtain ⟨opener, behind, rfl, spelled, -⟩ :=
    (placements_accounted source limit _).of_recover _ block
  obtain ⟨further, whole⟩ := Forest.split_of_mem_sites _ block
  rw [recover_leaves, Place.before_start, List.nil_append, split] at whole
  have front : Place.before ⟨level.front, outer⟩ = Place.tokensAround (level :: outer) := rfl
  refine ⟨inside.length_le, opener, ?_, spelled⟩
  rw [whole, front]
  simp [Forest.leaves, Node.leaves]

/--
Where a token goes is decided by the tokens up to it and two more. Of two streams that agree on
tokens before the end of the input, all of these but the last two are leaves at the same places of
both trees: inside the same blocks, each opened by the same token, and behind the same nodes.
-/
theorem recover_causal {front behind behind' : List Token} {index : Nat}
    (significant : ∀ token ∈ front, token.kind ≠ .endOfInput)
    (followed : index + 2 < front.length) :
    ∃ place token,
      (Forest.leafSites .start (recover source limit (front ++ behind)).1.children)[index]? =
        some ⟨place, .leaf token⟩ ∧
      (Forest.leafSites .start (recover source limit (front ++ behind')).1.children)[index]? =
        some ⟨place, .leaf token⟩ ∧
      front[index]? = some token ∧
      ∀ opening ∈ openings place.around, opening.2 ≤ index ∧
        ∃ opener, front[opening.2]? = some opener ∧
          role source opener = .word opening.1.opener := by
  obtain ⟨init, token, rest, rfl, rfl⟩ : ∃ init token rest,
      front = init ++ token :: rest ∧ index = init.length := by
    have within : index < front.length := by omega
    refine ⟨front.take index, front[index], front.drop (index + 1), ?_, ?_⟩
    · rw [← List.drop_eq_getElem_cons within, List.take_append_drop]
    · rw [List.length_take, Nat.min_eq_left within.le]
  have two_more : 2 ≤ rest.length := by
    simp only [List.length_append, List.length_cons] at followed
    omega
  have split (behind : List Token) : significantTokens (init ++ token :: rest ++ behind) =
      init ++ token :: (rest ++ significantTokens behind) := by
    unfold significantTokens
    rw [List.takeWhile_append_of_pos (by simpa using significant), List.append_assoc,
      List.cons_append]
  -- what the machine has read and may look at is the same in both streams
  have next (behind : List Token) : (rest ++ significantTokens behind).take 2 = rest.take 2 :=
    List.take_append_of_le_length two_more
  have fed (behind : List Token) :
      Machine.start.feed source limit (token :: (rest ++ significantTokens behind)) init =
        Machine.start.feed source limit (token :: rest) init := by
    apply Machine.feed_congr
    rw [List.take_succ_cons, List.take_succ_cons,
      List.take_append_of_le_length (Nat.le_of_succ_le two_more)]
  obtain ⟨place, before, last⟩ :=
    Machine.exists_last_placed init token (token :: rest) (rest.take 2)
  have found (behind : List Token) : (Forest.leafSites .start
      (recover source limit (init ++ token :: rest ++ behind)).1.children)[init.length]? =
        some ⟨place, .leaf token⟩ := by
    rw [getElem?_leafSites_recover (split behind), next, fed, last]
  refine ⟨place, token, found behind, found behind', by simp, ?_⟩
  have member := (List.mem_filter.mp (List.mem_of_getElem? (found behind))).1
  intro opening listed
  obtain ⟨within, opener, first, spelled⟩ :=
    opens_around (split behind) before member opening listed
  refine ⟨within, opener, ?_, spelled⟩
  have inside : opening.2 < (init ++ token :: rest).length := by
    rw [List.length_append, List.length_cons]
    omega
  rw [← first, ← List.cons_append, ← List.append_assoc, List.getElem?_append_left inside]

/-- Whatever is behind `end`, the `b` of the second line is inside the loop and the conditional. -/
theorem recover_causal_in_loop :
    let source : Text := "while a\nif b\n\nend".toList
    let front := Token.tokensFrom 0 source
    ((∀ token ∈ front, token.kind ≠ .endOfInput) ∧ 6 + 2 < front.length) ∧
    ∃ place token,
      (Forest.leafSites .start (recover source 2 (front ++ [])).1.children)[6]? =
        some ⟨place, .leaf token⟩ ∧
      (Forest.leafSites .start (recover source 2
        (front ++ [⟨.whitespace, 5, 6⟩, ⟨.keyword, 8, 10⟩])).1.children)[6]? =
        some ⟨place, .leaf token⟩ ∧
      front[6]? = some token ∧
      ∀ opening ∈ openings place.around, opening.2 ≤ 6 ∧
        ∃ opener, front[opening.2]? = some opener ∧
          role source opener = .word opening.1.opener := by
  intro source front
  have significant : ∀ token ∈ front, token.kind ≠ .endOfInput := by decide +kernel
  have followed : 6 + 2 < front.length := by decide +kernel
  exact ⟨⟨significant, followed⟩, recover_causal significant followed⟩

end

end Block

end BrightBlocks
