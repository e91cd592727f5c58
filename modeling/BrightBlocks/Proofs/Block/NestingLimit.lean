import BrightBlocks.Proofs.Block.Answered
import BrightBlocks.Proofs.Block.HeaderPoise

/-!
# The nesting limit

Blocks never nest deeper than the limit, and an opener that is kept flat has as many blocks
around it as the limit allows, with one notice for each such opener in the order of the text
(`recover_within_limit`). The blocks around a place are those of the calls that are at work there;
the notices are those of a machine that stays sound (`Machine.Sound`).
-/

namespace BrightBlocks.Block

/-- Around a node of a recovered tree are no more blocks than the limit allows. -/
theorem around_le_of_recover (source : Text) (limit : Nat) (tokens : List Token) :
    ∀ site ∈ Forest.sites .start (recover source limit tokens).1.children,
      site.place.around.length ≤ limit := by
  intro site member
  cases around : site.place.around with
  | nil => exact Nat.zero_le limit
  | cons level outer =>
    have innermost : level :: outer <:+ site.place.around := around ▸ List.suffix_rfl
    obtain ⟨children, closed, singleLine, block⟩ :=
      Forest.block_of_around innermost (Nat.zero_le _) _ member
    obtain ⟨cursor, called, -⟩ := block_called source limit tokens _ block
      ⟨level.kind, children, closed, singleLine⟩ rfl
    exact called.counts.2

/-- At the end of a stream the machine is still sound. -/
theorem steady_of_recover (source : Text) (limit : Nat) (tokens : List Token) :
    (Machine.start.run source limit (significantTokens tokens)).Steady source limit := by
  have anchored : Machine.start.Anchored := Machine.anchored_of_body rfl
  have sound := (Machine.Sound.start source limit (significantTokens tokens)).feed anchored
  rw [Machine.run_eq_unwind]
  exact sound.steady.unwind _ fun _ => rfl

/--
Nesting never exceeds the limit. Whatever the tokens are, the number of open blocks that a cursor
carries is that of the blocks which are open around its place, while every part of the recovery is
at work, and it is never more than the limit; the blocks of the tree are what these calls answer.
Around every node of the tree are at most `limit` blocks, and exactly `limit` around an opener that
is kept flat. The notices about such openers are one for each of them, in the order of the text,
with the word in small letters and where it starts.
-/
theorem recover_within_limit (source : Text) (limit : Nat) (tokens : List Token) :
    let result := recover source limit tokens
    let sites := Forest.sites .start result.1.children
    (∀ call place cursor, Called source limit tokens call place cursor →
      (∀ after,
        cursor.Handles source after ∨ (call.run source limit cursor).2.Handles source after →
          after.depth = place.around.length) ∧
      place.around.length + call.opens ≤ limit) ∧
    (∀ site ∈ sites, Answered source limit tokens site) ∧
    (∀ site ∈ sites, site.place.around.length ≤ limit) ∧
    (∀ place token, ⟨place, .leaf token⟩ ∈ sites → KeptFlat source place token →
      place.around.length = limit) ∧
    result.2.log.filter Notice.isKeptFlat = sites.filterMap (flatNotice? source limit) := by
  have steady := steady_of_recover source limit tokens
  rw [run_start] at steady
  dsimp only
  refine ⟨fun call place cursor called => called.counts, block_called source limit tokens,
    around_le_of_recover source limit tokens, fun place token member flat => ?_, ?_⟩
  · exact steady.full place token (List.mem_filter.mpr ⟨member, rfl⟩) flat
  · have placed : (Forest.leafSites .start (recover source limit tokens).1.children).filterMap
        (flatNotice? source limit) = _ := filterMap_flatNotice?_leafSites ..
    exact steady.flats.trans placed

/-- With the limit one, the `if` behind an `else` in the header of a conditional is kept flat. -/
theorem recover_within_limit_of_header :
    let source : Text := "if a else if b\nfor\nelse if c\nend if".toList
    let result := recover source 1 (Token.tokenize source)
    let place : Place := ⟨leafNodes [⟨.keyword, 0, 2⟩, ⟨.whitespace, 2, 3⟩, ⟨.identifier, 3, 4⟩,
      ⟨.whitespace, 4, 5⟩, ⟨.keyword, 5, 9⟩, ⟨.whitespace, 9, 10⟩], [⟨.conditional, []⟩]⟩
    (⟨place, .leaf ⟨.keyword, 10, 12⟩⟩ ∈ Forest.sites .start result.1.children ∧
      KeptFlat source place ⟨.keyword, 10, 12⟩) ∧
    place.around.length = 1 ∧
    result.2.log.filter Notice.isKeptFlat = [.keptFlat 1 "if" 10, .keptFlat 1 "for" 15] := by
  intro source result place
  obtain ⟨-, -, -, full, flats⟩ := recover_within_limit source 1 (Token.tokenize source)
  have member : ⟨place, .leaf ⟨.keyword, 10, 12⟩⟩ ∈ Forest.sites .start result.1.children := by
    decide +kernel
  have flat : KeptFlat source place ⟨.keyword, 10, 12⟩ := by decide +kernel
  exact ⟨⟨member, flat⟩, full place _ member flat, flats.trans (by decide +kernel)⟩

end BrightBlocks.Block
