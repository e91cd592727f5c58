import BrightBlocks.Proofs.Block.Placement
import BrightBlocks.Proofs.Block.Recognition

/-!
# Every opener is accounted for

A word that could open a block does so unless there is a reason: a phrase takes it
in, such as the `for` of `exit for`, it is the `if` of an `else if`, or as many
blocks are around it as may be. And every block starts with the word that opened
it. `recover_accounts_openers` says so of every node of a recovered tree.

None of this depends on what the tokens spell beyond their roles.
-/

namespace BrightBlocks.Block

/-- In front of a place in a conditional stands an `else`, with at most a gap behind it. -/
structure AfterElse (source : Text) (place : Place) : Prop where
  conditional : place.kind? = some .conditional
  leads : ∃ front word gap, place.front = front ++ leafNodes (word :: gap) ∧
    AtMostOne source .gap gap ∧
    (role source word).structural (trail source none (Place.before ⟨front, place.around⟩)) =
      some "else"

/--
A block starts with its opener, which no phrase takes in. A leaf that spells an opener is the first
one in a block of that kind, is taken in by a phrase, belongs to an `else`, or has `limit` blocks
around it.
-/
def OpenersAccounted (source : Text) (limit : Nat) (site : Site) : Prop :=
  match site.node with
  | .block kind children _ _ =>
    ∃ token rest, children = .leaf token :: rest ∧ role source token = .word kind.opener ∧
      (trail source none site.place.before).any (· ∈ phraseLeads) = false
  | .leaf token =>
    ∀ kind : Kind, role source token = .word kind.opener →
      (site.place.front = [] ∧ site.place.kind? = some kind) ∨
      (trail source none site.place.before).any (· ∈ phraseLeads) = true ∨
      (kind = .conditional ∧ AfterElse source site.place) ∨
      site.place.around.length = limit

section

variable {source : Text} {limit : Nat} {place : Place} {token : Token}

/-- A leaf is accounted for where it contributes no opener to the structure. -/
theorem accounted_of_not_opener
    (none_opens : ∀ word, (role source token).structural (trail source none place.before) =
      some word → word ∉ openers) :
    OpenersAccounted source limit ⟨place, .leaf token⟩ := by
  intro kind spelled
  have listed : kind.opener ∈ openers :=
    List.mem_map.mpr ⟨kind, by cases kind <;> decide, rfl⟩
  right
  left
  cases free : (trail source none place.before).any (· ∈ phraseLeads) with
  | true => rfl
  | false => exact absurd listed (none_opens _ (structural_eq_some_iff.mpr ⟨free, spelled⟩))

/-- Leaves are accounted for when none of them contributes an opener. -/
theorem accounted_of_spares {barred : List String} {leaves : List Token}
    (covers : ∀ word ∈ openers, word ∈ barred)
    (spares : Spares source barred (trail source none place.before) leaves) :
    ∀ site ∈ Forest.sites place (leafNodes leaves), OpenersAccounted source limit site := by
  induction leaves generalizing place with
  | nil => exact List.forall_mem_nil _
  | cons token rest inductionHypothesis =>
    obtain ⟨plain, further⟩ := spares
    rw [leafNodes, List.map_cons, Forest.sites_leaf_cons, List.forall_mem_cons]
    constructor
    · apply accounted_of_not_opener
      intro word found listed
      exact plain word found (covers word listed)
    · apply inductionHypothesis
      simpa [Forest.leaves, Node.leaves] using further

/-- A single leaf is accounted for when its word opens nothing. -/
theorem accounted_of_word {word : String}
    (spelled : role source token = .word word) (plain : word ∉ openers) :
    OpenersAccounted source limit ⟨place, .leaf token⟩ := by
  apply accounted_of_not_opener
  intro other found
  have same := (structural_eq_some_iff.mp found).2
  rw [spelled, Role.word.injEq] at same
  exact same ▸ plain

/-- Gaps are accounted for, as they are no words. -/
theorem accounted_of_gap {gap : List Token} (blank : AtMostOne source .gap gap) :
    ∀ site ∈ Forest.sites place (leafNodes gap), OpenersAccounted source limit site := by
  have spares : Spares source openers (trail source none place.before) gap := by
    apply spares_of_no_words
    intro token member
    rw [blank.role_of_mem token member]
    rfl
  exact accounted_of_spares (fun _ listed => listed) spares

/-- A gap keeps the last significant word. -/
theorem AtMostOne.trail_eq {gap : List Token} (blank : AtMostOne source .gap gap)
    (previous : Option String) : trail source previous gap = previous := by
  cases blank with
  | absent => rfl
  | present found => simp [found, Role.follow]

theorem openers_sub_boundaries (phase : Phase) (kind : Kind) :
    ∀ word ∈ openers, word ∈ phase.boundaries kind := by
  cases phase <;> cases kind <;> decide

theorem else_not_opener : ∀ word ∈ elseWords, word ∉ openers := by
  decide

theorem closer_not_opener : ∀ word ∈ closers, word ∉ openers := by
  decide

/-- The start of a branch is accounted for: its `if`, if it has one, belongs to its `else`. -/
theorem BranchOpening.accounted {leaves : List Token} (within : place.kind? = some .conditional)
    (starts : BranchOpening source (trail source none place.before) leaves) :
    ∀ site ∈ Forest.sites place (leafNodes leaves), OpenersAccounted source limit site := by
  cases starts with
  | @word token small found listed =>
    have spelled := (structural_eq_some_iff.mp found).2
    simpa [leafNodes] using accounted_of_word spelled (else_not_opener small listed)
  | @elseIf first second gap found blank goes_on =>
    have spelled := (structural_eq_some_iff.mp found).2
    have belongs : AfterElse source (place.past (leafNodes (first :: gap))) :=
      ⟨within, place.front, first, gap, rfl, blank, found⟩
    have last : OpenersAccounted source limit
        ⟨place.past (leafNodes (first :: gap)), .leaf second⟩ := by
      intro kind same
      have conditional : kind = .conditional := by
        rw [goes_on, Role.word.injEq] at same
        cases kind <;> simp [Kind.opener] at same ⊢
      exact .inr (.inr (.inl ⟨conditional, belongs⟩))
    simp only [leafNodes, List.map_cons, List.map_append, List.map_nil, Forest.sites_leaf_cons,
      Forest.sites_append, List.forall_mem_cons, List.forall_mem_append, Place.past_past,
      Forest.sites_nil]
    refine ⟨accounted_of_word spelled (by decide), accounted_of_gap blank, ?_⟩
    simpa [leafNodes] using last

/-- A terminator is accounted for: the word behind its `end` is taken in by the phrase. -/
theorem Terminates.accounted {kind : Kind} {leaves : List Token}
    (terminates : Terminates source kind (trail source none place.before) leaves) :
    ∀ site ∈ Forest.sites place (leafNodes leaves), OpenersAccounted source limit site := by
  obtain ⟨spells, free⟩ := terminates
  cases spells with
  | @phrase first last gap starts blank names =>
    have taken_in : trail source none (place.past (leafNodes (first :: gap))).before =
        some "end" := by
      simp [starts, Role.follow, blank.trail_eq]
    have last : OpenersAccounted source limit
        ⟨place.past (leafNodes (first :: gap)), .leaf last⟩ := by
      intro other same
      right
      left
      rw [taken_in]
      decide
    simp only [leafNodes, List.map_cons, List.map_append, List.map_nil, Forest.sites_leaf_cons,
      Forest.sites_append, List.forall_mem_cons, List.forall_mem_append, Place.past_past,
      Forest.sites_nil]
    refine ⟨accounted_of_word starts (by decide), accounted_of_gap blank, ?_⟩
    simpa [leafNodes] using last
  | @word token small spelled closes =>
    have plain := closer_not_opener small (closers_of_kind closes)
    simpa [leafNodes] using accounted_of_word spelled plain

/-- In every way in which a node is placed its openers are accounted for. -/
theorem placements_accounted (source : Text) (limit : Nat) (stream : List Token) :
    Placements source limit stream (OpenersAccounted source limit) where
  block found room split ends := by
    obtain ⟨free, spelled⟩ := structural_eq_some_iff.mp found
    exact ⟨_, _, rfl, spelled, free⟩
  opener := by
    intro place token kind found room other same
    have spelled := (structural_eq_some_iff.mp found).2
    rw [spelled, Role.word.injEq] at same
    have equal : kind = other := by
      cases kind <;> cases other <;> simp [Kind.opener] at same ⊢
    exact .inl ⟨rfl, congrArg some equal⟩
  header within spares := accounted_of_spares (openers_sub_boundaries _ _) spares
  branch within starts := starts.accounted within
  terminator within terminates := terminates.accounted
  flat found many := fun kind same => .inr (.inr (.inr many))
  plain := by
    intro place token opens_none
    apply accounted_of_not_opener
    intro word found listed
    obtain ⟨kind, -, rfl⟩ := List.mem_map.mp listed
    rw [found] at opens_none
    simp [ofOpener?_opener] at opens_none

/-- Every block of a recovered tree starts with the word that opened it. -/
theorem exists_opener_of_mem_walk {tokens : List Token} {block : Block}
    (member : block ∈ Forest.walk (recover source limit tokens).1.children) :
    ∃ token rest, block.children = .leaf token :: rest ∧
      role source token = .word block.kind.opener := by
  rw [← Forest.filterMap_block?_sites .start] at member
  obtain ⟨⟨place, node⟩, site, found⟩ := List.mem_filterMap.mp member
  have accounted := (placements_accounted source limit (significantTokens tokens)).of_recover _ site
  cases node with
  | leaf token => contradiction
  | block kind children closed singleLine =>
    obtain rfl := Option.some.inj found
    obtain ⟨token, rest, starts, spelled, -⟩ := accounted
    exact ⟨token, rest, starts, spelled⟩

end

/--
In a recovered tree every opener is accounted for. The leaves of the tree are the tokens before the
end of the input, and what stands in front of a node in the tree is what stands in front of it in
the stream, so the word that decides about an opener is that behind all tokens before it.
-/
theorem recover_accounts_openers (source : Text) (limit : Nat) (tokens : List Token) :
    let stream := tokens.takeWhile (·.kind ≠ .endOfInput)
    let sites := Forest.sites .start (recover source limit tokens).1.children
    sites.filterMap (·.node.leaf?) = stream ∧
      ∀ site ∈ sites, OpenersAccounted source limit site ∧
        ∃ behind, stream = site.place.before ++ site.node.leaves ++ behind := by
  have leaves : Forest.leaves (recover source limit tokens).1.children =
      tokens.takeWhile (·.kind ≠ .endOfInput) :=
    recover_leaves source limit tokens
  dsimp only
  refine ⟨(Forest.filterMap_leaf?_sites _ _).trans leaves, fun site member => ⟨?_, ?_⟩⟩
  · exact (placements_accounted source limit (significantTokens tokens)).of_recover site member
  · obtain ⟨behind, split⟩ := Forest.split_of_mem_sites _ member
    rw [Place.before_start, List.nil_append, leaves] at split
    exact ⟨behind, split⟩

/-- The `if` of an `else if` opens nothing, though the limit leaves room for a block there. -/
theorem recover_accounts_openers_of_else_if :
    let source : Text := "if a\nelse if b\nexit for\nend if".toList
    let place : Place :=
      ⟨leafNodes [⟨.keyword, 0, 2⟩, ⟨.whitespace, 2, 3⟩, ⟨.identifier, 3, 4⟩, ⟨.whitespace, 4, 5⟩,
        ⟨.keyword, 5, 9⟩, ⟨.whitespace, 9, 10⟩], [⟨.conditional, []⟩]⟩
    let site : Site := ⟨place, .leaf ⟨.keyword, 10, 12⟩⟩
    site ∈ Forest.sites .start (recover source 2 (Token.tokenize source)).1.children ∧
      OpenersAccounted source 2 site ∧
      ∃ behind, (Token.tokenize source).takeWhile (·.kind ≠ .endOfInput) =
        place.before ++ [⟨.keyword, 10, 12⟩] ++ behind := by
  intro source place site
  have member : site ∈
      Forest.sites .start (recover source 2 (Token.tokenize source)).1.children := by
    decide +kernel
  exact ⟨member, (recover_accounts_openers source 2 (Token.tokenize source)).2 site member⟩

end BrightBlocks.Block
