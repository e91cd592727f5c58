import BrightBlocks.Outline.Closing
import BrightBlocks.Proofs.Block.Neighbours
import BrightBlocks.Proofs.Block.Placement

/-!
# What the flag of a block says

A block of a source is closed if and only if it holds its own terminator: a word
that closes it alone, or `end`, a gap and the word that opened it. Behind a block
that is left open comes the end of the input, or a terminator that is not its
own. `parse_flags_accounted` says so of every block of a parsed source.

In a list of tokens that comes from elsewhere the gap may be missing.
-/

namespace BrightBlocks.Block

/-- The roles of the tokens that close a block, for each of its terminators. -/
def terminators (kind : Kind) : List (List Role) :=
  [.word "end", .gap, .word kind.opener] :: kind.closers.map fun word => [.word word]

/-- The words of tokens in small letters, with every gap between them read as one space. -/
def spelling (source : Text) (tokens : List Token) : String :=
  String.ofList (tokens.flatMap fun token =>
    if role source token = .gap then [' '] else (token.text source).lowercase)

/--
Children that end in a terminator of a block of the given kind. The tokens `before` are those in
front of the children, and no phrase takes the terminator in.
-/
inductive HoldsTerminator (source : Text) (kind : Kind) (before : List Token) :
    List Node → Prop where
  | intro {front : List Node} {back : List Token}
      (roles : back.map (role source) ∈ terminators kind)
      (listed : spelling source back ∈ Outline.closingVariants kind.opener.toList)
      (free : (trail source none (before ++ Forest.leaves front)).any (· ∈ phraseLeads) = false) :
      HoldsTerminator source kind before (front ++ leafNodes back)

/-- What the flag of a block says about its children and about the tokens behind it. -/
structure FlagAccounted (source : Text) (before behind : List Token) (block : Block) : Prop where
  closed : block.closed = true → HoldsTerminator source block.kind before block.children
  leftOpen : block.closed = false → ∃ next rest, behind = next :: rest ∧
    (next.kind = .endOfInput ∨
      LeavesOpen source block.kind (trail source none (before ++ Forest.leaves block.children))
        behind)

/-! ## Spellings -/

section

variable {source : Text} {kind : Kind} {token first last gap : Token} {small : String}

theorem lowercase_of_role (spelled : role source token = .word small) :
    (token.text source).lowercase = small.toList := by
  rw [role_eq_role_piece] at spelled
  have word := (isWord_of_role spelled).2
  rw [← word]
  exact String.toList_ofList.symm

theorem closingVariants_opener (kind : Kind) :
    Outline.closingVariants kind.opener.toList = Outline.closingSpellings kind := by
  cases kind <;> decide +kernel

/-- A word that closes a block alone is a spelling that closes it. -/
theorem spelling_of_word (spelled : role source token = .word small)
    (closes : small ∈ kind.closers) :
    spelling source [token] ∈ Outline.closingVariants kind.opener.toList := by
  have text : spelling source [token] = small := by
    simp [spelling, spelled, lowercase_of_role spelled]
  rw [text, closingVariants_opener]
  exact List.mem_cons_of_mem _ closes

/-- The phrase of `end` and the opener is a spelling that closes a block. -/
theorem spelling_of_phrase (starts : role source first = .word "end")
    (blank : role source gap = .gap) (names : role source last = .word kind.opener) :
    spelling source [first, gap, last] ∈ Outline.closingVariants kind.opener.toList := by
  have text : spelling source [first, gap, last] = Outline.endPhrase kind := by
    have phrase : String.ofList ("end".toList ++ ([' '] ++ kind.opener.toList)) =
        Outline.endPhrase kind := by
      cases kind <;> decide
    simpa [spelling, starts, blank, names, lowercase_of_role starts, lowercase_of_role names]
      using phrase
  rw [text, closingVariants_opener]
  exact List.mem_cons_self

end

/-! ## Blocks of a source -/

section

variable {source : Text} {limit : Nat} {kind : Kind}

/-- In a source something stands between `end` and the word behind it. -/
theorem not_adjacent_of_end {before behind : List Token} {first last : Token}
    (split : Token.tokensFrom 0 source = before ++ [first, last] ++ behind)
    (ending : role source first = .word "end") : (role source last).word? = none := by
  have chain := inOrder_tokens source
  rw [split] at chain
  have pair := chain.left_of_append.right_of_append
  exact (List.isChain_pair.mp pair).ending ending

/-- Children that end in a terminator hold one that is spelled out in full. -/
theorem holdsTerminator_of_terminates {before behind back : List Token} {front : List Node}
    (split : Token.tokensFrom 0 source =
      before ++ Forest.leaves (front ++ leafNodes back) ++ behind)
    (terminates :
      Terminates source kind (trail source none (before ++ Forest.leaves front)) back) :
    HoldsTerminator source kind before (front ++ leafNodes back) := by
  obtain ⟨spells, free⟩ := terminates
  cases spells with
  | @phrase first last gap starts blank names =>
    cases blank with
    | absent =>
      have touching : Token.tokensFrom 0 source =
          (before ++ Forest.leaves front) ++ [first, last] ++ behind := by
        simpa using split
      have wordless := not_adjacent_of_end touching starts
      rw [names] at wordless
      contradiction
    | present found =>
      exact .intro (by simp [terminators, starts, found, names])
        (spelling_of_phrase starts found names) free
  | @word token small spelled closes =>
    exact .intro (by simpa [terminators, spelled] using closes) (spelling_of_word spelled closes)
      free

/-- How a block of a stream ends, with the tokens behind it. -/
def EndsInStream (source : Text) (stream : List Token) (site : Site) : Prop :=
  ∀ block ∈ site.node.block?, ∃ behind,
    stream = site.place.before ++ Forest.leaves block.children ++ behind ∧
      Ends source block.kind (trail source none site.place.before) block.children block.closed
        behind

/-- Leaves are no blocks. -/
theorem block?_of_mem_sites_leafNodes {place : Place} {leaves : List Token} {site : Site}
    (member : site ∈ Forest.sites place (leafNodes leaves)) : site.node.block? = none := by
  induction leaves generalizing place with
  | nil => contradiction
  | cons token rest inductionHypothesis =>
    rw [leafNodes, List.map_cons, Forest.sites_leaf_cons, List.mem_cons] at member
    rcases member with rfl | later
    · rfl
    · exact inductionHypothesis later

/-- Whatever a block is placed for, it ends as its flag says. -/
theorem placements_endsInStream (source : Text) (limit : Nat) (stream : List Token) :
    Placements source limit stream (EndsInStream source stream) := by
  have of_leaves : ∀ {place : Place} {leaves : List Token},
      ∀ site ∈ Forest.sites place (leafNodes leaves), EndsInStream source stream site := by
    intro place leaves site member block found
    rw [block?_of_mem_sites_leafNodes member] at found
    contradiction
  have of_leaf : ∀ {place : Place} {token : Token},
      EndsInStream source stream ⟨place, .leaf token⟩ := nofun
  exact
    { block := by
        intro place token kind inner closed singleLine behind _ _ split ends block found
        obtain rfl := Option.some.inj found
        exact ⟨behind, split, ends⟩
      opener := fun _ _ => of_leaf
      header := fun _ _ => of_leaves
      branch := fun _ _ => of_leaves
      terminator := fun _ _ => of_leaves
      flat := fun _ _ => of_leaf
      plain := fun _ => of_leaf }

/-- The end of the input behind the tokens does not change what is found on the line. -/
theorem roleOnLine_append_endOfInput (offset : Int) (tokens : List Token) :
    roleOnLine source (tokens ++ [Token.endOfInput offset]) = roleOnLine source tokens := by
  have ended : role source (Token.endOfInput offset) = .endOfInput := rfl
  match tokens with
  | [] => simp [roleOnLine, ended]
  | [token] => by_cases gap : role source token = .gap <;> simp [roleOnLine, gap, ended]
  | token :: second :: rest => rfl

/-- Behind a block that is left open stands the end of the input, or a terminator of another one. -/
theorem LeavesOpen.with_endOfInput {previous : Option String} {behind : List Token}
    (opens : LeavesOpen source kind previous behind) (offset : Int) :
    ∃ next rest, behind ++ [Token.endOfInput offset] = next :: rest ∧
      (next.kind = .endOfInput ∨
        LeavesOpen source kind previous (behind ++ [Token.endOfInput offset])) := by
  cases opens with
  | ended => exact ⟨_, _, rfl, .inl rfl⟩
  | foreignEnd found other =>
    refine ⟨_, _, rfl, .inr (.foreignEnd found ?_)⟩
    rwa [← roleOnLine_append_endOfInput offset] at other
  | foreignCloser found closer foreign =>
    exact ⟨_, _, rfl, .inr (.foreignCloser found closer foreign)⟩

/--
The flag of every block of a parsed source is accounted for. The blocks are those that walking the
tree meets, and the tokens before and behind a block are those of the source.
-/
theorem parse_flags_accounted (source : Text) (limit : Nat) :
    let sites := Forest.sites .start (parse source limit).children
    sites.filterMap (·.node.block?) = Forest.walk (parse source limit).children ∧
      ∀ site ∈ sites, ∀ block ∈ site.node.block?, ∃ behind,
        Token.tokenize source = site.place.before ++ Forest.leaves block.children ++ behind ∧
          FlagAccounted source site.place.before behind block := by
  refine ⟨Forest.filterMap_block?_sites _ _, fun site member block found => ?_⟩
  have placed := (placements_endsInStream source limit
    (significantTokens (Token.tokenize source))).of_recover site member
  obtain ⟨behind, split, ends⟩ := placed block found
  rw [significantTokens_tokenize] at split
  refine ⟨behind ++ [Token.endOfInput source.length], ?_, ?_, ?_⟩
  · rw [Token.tokenize, split, List.append_assoc]
  · intro closed
    obtain ⟨kind, children, flag, singleLine⟩ := block
    obtain rfl : flag = true := closed
    cases ends with
    | closed terminates =>
      rw [← trail_append] at terminates
      exact holdsTerminator_of_terminates split terminates
  · intro leftOpen
    obtain ⟨kind, children, flag, singleLine⟩ := block
    obtain rfl : flag = false := leftOpen
    cases ends with
    | leftOpen opens =>
      rw [← trail_append] at opens
      exact opens.with_endOfInput _

/-- A conditional is left open by the `end while` that closes the loop around it. -/
theorem parse_flags_accounted_in_loop :
    let source : Text := "while a\nif b\nend while".toList
    let conditional : Block :=
      ⟨.conditional, leafNodes [⟨.keyword, 8, 10⟩, ⟨.whitespace, 10, 11⟩, ⟨.identifier, 11, 12⟩,
        ⟨.whitespace, 12, 13⟩], false, false⟩
    let front : List Node :=
      leafNodes [⟨.keyword, 0, 5⟩, ⟨.whitespace, 5, 6⟩, ⟨.identifier, 6, 7⟩, ⟨.whitespace, 7, 8⟩]
    let loop : Block :=
      ⟨.whileLoop, front ++ conditional.node ::
        leafNodes [⟨.identifier, 13, 16⟩, ⟨.whitespace, 16, 17⟩, ⟨.keyword, 17, 22⟩], true, false⟩
    let inside : Place := ⟨front, [⟨.whileLoop, []⟩]⟩
    let sites := Forest.sites .start (parse source 2).children
    (⟨.start, loop.node⟩ ∈ sites ∧ ∃ behind,
      Token.tokenize source = [] ++ Forest.leaves loop.children ++ behind ∧
        FlagAccounted source [] behind loop) ∧
    (⟨inside, conditional.node⟩ ∈ sites ∧ ∃ behind,
      Token.tokenize source = inside.before ++ Forest.leaves conditional.children ++ behind ∧
        FlagAccounted source inside.before behind conditional) := by
  intro source conditional front loop inside sites
  have outer : (⟨.start, loop.node⟩ : Site) ∈ sites := by decide +kernel
  have inner : (⟨inside, conditional.node⟩ : Site) ∈ sites := by decide +kernel
  exact ⟨⟨outer, (parse_flags_accounted source 2).2 _ outer loop rfl⟩,
    ⟨inner, (parse_flags_accounted source 2).2 _ inner conditional rfl⟩⟩

end

end BrightBlocks.Block
