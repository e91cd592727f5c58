import BrightBlocks.Block.Recovery

/-!
# How headers, bodies and files are read

`HeaderReads`, `BodyReads` and `ForestReads` list, one constructor for each case,
what reading a header, a body or a file can do with the next token and what it
goes on with. They hold of `header`, `body` and `forest` (`header_reads`,
`body_reads`, `forest_reads`), so a statement about all runs is an induction over
their cases, without a bound on the recursion.

A case says which token was taken and what it means there. How far a branch or a
terminator reaches is left to their own definitions.
-/

namespace BrightBlocks.Block

/-- What a header or a condition yields, by what it does with its next token. -/
inductive HeaderReads (source : Text) (kind : Kind) (phase : Phase) : Cursor → Header → Prop where
  | ended {cursor : Cursor} (stuck : cursor.advance? source = none) :
      HeaderReads source kind phase cursor ⟨[], false, cursor⟩
  | lineBreak {cursor after : Cursor} {token : Token}
      (taken : cursor.advance? source = some (token, after))
      (broken : role source token = .lineBreak) :
      HeaderReads source kind phase cursor ⟨[token], false, after⟩
  | atThen {cursor after : Cursor} {token : Token}
      (taken : cursor.advance? source = some (token, after))
      (found : (role source token).structural cursor.previous = some "then")
      (conditional : kind = .conditional) :
      HeaderReads source kind phase cursor (headerAtThen source phase token after)
  | cut {cursor after : Cursor} {token : Token} {word : String}
      (taken : cursor.advance? source = some (token, after))
      (found : (role source token).structural cursor.previous = some word)
      (boundary : word ∈ phase.boundaries kind) :
      HeaderReads source kind phase cursor
        ⟨[], false, (cursor.fill 1).note (.headerCutShort kind word token.start)⟩
  | plain {cursor after : Cursor} {token : Token} {rest : Header}
      (taken : cursor.advance? source = some (token, after))
      (unbroken : role source token ≠ .lineBreak)
      (inside : ∀ word, (role source token).structural cursor.previous = some word →
        ¬ (word = "then" ∧ kind = .conditional) ∧ word ∉ phase.boundaries kind)
      (further : HeaderReads source kind phase after rest) :
      HeaderReads source kind phase cursor (rest.prepend [token])

/-- Every header is read in the listed way. -/
theorem header_reads (source : Text) (kind : Kind) (phase : Phase) (cursor : Cursor) :
    HeaderReads source kind phase cursor (header source kind phase cursor) := by
  fun_induction header source kind phase cursor with
  | case1 cursor stuck => exact .ended stuck
  | case2 cursor token after taken tokenRole broken => exact .lineBreak taken broken
  | case3 cursor token after taken tokenRole unbroken word at_then =>
    exact .atThen taken at_then.1 at_then.2
  | case4 cursor token after taken tokenRole unbroken word not_then boundary found =>
    obtain ⟨found, inside⟩ := Option.filter_eq_some_iff.mp found
    exact .cut taken found (by simpa using inside)
  | case5 cursor token after taken tokenRole unbroken word not_then outside rest further =>
    refine .plain taken unbroken (fun small found => ?_) further
    rw [Option.filter_eq_none_iff] at outside
    exact ⟨fun both => not_then ⟨found.trans (congrArg some both.1), both.2⟩,
      by simpa using outside small found⟩

/-! ## What a word means in a body -/

theorem closers_of_kind {kind : Kind} {word : String} (closes : word ∈ kind.closers) :
    word ∈ closers :=
  List.mem_flatMap.mpr ⟨kind, by cases kind <;> decide, closes⟩

/-- What a structural word is where a body takes a turn. -/
def Turn.Means (kind : Kind) (word : Option String) : Turn → Prop
  | .branch small => word = some small ∧ kind = .conditional ∧ small ∈ elseWords
  | .tryEnd => word = some "end"
  | .close => ∃ small, word = some small ∧ small ∈ kind.closers
  | .defer small => word = some small ∧ small ∈ closers ∧ small ∉ kind.closers
  | .nest small inner => word = some small ∧ Kind.ofOpener? small = some inner
  | .plain => ∀ small, word = some small → (kind = .conditional → small ∉ elseWords) ∧
      small ≠ "end" ∧ small ∉ closers ∧ Kind.ofOpener? small = none

/-- Every turn is taken for what its word is. -/
theorem turn_means (kind : Kind) (word : Option String) : (turn kind word).Means kind word := by
  cases word with
  | none =>
    intro small found
    contradiction
  | some small =>
    by_cases is_else : kind = .conditional ∧ small ∈ elseWords
    · simp only [turn, if_pos is_else]
      exact ⟨rfl, is_else⟩
    by_cases is_end : small = "end"
    · simp only [turn, if_neg is_else, if_pos is_end]
      exact congrArg some is_end
    by_cases own : small ∈ kind.closers
    · simp only [turn, if_neg is_else, if_neg is_end, if_pos own]
      exact ⟨small, rfl, own⟩
    by_cases foreign : small ∈ closers
    · simp only [turn, if_neg is_else, if_neg is_end, if_neg own, if_pos foreign]
      exact ⟨rfl, foreign, own⟩
    simp only [turn, if_neg is_else, if_neg is_end, if_neg own, if_neg foreign]
    cases opens : Kind.ofOpener? small with
    | some inner => exact ⟨rfl, opens⟩
    | none =>
      intro other same
      obtain rfl := Option.some.inj same
      exact ⟨fun conditional listed => is_else ⟨conditional, listed⟩, is_end, foreign, opens⟩

theorem means_of_turn {kind : Kind} {word : Option String} {taken : Turn}
    (found : turn kind word = taken) : taken.Means kind word :=
  found ▸ turn_means kind word

/-! ## Bodies and files -/

/-- What the body of a block yields, by what it does with its next token. -/
inductive BodyReads (source : Text) (limit : Nat) : Kind → Cursor → Body → Prop where
  | ended {kind : Kind} {cursor : Cursor} (stuck : cursor.advance? source = none) :
      BodyReads source limit kind cursor ⟨[], false, cursor.note (.leftOpen kind)⟩
  | branch {kind : Kind} {cursor after : Cursor} {token : Token} {word : String} {rest : Body}
      (taken : cursor.advance? source = some (token, after))
      (found : turn kind ((role source token).structural cursor.previous) = .branch word)
      (further : BodyReads source limit kind (branch source kind (some word) cursor).cursor rest) :
      BodyReads source limit kind cursor
        (rest.prepend (leafNodes (branch source kind (some word) cursor).leaves))
  | tryEnd {kind : Kind} {cursor after : Cursor} {token : Token}
      (taken : cursor.advance? source = some (token, after))
      (found : turn kind ((role source token).structural cursor.previous) = .tryEnd) :
      BodyReads source limit kind cursor
        ⟨leafNodes ((closeWithEnd source kind cursor).1.getD []),
          (closeWithEnd source kind cursor).1.isSome, (closeWithEnd source kind cursor).2⟩
  | close {kind : Kind} {cursor after : Cursor} {token : Token}
      (taken : cursor.advance? source = some (token, after))
      (found : turn kind ((role source token).structural cursor.previous) = .close) :
      BodyReads source limit kind cursor ⟨[.leaf token], true, after⟩
  | defer {kind : Kind} {cursor after : Cursor} {token : Token} {word : String}
      (taken : cursor.advance? source = some (token, after))
      (found : turn kind ((role source token).structural cursor.previous) = .defer word) :
      BodyReads source limit kind cursor
        ⟨[], false, (cursor.fill 1).note (.deferredCloser kind word token.start)⟩
  | nest {kind inner : Kind} {cursor after : Cursor} {token : Token} {word : String}
      {nested rest : Body}
      (taken : cursor.advance? source = some (token, after))
      (found : turn kind ((role source token).structural cursor.previous) = .nest word inner)
      (allowed : cursor.depth < limit)
      (inside : BodyReads source limit inner (header source inner .opening after.enter).cursor
        nested)
      (further : BodyReads source limit kind nested.cursor.leave rest) :
      BodyReads source limit kind cursor
        (rest.prepend [.block inner
          (leafNodes (token :: (header source inner .opening after.enter).leaves) ++
            nested.children)
          nested.closed (header source inner .opening after.enter).singleLine])
  | flat {kind inner : Kind} {cursor after : Cursor} {token : Token} {word : String} {rest : Body}
      (taken : cursor.advance? source = some (token, after))
      (found : turn kind ((role source token).structural cursor.previous) = .nest word inner)
      (full : ¬ cursor.depth < limit)
      (further : BodyReads source limit kind (after.note (.keptFlat limit word token.start))
        rest) :
      BodyReads source limit kind cursor (rest.prepend [.leaf token])
  | plain {kind : Kind} {cursor after : Cursor} {token : Token} {rest : Body}
      (taken : cursor.advance? source = some (token, after))
      (found : turn kind ((role source token).structural cursor.previous) = .plain)
      (further : BodyReads source limit kind after rest) :
      BodyReads source limit kind cursor (rest.prepend [.leaf token])

/-- Every body is read in the listed way. -/
theorem body_reads (source : Text) (limit : Nat) (kind : Kind) (cursor : Cursor) :
    BodyReads source limit kind cursor (body source limit kind cursor) := by
  -- the recursion of the definition: fewer tokens are ahead of every cursor it goes on with
  induction size : cursor.ahead.length using Nat.strongRecOn generalizing kind cursor with
  | ind size inductionHypothesis =>
    subst size
    have smaller (next : Cursor) (fewer : next.ahead.length < cursor.ahead.length) (kind : Kind) :
        BodyReads source limit kind next (body source limit kind next) :=
      inductionHypothesis _ fewer kind next rfl
    rw [body, bodyWithin]
    split
    · rename_i stuck
      exact .ended stuck
    rename_i token after taken
    have step : after.ahead.length < cursor.ahead.length := by
      simp [Cursor.ahead_of_advance? taken]
    cases found : turn kind ((role source token).structural cursor.previous) with
    | branch word => exact .branch taken found (smaller _ (branch_ahead_lt taken) kind)
    | tryEnd => exact .tryEnd taken found
    | close => exact .close taken found
    | defer word => exact .defer taken found
    | plain => exact .plain taken found (smaller _ step kind)
    | nest word inner =>
      dsimp only
      split
      · rename_i allowed
        have opened := header_ahead_le source inner .opening after.enter
        have closed := (bodyWithin source limit inner
          (header source inner .opening after.enter).cursor).property
        rw [Cursor.ahead_enter] at opened
        exact .nest taken found allowed (smaller _ (by omega) inner)
          (smaller _ (by rw [Cursor.ahead_leave]; omega) kind)
      · rename_i full
        exact .flat taken found full (smaller _ (by simpa using step) kind)

/-- What reading statements up to the end of the stream yields, by its next token. -/
inductive ForestReads (source : Text) (limit : Nat) : Cursor → List Node → Cursor → Prop where
  | ended {cursor : Cursor} (nothing : cursor.ahead = []) :
      ForestReads source limit cursor [] cursor
  | nest {cursor after last : Cursor} {token : Token} {word : String} {kind : Kind}
      {nested : Body} {rest : List Node}
      (taken : cursor.advance? source = some (token, after))
      (found : (role source token).structural cursor.previous = some word)
      (opens : Kind.ofOpener? word = some kind) (allowed : cursor.depth < limit)
      (inside : BodyReads source limit kind (header source kind .opening after.enter).cursor
        nested)
      (further : ForestReads source limit nested.cursor.leave rest last) :
      ForestReads source limit cursor
        (.block kind
          (leafNodes (token :: (header source kind .opening after.enter).leaves) ++
            nested.children)
          nested.closed (header source kind .opening after.enter).singleLine :: rest) last
  | flat {cursor after last : Cursor} {token : Token} {word : String} {kind : Kind}
      {rest : List Node}
      (taken : cursor.advance? source = some (token, after))
      (found : (role source token).structural cursor.previous = some word)
      (opens : Kind.ofOpener? word = some kind) (full : ¬ cursor.depth < limit)
      (further : ForestReads source limit (after.note (.keptFlat limit word token.start)) rest
        last) :
      ForestReads source limit cursor (.leaf token :: rest) last
  | plain {cursor after last : Cursor} {token : Token} {rest : List Node}
      (taken : cursor.advance? source = some (token, after))
      (found : ((role source token).structural cursor.previous).bind Kind.ofOpener? = none)
      (further : ForestReads source limit after rest last) :
      ForestReads source limit cursor (.leaf token :: rest) last

/-- The structural word of a cursor is that of the token it takes next. -/
theorem structuralWord_eq {source : Text} {cursor after : Cursor} {token : Token}
    (taken : cursor.advance? source = some (token, after)) :
    cursor.structuralWord source =
      ((role source token).structural cursor.previous, cursor.fill 1) := by
  rw [Cursor.structuralWord, Cursor.current_eq taken]
  rfl

/-- Every file is read in the listed way. -/
theorem forest_reads (source : Text) (limit : Nat) (cursor : Cursor) :
    ForestReads source limit cursor (forest source limit cursor).1
      (forest source limit cursor).2 := by
  induction size : cursor.ahead.length using Nat.strongRecOn generalizing cursor with
  | ind size inductionHypothesis =>
    subst size
    rw [forest]
    split
    · rename_i nothing
      exact .ended nothing
    rename_i some_ahead
    cases taken : cursor.advance? source with
    | none => exact absurd (Cursor.advance?_eq_none_iff.mp taken) some_ahead
    | some pair =>
      obtain ⟨token, after⟩ := pair
      have drawn : (cursor.fill 1).advance? source = some (token, after) := by
        rw [Cursor.advance?_fill, taken]
      have fewer : (statement source limit ((role source token).structural cursor.previous)
          (cursor.fill 1)).2.ahead.length < cursor.ahead.length := by
        rw [← Cursor.ahead_fill cursor 1]
        exact statement_ahead_lt (by simpa using some_ahead)
      have further := inductionHypothesis _ fewer _ rfl
      simp only [structuralWord_eq taken]
      cases opens : ((role source token).structural cursor.previous).bind Kind.ofOpener? with
      | none =>
        rw [statement_of_not_opener opens, Cursor.take_eq drawn] at further ⊢
        exact .plain taken opens further
      | some kind =>
        obtain ⟨word, found, opens⟩ := Option.bind_eq_some_iff.mp opens
        rw [found] at further ⊢
        by_cases allowed : (cursor.fill 1).depth < limit
        · rw [statement_of_opener opens allowed, block, Cursor.take_enter_eq drawn] at further ⊢
          exact .nest taken found opens allowed (body_reads source limit kind _) further
        · rw [statement_of_full opens allowed drawn] at further ⊢
          exact .flat taken found opens allowed further

end BrightBlocks.Block
