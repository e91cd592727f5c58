import BrightBlocks.Block.Vocabulary
import BrightBlocks.Proofs.Token.Piece

/-!
# Tokens side by side

Tokens of a source do not follow each other in any order. White space is taken as
a whole, so that no more of it comes next; a comment reaches to the end of its
line; and a word ends where no letter follows, so that `end` needs something
between it and the word behind it. `Role.Adjoins` states these three for the
roles of two tokens, and `inOrder_tokens` says that they hold all along a source.

Lists of tokens that come from elsewhere need not keep to this.
-/

namespace BrightBlocks

open Block (Role)

/-- What a piece of text means for the block structure. -/
def Token.Piece.role (piece : Token.Piece) : Role :=
  match piece.kind with
  | .endOfInput => .endOfInput
  | .dot => .dot
  | .whitespace => if piece.text.contains '\n' then .lineBreak else .gap
  | kind =>
    if kind.isWord then .word (Token.smallWord piece.text)
    else if kind.isComment then .comment
    else .other

namespace Block

open Token (Piece Cut pieces)

/-- The role of a token is that of its kind and its text. -/
theorem role_eq_role_piece (source : Text) (token : Token) :
    role source token = (token.piece source).role := by
  obtain ⟨kind, start, stop⟩ := token
  cases kind <;> simp [role, Piece.role, Token.piece, Token.breaksLine]

/-- What holds of the roles of two tokens of a source that touch each other. -/
structure Role.Adjoins (left right : Role) : Prop where
  blank : left = .gap ∨ left = .lineBreak → right ≠ .gap ∧ right ≠ .lineBreak
  comment : left = .comment → right = .lineBreak
  ending : left = .word "end" → right.word? = none

/-! ## What a role says about the kind -/

theorem whitespace_of_role {piece : Piece}
    (white : piece.role = .gap ∨ piece.role = .lineBreak) : piece.kind = .whitespace := by
  obtain ⟨kind, text⟩ := piece
  cases kind <;> simp [Piece.role, Token.Kind.isWord, Token.Kind.isComment] at white ⊢

theorem isComment_of_role {piece : Piece} (comment : piece.role = .comment) :
    piece.kind.isComment = true := by
  obtain ⟨kind, text⟩ := piece
  cases kind <;> simp [Piece.role, Token.Kind.isWord, Token.Kind.isComment] at comment ⊢
  all_goals split at comment <;> contradiction

theorem isWord_of_role {piece : Piece} {small : String} (word : piece.role = .word small) :
    piece.kind.isWord = true ∧ Token.smallWord piece.text = small := by
  obtain ⟨kind, text⟩ := piece
  cases kind <;> simp [Piece.role, Token.Kind.isWord, Token.Kind.isComment] at word ⊢
  all_goals first | exact word | (split at word <;> contradiction)

/-! ## Neighbours -/

section

variable {first : Char} {body : Text} {next : Option Char} {kind : Token.Kind}

/-- A token that starts with a line break is one. -/
theorem role_of_lineBreak (cut : Cut '\n' body next kind) :
    (Piece.mk kind ('\n' :: body)).role = .lineBreak := by
  rw [cut.kind_of_lineBreak]
  simp [Piece.role]

/-- The small form of a word with a type designator is not `end`. -/
theorem smallWord_ne_end {letters : Text} {designator : Char}
    (designated : designator ∈ Token.typeDesignators) :
    Token.smallWord (letters ++ [designator]) ≠ "end" := by
  have unchanged : ∀ char ∈ Token.typeDesignators,
      char ≠ 'Σ' ∧ Text.lowercaseChar char = [char] ∧ char ≠ 'd' :=
    List.all_iff_forall_prop.mp (by decide +kernel)
  obtain ⟨plain, same, other⟩ := unchanged designator designated
  obtain ⟨front, small⟩ := Text.lowercase_append_singleton plain letters
  intro spelled
  have text : front ++ [designator] = "end".toList := by
    rw [← same, ← small]
    exact (String.toList_ofList).symm.trans (congrArg String.toList spelled)
  have last := congrArg List.getLast? text
  rw [List.getLast?_concat] at last
  exact other (Option.some.inj last)

/-- What starts a name continues the name in front of it, or designates its type. -/
theorem startsName_cases {char : Char} (starts : Token.startsName char = true) :
    Token.continuesName char = true ∨ char ∈ Token.typeDesignators := by
  simp only [Token.startsName, Bool.or_eq_true, decide_eq_true_eq] at starts
  rcases starts with (letter | rfl) | rfl
  · exact .inl (by simp [Token.continuesName, Token.isWordChar, letter])
  · exact .inl (by decide)
  · exact .inr (by decide)

end

/-- Pieces of a text that touch each other have roles that adjoin. -/
theorem adjoins_of_fits {left right : Piece} {next : Option Char}
    (touches : left.Fits right.text.head?) (fits : right.Fits next) :
    left.role.Adjoins right.role := by
  obtain @⟨second, tail, other, behind⟩ := fits
  obtain @⟨first, body, kind, cut⟩ := touches
  have cut : Cut first body (some second) kind := cut
  constructor
  · intro white
    have stops := (cut.blanks (whitespace_of_role white)).2.stops second rfl
    rw [← not_or]
    intro more
    have blank := (behind.blanks (whitespace_of_role more)).1
    rw [stops] at blank
    contradiction
  · intro comment
    have stops := (cut.line (isComment_of_role comment)).stops second rfl
    obtain rfl : second = '\n' := by simpa using stops
    exact role_of_lineBreak behind
  · intro ending
    obtain ⟨word, spelled⟩ := isWord_of_role ending
    cases found : (Piece.mk other (second :: tail)).role with
    | word small =>
      have starts := (behind.word (isWord_of_role found).1).1
      rcases (cut.word word).2 with stops | ⟨letters, designator, rfl, designated⟩
      · obtain ⟨no_letter, no_designator⟩ := stops second rfl
        rcases startsName_cases starts with continues | listed
        · rw [no_letter] at continues
          contradiction
        · exact absurd listed no_designator
      · have other : Token.smallWord (first :: letters ++ [designator]) ≠ "end" :=
          smallWord_ne_end designated
        exact absurd spelled other
    | _ => rfl

theorem pieces_adjoin (text : Text) :
    (pieces text).IsChain fun left right => left.role.Adjoins right.role := by
  refine (Token.pieces_chain text).imp_of_mem_imp ?_
  intro left right _ member touches
  obtain ⟨next, fits⟩ := Token.fits_of_mem_pieces member
  exact adjoins_of_fits touches fits

/-- The order of the tokens of a source, as far as their roles show it. -/
def InOrder (source : Text) (tokens : List Token) : Prop :=
  tokens.IsChain fun left right => (role source left).Adjoins (role source right)

/-- The roles of the tokens of a source adjoin, one by one. -/
theorem inOrder_tokens (source : Text) : InOrder source (Token.tokensFrom 0 source) := by
  have chain := pieces_adjoin source
  rw [← Token.map_piece_tokensFrom_zero, List.isChain_map] at chain
  simpa only [InOrder, role_eq_role_piece] using chain

end Block

end BrightBlocks
