import BrightBlocks.Proofs.Block.WithoutFiller

/-!
# Comments shape nothing

A source and the same source without its comments have the same blocks and the same
code in them (`parse_withoutComments`). Taking a comment out leaves the tokens
around it as they are: a comment reaches to the end of its line, so that behind it
the text is at an end or goes on with a line break, and no token in front of it is
cut otherwise for that. Only white space in front of a comment and behind it becomes
one token (`pieces_of_lineBreak`).

What a tree shows apart from white space, comments and offsets depends on the
`essence` of its source alone (`code_parse_congr`), and comments are no part of it
(`essence_uncommented`).
-/

namespace BrightBlocks

/-- A source without the text of its comments. -/
def Token.withoutComments (source : Text) : Text :=
  ((tokenize source).filter (!·.kind.isComment)).flatMap (·.text source)

/-- The piece itself, nothing of white space and of comments. -/
def Token.Piece.code? (piece : Token.Piece) : Option Token.Piece :=
  if piece.kind = .whitespace ∨ piece.kind.isComment then none else some piece

/-- What a piece means, and what is seen of it. -/
def Token.Piece.look (piece : Token.Piece) : Block.Role × Option Token.Piece :=
  (piece.role, piece.code?)

/-- A token as a piece, nothing of white space and of comments. -/
def Token.code? (source : Text) (token : Token) : Option Token.Piece :=
  (token.piece source).code?

/-- What is seen of a forest without white space, comments and offsets. -/
def Forest.code (source : Text) (forest : List Node) : List (Shape Token.Piece) :=
  Forest.shape (Token.code? source) forest

namespace Token

/-- The text of all pieces that are no comments. -/
def uncommented (text : Text) : Text :=
  ((pieces text).filter (!·.kind.isComment)).flatMap (·.text)

/-- A source without comments consists of the other pieces. -/
theorem withoutComments_eq (source : Text) : withoutComments source = uncommented source := by
  have nothing : (endOfInput source.length).text source = [] := by
    simp [endOfInput, text, slice_ofNat]
  have ended : [endOfInput source.length].filter (!·.kind.isComment) =
      [endOfInput source.length] := rfl
  rw [withoutComments, tokenize, List.filter_append, List.flatMap_append, ended,
    List.flatMap_singleton, nothing, List.append_nil, uncommented, ← map_piece_tokensFrom_zero,
    List.filter_map, List.flatMap_map]
  rfl

/-! ## Taking comments out -/

section

variable {first : Char} {body rest : Text} {kind : Kind}

theorem uncommented_nil : uncommented [] = [] := by
  rw [uncommented, pieces_nil]
  rfl

theorem uncommented_of_comment (cut : Cut first body rest.head? kind)
    (comment : kind.isComment = true) :
    uncommented (first :: (body ++ rest)) = uncommented rest := by
  simp [uncommented, pieces_of_cut cut, comment]

theorem uncommented_of_cut (cut : Cut first body rest.head? kind)
    (plain : kind.isComment = false) :
    uncommented (first :: (body ++ rest)) = first :: (body ++ uncommented rest) := by
  simp [uncommented, pieces_of_cut cut, plain]

/-- Without comments a text ends, or starts as it did, or starts with a line break instead. -/
theorem head?_uncommented (text : Text) :
    (uncommented text).head? = none ∨ (uncommented text).head? = text.head? ∨
      text ≠ [] ∧ (uncommented text).head? = some '\n' := by
  induction text using cut_induction with
  | nil => exact .inl (by rw [uncommented_nil]; rfl)
  | cut first body rest kind cut inductionHypothesis =>
    cases comment : kind.isComment with
    | false =>
      rw [uncommented_of_cut cut comment]
      exact .inr (.inl rfl)
    | true =>
      rw [uncommented_of_comment cut comment]
      have ends : ∀ char ∈ rest.head?, char = '\n' := fun char found => by
        simpa using (cut.line comment).stops char found
      rcases inductionHypothesis with nothing | same | ⟨-, breaks⟩
      · exact .inl nothing
      · cases found : rest.head? with
        | none => exact .inl (same.trans found)
        | some char =>
          rw [found, ends char found] at same
          exact .inr (.inr ⟨List.cons_ne_nil _ _, same⟩)
      · exact .inr (.inr ⟨List.cons_ne_nil _ _, breaks⟩)

/--
A token is cut in front of a text as it was before the comments of the text were taken out, but
white space may go on in front of a line break.
-/
theorem cut_uncommented (cut : Cut first body rest.head? kind) :
    Cut first body (uncommented rest).head? kind ∨
      kind = .whitespace ∧ (uncommented rest).head? = some '\n' := by
  rcases head?_uncommented rest with nothing | same | ⟨nonempty, breaks⟩
  · rw [nothing]
    exact .inl cut.ends
  · rw [same]
    exact .inl cut
  · by_cases white : kind = .whitespace
    · exact .inr ⟨white, breaks⟩
    · obtain ⟨next, more, rfl⟩ := List.exists_cons_of_ne_nil nonempty
      rw [breaks]
      exact .inl (Cut.breaks cut white)

/-- White space joins the line break that a text starts with. -/
theorem pieces_of_lineBreak {text : Text} {next : Option Char}
    (cut : Cut first body next .whitespace) (breaks : text.head? = some '\n') :
    ∃ tail others, pieces text = ⟨.whitespace, '\n' :: tail⟩ :: others ∧
      pieces (first :: (body ++ text)) =
        ⟨.whitespace, first :: (body ++ '\n' :: tail)⟩ :: others := by
  induction text using cut_induction with
  | nil => contradiction
  | cut second tail rest kind behind _ =>
    obtain rfl := Option.some.inj breaks
    obtain rfl := behind.kind_of_lineBreak
    have joined : first :: (body ++ '\n' :: (tail ++ rest)) =
        first :: (body ++ '\n' :: tail ++ rest) := by
      rw [List.append_assoc, List.cons_append]
    refine ⟨tail, pieces rest, pieces_of_cut behind, ?_⟩
    rw [joined, pieces_of_cut (cut.blank_append behind)]

end

end Token

namespace Block

open Token (Piece pieces uncommented)

/-! ## What is left of the pieces -/

/-- Of filler nothing is seen. -/
theorem code?_of_filler {piece : Piece} (filler : piece.role.isFiller = true) :
    piece.code? = none := by
  apply if_pos
  cases found : piece.role with
  | gap => exact .inl (whitespace_of_role (.inl found))
  | lineBreak => exact .inl (whitespace_of_role (.inr found))
  | comment => exact .inr (isComment_of_role found)
  | _ =>
    rw [found] at filler
    contradiction

/-- Line breaks all look the same. -/
theorem look_of_lineBreak {piece : Piece} (breaks : piece.role = .lineBreak) :
    piece.look = (.lineBreak, none) := by
  rw [Piece.look, code?_of_filler (Role.isFiller_of_lineBreak breaks), breaks]

theorem role_of_isComment {text : Text} {kind : Token.Kind} (comment : kind.isComment = true) :
    (Piece.mk kind text).role = .comment := by
  cases kind <;> first | rfl | contradiction

theorem role_of_whitespace (text : Text) :
    (Piece.mk .whitespace text).role = if text.contains '\n' then .lineBreak else .gap := rfl

/-- What is left of a text, as far as it is seen. -/
def essence (fresh : Bool) (pieces : List Piece) : List (Role × Option Piece) :=
  condense Prod.fst fresh (pieces.map Piece.look)

/-- An item in front of lists of which the same is left. -/
theorem condense_cons_congr {β : Type} {meaning : β → Role} {items others : List β}
    (same : ∀ fresh, condense meaning fresh items = condense meaning fresh others) (item : β)
    (fresh : Bool) :
    condense meaning fresh (item :: items) = condense meaning fresh (item :: others) := by
  obtain passing | breaks | solid := (meaning item).filler_cases
  · rw [condense_of_passing passing, condense_of_passing passing, same]
  · rw [condense_of_lineBreak breaks, condense_of_lineBreak breaks, same]
  · rw [condense_of_solid solid, condense_of_solid solid, same]

/-- Of a line break with white space in front of it no more is left than of one token. -/
theorem essence_merge {blank lineBreak whole : Piece}
    (white : blank.role = .gap ∨ blank.role = .lineBreak) (breaks : lineBreak.role = .lineBreak)
    (merged : whole.role = .lineBreak) (fresh : Bool) (others : List Piece) :
    essence fresh (blank :: lineBreak :: others) = essence fresh (whole :: others) := by
  have second : lineBreak.look.1 = .lineBreak := breaks
  have single : whole.look.1 = .lineBreak := merged
  simp only [essence, List.map_cons]
  rw [condense_of_lineBreak single]
  rcases white with gap | broken
  · have first : blank.look.1 = .gap := gap
    rw [condense_of_passing (.inl first), condense_of_lineBreak second, look_of_lineBreak breaks,
      look_of_lineBreak merged]
  · have first : blank.look.1 = .lineBreak := broken
    rw [condense_of_lineBreak first, condense_of_lineBreak second, look_of_lineBreak broken,
      look_of_lineBreak merged]
    rfl

/-- Of a text the same is left without its comments. -/
theorem essence_uncommented (text : Text) (fresh : Bool) :
    essence fresh (pieces (uncommented text)) = essence fresh (pieces text) := by
  induction text using Token.cut_induction generalizing fresh with
  | nil => rw [Token.uncommented_nil]
  | cut first body rest kind cut inductionHypothesis =>
    rw [Token.pieces_of_cut cut]
    have carried (piece : Piece) : essence fresh (piece :: pieces (uncommented rest)) =
        essence fresh (piece :: pieces rest) :=
      condense_cons_congr inductionHypothesis piece.look fresh
    cases comment : kind.isComment with
    | true =>
      have passes : (Piece.mk kind (first :: body)).look.1 = .comment := role_of_isComment comment
      rw [Token.uncommented_of_comment cut comment, inductionHypothesis]
      exact (condense_of_passing (.inr passes) _ _).symm
    | false =>
      rw [Token.uncommented_of_cut cut comment, ← carried]
      rcases Token.cut_uncommented cut with seam | ⟨rfl, breaks⟩
      · rw [Token.pieces_of_cut seam]
      · obtain ⟨tail, others, split, joined⟩ := Token.pieces_of_lineBreak cut breaks
        rw [split, joined]
        refine (essence_merge ?_ ?_ ?_ fresh others).symm
        · rw [role_of_whitespace]
          split
          · exact .inr rfl
          · exact .inl rfl
        · simp [role_of_whitespace]
        · simp [role_of_whitespace]

/-! ## Trees of sources of which the same is left -/

/-- What is left of the tokens of a source is what is left of its pieces. -/
theorem essence_tokens (source : Text) (fresh : Bool) :
    (condense (role source) fresh (Token.tokensFrom 0 source)).map
      (fun token => (token.piece source).look) = essence fresh (pieces source) := by
  have meaning : role source = fun token => (token.piece source).look.1 :=
    funext fun token => role_eq_role_piece source token
  rw [meaning, map_condense, essence, ← Token.map_piece_tokensFrom_zero, List.map_map]
  rfl

/-- A source is read as what is left of it without filler. -/
theorem run_condense (source : Text) (limit : Nat) :
    Machine.Alike (Token.code? source) (Token.code? source) []
      (Machine.start.run source limit (Token.tokensFrom 0 source))
      (Machine.start.run source limit
        (condense (role source) true (Token.tokensFrom 0 source))) := by
  have standing : Machine.Beside (Token.code? source) source true (Token.tokensFrom 0 source)
      Machine.start Machine.start :=
    { alike := .start
      anchored := Machine.anchored_of_body rfl
      served := .of_idle (Machine.not_waiting_of_body rfl)
      starts := fun _ => ⟨rfl, rfl⟩ }
  refine standing.run (inOrder_tokens source) fun token filler => ?_
  rw [role_eq_role_piece] at filler
  exact code?_of_filler filler

/-- Sources of which the same is left have the same blocks and the same code in them. -/
theorem code_parse_congr {source source' : Text}
    (same : essence true (pieces source) = essence true (pieces source')) (limit : Nat) :
    Forest.code source (parse source limit).children =
      Forest.code source' (parse source' limit).children := by
  let tokens := condense (role source) true (Token.tokensFrom 0 source)
  let tokens' := condense (role source') true (Token.tokensFrom 0 source')
  have looks : tokens.map (fun token => (token.piece source).look) =
      tokens'.map fun token => (token.piece source').look :=
    (essence_tokens source true).trans (same.trans (essence_tokens source' true).symm)
  have alike : ReadsAlike (Token.code? source) (Token.code? source') source source' [] []
      tokens tokens' := by
    refine .of_map_eq looks fun token token' equal => ?_
    obtain ⟨meaning, view⟩ := Prod.mk.inj equal
    exact ⟨by rw [role_eq_role_piece, role_eq_role_piece, meaning], view⟩
  rw [parse_children, parse_children]
  calc Forest.code source (Machine.start.run source limit (Token.tokensFrom 0 source)).root
    _ = Forest.code source (Machine.start.run source limit tokens).root :=
      (run_condense source limit).root
    _ = Forest.code source' (Machine.start.run source' limit tokens').root :=
      (Machine.Alike.start.run limit alike).root
    _ = Forest.code source' (Machine.start.run source' limit
          (Token.tokensFrom 0 source')).root :=
      (run_condense source' limit).root.symm

/-- A source without its comments has the same blocks and the same code in them. -/
theorem parse_withoutComments (source : Text) (limit : Nat) :
    Forest.code (Token.withoutComments source)
        (parse (Token.withoutComments source) limit).children =
      Forest.code source (parse source limit).children := by
  rw [Token.withoutComments_eq]
  exact code_parse_congr (essence_uncommented source true) limit

/-- The white space on both sides of the second comment becomes one token. -/
example : Token.pieces (Token.withoutComments "a 'b\n  rem c\n\nd".toList) =
    [⟨.identifier, "a".toList⟩, ⟨.whitespace, " \n  \n\n".toList⟩, ⟨.identifier, "d".toList⟩] := by
  decide +kernel

end Block

end BrightBlocks
