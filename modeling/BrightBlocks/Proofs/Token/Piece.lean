import Mathlib.Data.List.Chain
import BrightBlocks.Proofs.Token.CutShape

/-!
# Pieces of a text

A piece is what a token is apart from where it stands: a kind and a text.
`pieces` cuts a text into pieces, `tokensFrom` places them. A proof about all
tokens of a text goes from cut to cut (`cut_induction`), so that each step has the
characters of one token at hand and the one behind them.

Where the tokens stand is no part of a piece: the same text has the same pieces
at every offset of every source (`map_piece_tokensFrom`).
-/

namespace BrightBlocks.Token

/-- A token without its place. -/
structure Piece where
  kind : Kind
  text : Text
  deriving DecidableEq, Repr

/-- The kind and the text of a token. -/
def piece (source : Text) (token : Token) : Piece :=
  ⟨token.kind, token.text source⟩

/-- The pieces that a text is cut into. -/
def pieces : Text → List Piece
  | [] => []
  | first :: rest =>
    let found := lexeme first rest
    ⟨found.kind, first :: rest.take found.tail⟩ :: pieces (rest.drop found.tail)
  termination_by text => text.length
  decreasing_by simp only [List.length_cons, List.length_drop]; omega

/-! ## From cut to cut -/

/-- What holds of the empty text, and of a token in front of a text if it holds of the text. -/
@[elab_as_elim]
theorem cut_induction {motive : Text → Prop} (nil : motive [])
    (cut : ∀ (first : Char) (body rest : Text) (kind : Kind), Cut first body rest.head? kind →
      motive rest → motive (first :: (body ++ rest)))
    (text : Text) : motive text := by
  fun_induction pieces text with
  | case1 => exact nil
  | case2 first rest found inductionHypothesis =>
    have step := cut first _ _ _ (cut_lexeme first rest) inductionHypothesis
    rwa [List.take_append_drop] at step

section

variable {first : Char} {body rest : Text} {kind : Kind}

theorem pieces_of_cut (cut : Cut first body rest.head? kind) :
    pieces (first :: (body ++ rest)) = ⟨kind, first :: body⟩ :: pieces rest := by
  rw [pieces, lexeme_of_cut cut, List.take_left, List.drop_left]

theorem tokensFrom_of_cut (cut : Cut first body rest.head? kind) (position : Nat) :
    tokensFrom position (first :: (body ++ rest)) =
      ⟨kind, position, (position + 1 + body.length : Nat)⟩ ::
        tokensFrom (position + 1 + body.length) rest := by
  rw [tokensFrom, lexeme_of_cut cut, List.drop_left]

end

theorem pieces_nil : pieces [] = [] := by
  rw [pieces]

theorem tokensFrom_nil (position : Nat) : tokensFrom position [] = [] := by
  rw [tokensFrom]

/-- The tokens of a text are its pieces, wherever the text stands in a source. -/
theorem map_piece_tokensFrom {source text : Text} {position : Nat}
    (stands : text <+: source.drop position) :
    (tokensFrom position text).map (piece source) = pieces text := by
  induction text using cut_induction generalizing position with
  | nil => rw [tokensFrom_nil, pieces_nil, List.map_nil]
  | cut first body rest kind cut inductionHypothesis =>
    obtain ⟨behind, split⟩ := stands
    have next : source.drop (position + 1 + body.length) = rest ++ behind := by
      rw [Nat.add_assoc, ← List.drop_drop, ← split]
      simp [Nat.add_comm 1]
    have text : source.slice position (position + 1 + body.length : Nat) = first :: body := by
      rw [slice_ofNat, ← split]
      have reach : position + 1 + body.length - position = body.length + 1 := by omega
      simp [reach]
    rw [tokensFrom_of_cut cut, pieces_of_cut cut, List.map_cons,
      inductionHypothesis ⟨behind, next.symm⟩]
    simp only [piece, Token.text, text]

/-- The tokens of a source are its pieces. -/
theorem map_piece_tokensFrom_zero (source : Text) :
    (tokensFrom 0 source).map (piece source) = pieces source :=
  map_piece_tokensFrom (List.prefix_refl source)

/--
Every token of a part of a source is cut off what stands at its place, up to the end of the part.
-/
theorem exists_cut_of_mem_tokensFrom {source text : Text} {position stop : Nat}
    (stands : text = (source.drop position).take (stop - position)) :
    ∀ token ∈ tokensFrom position text, ∃ first body,
      Cut first body (source.slice token.stop stop).head? token.kind ∧
        token.text source = first :: body ∧
        source.slice token.start stop = first :: (body ++ source.slice token.stop stop) := by
  induction text using cut_induction generalizing position with
  | nil => simp [tokensFrom_nil]
  | cut first body rest kind cut inductionHypothesis =>
    have reach : position + 1 + body.length = position + (body.length + 1) := by omega
    have further : rest =
        (source.drop (position + 1 + body.length)).take (stop - (position + 1 + body.length)) := by
      have dropped := congrArg (List.drop (body.length + 1)) stands
      rw [List.drop_take, List.drop_drop, Nat.sub_sub, ← reach, List.drop_succ_cons,
        List.drop_left] at dropped
      exact dropped
    have own : source.slice position (position + 1 + body.length : Nat) = first :: body := by
      have whole : first :: (body ++ rest) <+: source.drop position :=
        stands ▸ List.take_prefix _ _
      have front := (List.prefix_append (first :: body) rest).trans whole
      rw [slice_ofNat, reach, Nat.add_sub_cancel_left]
      exact (List.prefix_iff_eq_take.mp front).symm
    rw [tokensFrom_of_cut cut, List.forall_mem_cons]
    refine ⟨⟨first, body, ?_⟩, inductionHypothesis further⟩
    rw [slice_ofNat, slice_ofNat, ← further, ← stands]
    exact ⟨cut, own, rfl⟩

/-! ## Pieces side by side -/

/-- A piece is cut off where the character `next` stands behind it. -/
inductive Piece.Fits (next : Option Char) : Piece → Prop where
  | intro {first : Char} {body : Text} {kind : Kind} (cut : Cut first body next kind) :
      Fits next ⟨kind, first :: body⟩

/-- The first piece of a text starts with the first character. -/
theorem head?_pieces {text : Text} {piece : Piece} (first : piece ∈ (pieces text).head?) :
    piece.text.head? = text.head? := by
  induction text using cut_induction with
  | nil => simp [pieces_nil] at first
  | cut first body rest kind cut inductionHypothesis =>
    rw [pieces_of_cut cut, List.head?_cons, Option.mem_def, Option.some.injEq] at first
    rw [← first]
    rfl

/-- Every piece of a text ends where the next one starts. -/
theorem pieces_chain (text : Text) :
    (pieces text).IsChain fun left right => left.Fits right.text.head? := by
  induction text using cut_induction with
  | nil =>
    rw [pieces_nil]
    exact .nil
  | cut first body rest kind cut inductionHypothesis =>
    rw [pieces_of_cut cut]
    refine inductionHypothesis.cons fun piece found => ?_
    rw [head?_pieces found]
    exact .intro cut

/-- Every piece of a text is cut off somewhere. -/
theorem fits_of_mem_pieces {text : Text} {piece : Piece} (member : piece ∈ pieces text) :
    ∃ next, piece.Fits next := by
  induction text using cut_induction with
  | nil => simp [pieces_nil] at member
  | cut first body rest kind cut inductionHypothesis =>
    rw [pieces_of_cut cut] at member
    rcases List.mem_cons.mp member with rfl | later
    · exact ⟨_, .intro cut⟩
    · exact inductionHypothesis later

/-- Where blanks stand in front of consecutive pieces, the first piece is all of the blanks. -/
theorem exists_whitespace_of_blanks {text : Text} {run : List Piece} (part : run <:+: pieces text)
    {blanks behind : Text} (spelled : run.flatMap Piece.text = blanks ++ behind)
    (nonempty : blanks ≠ []) (gap : Run Text.isBlank blanks behind.head?) :
    ∃ more, run = ⟨.whitespace, blanks⟩ :: more := by
  cases run with
  | nil =>
    have nothing := List.append_eq_nil_iff.mp spelled.symm
    exact absurd nothing.1 nonempty
  | cons piece more =>
    obtain ⟨next, @⟨first, body, kind, cut⟩⟩ := fits_of_mem_pieces (part.subset List.mem_cons_self)
    obtain ⟨char, others, rfl⟩ := List.exists_cons_of_ne_nil nonempty
    rw [List.flatMap_cons] at spelled
    obtain rfl : first = char := (List.cons.inj spelled).1
    obtain rfl : kind = .whitespace := cut.kind_of_blank (gap.inside first List.mem_cons_self)
    have own : Run Text.isBlank (first :: body) (more.flatMap Piece.text).head? := by
      obtain ⟨starts, blanks⟩ := cut.blanks rfl
      refine ⟨List.forall_mem_cons.mpr ⟨starts, blanks.inside⟩, ?_⟩
      cases more with
      | nil => exact nofun
      | cons second others =>
        have member : second ∈ pieces text :=
          part.subset (List.mem_cons_of_mem _ List.mem_cons_self)
        obtain ⟨-, @⟨char, tail, kind, behind⟩⟩ := fits_of_mem_pieces member
        obtain ⟨front, back, split⟩ := part
        have chain := pieces_chain text
        rw [← split] at chain
        obtain @⟨first, body, kind, touches⟩ :=
          (List.isChain_cons_cons.mp chain.left_of_append.right_of_append).1
        exact (touches.blanks rfl).2.stops
    have same : first :: body = first :: others := by
      rw [← own.takeWhile_eq, ← gap.takeWhile_eq, ← spelled]
    exact ⟨more, by rw [same]⟩

/-! ## Tokens at another place -/

/-- A token that stands `offset` characters later. -/
def shift (offset : Nat) (token : Token) : Token :=
  ⟨token.kind, token.start + offset, token.stop + offset⟩

/-- A text that stands later has the same tokens later. -/
theorem tokensFrom_shift (offset position : Nat) (text : Text) :
    tokensFrom (position + offset) text = (tokensFrom position text).map (shift offset) := by
  induction text using cut_induction generalizing position with
  | nil => simp [tokensFrom_nil]
  | cut first body rest kind cut inductionHypothesis =>
    have later : position + offset + 1 + body.length = position + 1 + body.length + offset := by
      omega
    rw [tokensFrom_of_cut cut, tokensFrom_of_cut cut, later, inductionHypothesis]
    simp [shift]

/-! ## Texts one behind the other -/

/--
Where one text ends in white space and the other does not start with any, no token is cut otherwise
for the two being side by side.
-/
theorem tokensFrom_append {first second : Text}
    (ended : ∀ last ∈ (pieces first).getLast?, last.kind = .whitespace)
    (fresh : ∀ char ∈ second.head?, Text.isBlank char = false) (position : Nat) :
    tokensFrom position (first ++ second) =
      tokensFrom position first ++ tokensFrom (position + first.length) second := by
  induction first using cut_induction generalizing position with
  | nil => simp [tokensFrom_nil]
  | cut char body rest kind cut inductionHypothesis =>
    rw [pieces_of_cut cut] at ended
    have further : ∀ last ∈ (pieces rest).getLast?, last.kind = .whitespace := by
      intro last found
      apply ended
      rw [List.getLast?_cons, Option.mem_def.mp found]
      rfl
    have seam : Cut char body (rest ++ second).head? kind := by
      cases rest with
      | nil =>
        rw [pieces_nil] at ended
        obtain rfl : kind = .whitespace := ended _ rfl
        exact cut.blank_of_next fresh
      | cons next more => exact cut
    have length : (char :: (body ++ rest)).length = 1 + body.length + rest.length := by
      simp only [List.length_cons, List.length_append]
      omega
    rw [List.cons_append, List.append_assoc, tokensFrom_of_cut seam, tokensFrom_of_cut cut,
      inductionHypothesis further, length]
    simp [Nat.add_assoc]

end BrightBlocks.Token
