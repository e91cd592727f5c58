import BrightBlocks.Token.Reader

/-!
# Tokens tile what they are read from

`Tiles start stop tokens` says that tokens lie end to end from one offset to
another, each of them with at least one character and none of them the end of
the input. `tokensFrom_tiles` says that scanning a text yields such tokens, and
`Tiles.text_eq_slice` that nothing of the text is lost between them.

Whether the tokens are the right ones is no part of this module.
-/

namespace BrightBlocks.Token

/-- Tokens that lie end to end, none of them empty or the end of the input. -/
inductive Tiles : Int → Int → List Token → Prop where
  | nil {offset : Int} : Tiles offset offset []
  | cons {start stop : Int} {token : Token} {rest : List Token}
      (starts : token.start = start) (nonempty : start < token.stop)
      (significant : token.kind ≠ .endOfInput) (more : Tiles token.stop stop rest) :
      Tiles start stop (token :: rest)

/-- A tiling never runs backwards. -/
theorem Tiles.start_le_stop {start stop : Int} {tokens : List Token}
    (tiles : Tiles start stop tokens) : start ≤ stop := by
  induction tiles with
  | nil => exact Int.le_refl _
  | cons _ nonempty _ _ inductionHypothesis => omega

/-- No token of a tiling ends the input. -/
theorem Tiles.significant {start stop : Int} {tokens : List Token}
    (tiles : Tiles start stop tokens) : ∀ token ∈ tokens, token.kind ≠ .endOfInput := by
  induction tiles with
  | nil => simp
  | cons _ _ significant _ inductionHypothesis =>
    intro token member
    rcases List.mem_cons.mp member with rfl | later
    · exact significant
    · exact inductionHypothesis token later

/-- Every token of a tiling has a character, and lies between the ends of the tiling. -/
theorem Tiles.bounds {start stop : Int} {tokens : List Token} (tiles : Tiles start stop tokens) :
    ∀ token ∈ tokens, start ≤ token.start ∧ token.start < token.stop ∧ token.stop ≤ stop := by
  induction tiles with
  | nil => exact nofun
  | cons starts nonempty _ more inductionHypothesis =>
    intro token member
    rcases List.mem_cons.mp member with rfl | later
    · exact ⟨Int.le_of_eq starts.symm, by omega, more.start_le_stop⟩
    · obtain ⟨behind, own, inside⟩ := inductionHypothesis token later
      exact ⟨by omega, own, inside⟩

/-- The first tile starts where the tiling does. -/
theorem Tiles.start_of_head? {start stop : Int} {tokens : List Token}
    (tiles : Tiles start stop tokens) : ∀ first ∈ tokens.head?, first.start = start := by
  cases tiles with
  | nil => exact nofun
  | cons starts =>
    intro first found
    obtain rfl := Option.some.inj found
    exact starts

/-- The last tile stops where the tiling does. -/
theorem Tiles.stop_of_getLast? {start stop : Int} {tokens : List Token}
    (tiles : Tiles start stop tokens) : ∀ last ∈ tokens.getLast?, last.stop = stop := by
  induction tiles with
  | nil => exact nofun
  | @cons start stop token rest starts nonempty significant more inductionHypothesis =>
    intro last found
    cases more with
    | nil =>
      obtain rfl := Option.some.inj found
      rfl
    | cons => exact inductionHypothesis last found

/-- A tiling is parted where its tokens are. -/
theorem Tiles.exists_middle {start stop : Int} {front back : List Token}
    (tiles : Tiles start stop (front ++ back)) :
    ∃ middle, Tiles start middle front ∧ Tiles middle stop back := by
  induction front generalizing start with
  | nil => exact ⟨start, .nil, tiles⟩
  | cons token rest inductionHypothesis =>
    cases tiles with
    | cons starts nonempty significant more =>
      obtain ⟨middle, first, second⟩ := inductionHypothesis more
      exact ⟨middle, .cons starts nonempty significant first, second⟩

/-- Consecutive tiles tile a range within that of the tiling. -/
theorem Tiles.exists_of_infix {start stop : Int} {own tokens : List Token}
    (tiles : Tiles start stop tokens) (part : own <:+: tokens) :
    ∃ first last, start ≤ first ∧ Tiles first last own ∧ last ≤ stop := by
  obtain ⟨front, back, rfl⟩ := part
  obtain ⟨last, upTo, behind⟩ := tiles.exists_middle
  obtain ⟨first, before, inside⟩ := upTo.exists_middle
  exact ⟨first, last, before.start_le_stop, inside, behind.start_le_stop⟩

/-! ## No token is the end of the input -/

/-- Words are classified as keywords, names or constants only. -/
theorem isWord_kindOfWord (word : Text) : (kindOfWord word).isWord = true := by
  unfold kindOfWord kindOfSmallWord
  repeat' split
  all_goals rfl

/-- Characters that stand on their own are never the end of the input. -/
theorem punctuation_kind_ne {char : Char} {kind : Kind}
    (found : punctuation.lookup char = some kind) : kind ≠ .endOfInput := by
  have listed : ∀ entry ∈ punctuation, entry.2 ≠ .endOfInput := by decide
  obtain ⟨front, back, split, -⟩ := List.lookup_eq_some_iff.mp found
  exact listed (char, kind) (split ▸ by simp)

/-- Scanning never answers the end of the input while characters are left. -/
theorem lexeme_kind_ne (first : Char) (rest : Text) : (lexeme first rest).kind ≠ .endOfInput := by
  unfold lexeme
  split
  · dsimp only
    split <;> exact nofun
  split
  · exact nofun
  split
  · exact nofun
  split
  · exact nofun
  split
  · exact nofun
  split
  · intro ends
    have word := isWord_kindOfWord (first :: rest.take (nameTail rest))
    rw [show kindOfWord (first :: rest.take (nameTail rest)) = .endOfInput from ends] at word
    exact absurd word nofun
  split
  · exact nofun
  split
  · rename_i found
    exact punctuation_kind_ne found
  split <;> exact nofun

/-! ## Scanning tiles the text -/

/-- The tokens of a text that stands at an offset tile exactly the text. -/
theorem tokensFrom_tiles (position : Nat) (text : Text) :
    Tiles position (position + text.length) (tokensFrom position text) := by
  fun_induction tokensFrom position text with
  | case1 position => simpa using Tiles.nil
  | case2 position first rest found next inductionHypothesis =>
    have reach : found.tail ≤ rest.length := lexeme_tail_le first rest
    refine .cons rfl ?_ (lexeme_kind_ne first rest) ?_
    · show (position : Int) < (next : Int)
      omega
    · have length : (next : Int) + (rest.drop found.tail).length =
          position + (first :: rest).length := by
        simp only [List.length_drop, List.length_cons]
        omega
      exact length ▸ inductionHypothesis

/-! ## Nothing of the text is lost -/

/-- A slice between offsets that count from the start. -/
theorem slice_ofNat (source : Text) (start stop : Nat) :
    source.slice start stop = (source.drop start).take (stop - start) := by
  simp [Text.slice, Text.offsetFromStart]

/-- Slices that touch make up the slice from the start of one to the end of the other. -/
theorem slice_append_slice (source : Text) {start middle stop : Nat}
    (first : start ≤ middle) (second : middle ≤ stop) :
    source.slice start middle ++ source.slice middle stop = source.slice start stop := by
  have whole : stop - start = (middle - start) + (stop - middle) := by omega
  have skip : source.drop middle = (source.drop start).drop (middle - start) := by
    rw [List.drop_drop]
    congr 1
    omega
  rw [slice_ofNat, slice_ofNat, slice_ofNat, whole, List.take_add, skip]

/-- The texts of tokens that tile a range make up the text of the range. -/
theorem Tiles.text_eq_slice {start stop : Int} {tokens : List Token} (source : Text)
    (tiles : Tiles start stop tokens) (inside : 0 ≤ start) :
    tokens.flatMap (·.text source) = source.slice start stop := by
  induction tiles with
  | @nil offset =>
    obtain ⟨offset, rfl⟩ := Int.eq_ofNat_of_zero_le inside
    simp [slice_ofNat]
  | @cons start stop token rest starts nonempty _ more inductionHypothesis =>
    have later : 0 ≤ token.stop := by omega
    have ordered := more.start_le_stop
    rw [List.flatMap_cons, inductionHypothesis later, Token.text, starts]
    obtain ⟨start, rfl⟩ := Int.eq_ofNat_of_zero_le inside
    obtain ⟨middle, same⟩ := Int.eq_ofNat_of_zero_le later
    obtain ⟨stop, rfl⟩ := Int.eq_ofNat_of_zero_le (Int.le_trans later ordered)
    rw [same] at nonempty ordered ⊢
    exact slice_append_slice source (by omega) (by omega)

/-- The texts of the tokens of a source are the source. -/
theorem tokensFrom_zero_text (source : Text) :
    (tokensFrom 0 source).flatMap (·.text source) = source := by
  have tiles := tokensFrom_tiles 0 source
  have sliced := tiles.text_eq_slice source (Int.le_refl _)
  rw [sliced]
  simpa using slice_ofNat source 0 source.length

end BrightBlocks.Token
