import BrightBlocks.Proofs.Token.Piece

/-!
# Tokens are local

A token is decided by its own characters and by one behind them (`Cut.of_take_eq`), and
scanning starts afresh behind every token. So a range of a source is read as if it were
a source of its own, and a range between the ends of two tokens holds the tokens of the
whole source (`tokenizeRange_exact`). Sources that start alike have the same tokens up to
the last character that they share (`tokenize_congr_of_take`).

A range that starts or ends inside a token has tokens that the source need not have, and
a token that ends with the last shared character may go on in one of the sources.
-/

namespace BrightBlocks.Token

/-- An offset of a source that no token spans: either end of the source, or the end of a token. -/
def IsBoundary (source : Text) (offset : Nat) : Prop :=
  offset = 0 ∨ offset = source.length ∨ ∃ token ∈ tokenize source, token.stop = offset

/--
Whether a token lies in the range from `start` up to, but not including, `stop`. The end of the
input has no character and lies in no range.
-/
def within (start stop : Int) (token : Token) : Bool :=
  start ≤ token.start ∧ token.start < stop ∧ token.stop ≤ stop

/-- Whether a token ends in front of an offset, with at least one character in between. -/
def endsBefore (offset : Int) (token : Token) : Bool :=
  token.stop < offset

/-! ## What decides a token -/

section

variable {position : Nat} {text : Text}

/-- Every token has a character, and lies between the ends of its text. -/
theorem bounds_of_mem_tokensFrom {token : Token} (member : token ∈ tokensFrom position text) :
    position ≤ token.start ∧ token.start < token.stop ∧ token.stop ≤ position + text.length :=
  (tokensFrom_tiles position text).bounds token member

section

variable {first : Char} {body rest text' : Text} {kind : Kind} {count : Nat}

/-- A token starts every text that shares its characters and the one behind them. -/
theorem Cut.of_take_eq (cut : Cut first body rest.head? kind)
    (same : (first :: (body ++ rest)).take count = text'.take count)
    (decided : body.length + 1 < count) :
    ∃ rest', text' = first :: (body ++ rest') ∧ Cut first body rest'.head? kind ∧
      rest.take (count - (body.length + 1)) = rest'.take (count - (body.length + 1)) := by
  have own : (first :: body) <+: text' := by
    have front : (first :: body) <+: (first :: (body ++ rest)).take count := by
      rw [List.prefix_take_iff]
      exact ⟨List.prefix_append (first :: body) rest, decided.le⟩
    exact (same ▸ front).trans (List.take_prefix count text')
  obtain ⟨rest', rfl⟩ := own
  have shared : rest.take (count - (body.length + 1)) = rest'.take (count - (body.length + 1)) := by
    have behind := congrArg (List.drop (first :: body).length) same
    rwa [← List.cons_append, List.drop_take, List.drop_take, List.drop_left,
      List.drop_left] at behind
  have next : rest.head? = rest'.head? := by
    have one : 0 < count - (body.length + 1) := Nat.sub_pos_of_lt decided
    have heads := congrArg List.head? shared
    rwa [List.head?_take, List.head?_take, if_neg one.ne', if_neg one.ne'] at heads
  exact ⟨rest', rfl, next ▸ cut, shared⟩

/-- No token ends in front of an offset that the first one reaches. -/
theorem filter_endsBefore_of_reach (cut : Cut first body rest.head? kind)
    (reach : count ≤ body.length + 1) :
    (tokensFrom position (first :: (body ++ rest))).filter (endsBefore (position + count)) =
      [] := by
  rw [List.filter_eq_nil_iff, tokensFrom_of_cut cut]
  intro token member
  simp only [endsBefore, decide_eq_true_eq]
  rcases List.mem_cons.mp member with rfl | later
  · dsimp only
    omega
  · obtain ⟨behind, own, -⟩ := bounds_of_mem_tokensFrom later
    omega

end

/--
Of texts that start alike, the tokens that end in front of the last character that they share are
the same.
-/
theorem filter_endsBefore_congr {text' : Text} {count : Nat}
    (same : text.take count = text'.take count) :
    (tokensFrom position text).filter (endsBefore (position + count)) =
      (tokensFrom position text').filter (endsBefore (position + count)) := by
  induction text using cut_induction generalizing position text' count with
  | nil =>
    cases text' using cut_induction with
    | nil => rfl
    | cut first body rest kind cut =>
      have nothing : count = 0 := by simpa using same
      rw [filter_endsBefore_of_reach cut (by omega), tokensFrom_nil]
      rfl
  | cut first body rest kind cut inductionHypothesis =>
    by_cases decided : body.length + 1 < count
    · obtain ⟨rest', rfl, cut', shared⟩ := cut.of_take_eq same decided
      have counted : endsBefore (position + count)
          ⟨kind, position, (position + 1 + body.length : Nat)⟩ = true := by
        simp only [endsBefore, decide_eq_true_eq]
        omega
      have bound : (position : Int) + count =
          (position + 1 + body.length : Nat) + (count - (body.length + 1) : Nat) := by
        omega
      rw [tokensFrom_of_cut cut, tokensFrom_of_cut cut', List.filter_cons_of_pos counted,
        List.filter_cons_of_pos counted, bound, inductionHypothesis shared]
    · rw [filter_endsBefore_of_reach cut (by omega)]
      cases text' using cut_induction with
      | nil => rw [tokensFrom_nil, List.filter_nil]
      | cut first' body' rest' kind' cut' =>
        have undecided : ¬ body'.length + 1 < count := by
          intro decided'
          obtain ⟨rest'', split, again, -⟩ := cut'.of_take_eq same.symm decided'
          have first_token := tokensFrom_of_cut again 0
          rw [← split, tokensFrom_of_cut cut] at first_token
          have stop := congrArg Token.stop (List.cons.inj first_token).1
          dsimp only at stop
          omega
        rw [filter_endsBefore_of_reach cut' (by omega)]

/-! ## Parts of a text -/

/-- An offset at which the tokens of a text that stands at `position` are parted. -/
def Parts (position : Nat) (text : Text) (offset : Nat) : Prop :=
  offset = position ∨ ∃ token ∈ tokensFrom position text, token.stop = offset

/-- Tokens are parted in front of the first one, or behind it where those behind it are. -/
theorem parts_of_cut {first : Char} {body rest : Text} {kind : Kind} {offset : Nat}
    (cut : Cut first body rest.head? kind) :
    Parts position (first :: (body ++ rest)) offset ↔
      offset = position ∨ Parts (position + 1 + body.length) rest offset := by
  unfold Parts
  rw [tokensFrom_of_cut cut]
  simp only [List.mem_cons, exists_eq_or_imp, Int.natCast_inj, eq_comm]

/-- Tokens are parted nowhere in front of the text. -/
theorem Parts.le {offset : Nat} (parts : Parts position text offset) : position ≤ offset := by
  rcases parts with rfl | ⟨token, member, stop⟩
  · exact Nat.le_refl _
  · obtain ⟨start, own, -⟩ := bounds_of_mem_tokensFrom member
    omega

theorem parts_length (position : Nat) (text : Text) :
    Parts position text (position + text.length) := by
  induction text using cut_induction generalizing position with
  | nil => exact .inl rfl
  | cut first body rest kind cut inductionHypothesis =>
    have length : position + (first :: (body ++ rest)).length =
        position + 1 + body.length + rest.length := by
      simp only [List.length_cons, List.length_append]
      omega
    rw [length, parts_of_cut cut]
    exact .inr (inductionHypothesis _)

/-- Up to an offset that parts its tokens, a text has the tokens that end there or earlier. -/
theorem tokensFrom_take {stop : Nat} (parts : Parts position text stop) :
    tokensFrom position (text.take (stop - position)) =
      (tokensFrom position text).filter fun token : Token => token.stop ≤ (stop : Int) := by
  induction text using cut_induction generalizing position with
  | nil => simp [tokensFrom_nil]
  | cut first body rest kind cut inductionHypothesis =>
    rcases (parts_of_cut cut).mp parts with rfl | further
    · have none_ends :
          ∀ token ∈ tokensFrom stop (first :: (body ++ rest)), ¬ token.stop ≤ stop := by
        intro token member
        obtain ⟨start, own, -⟩ := bounds_of_mem_tokensFrom member
        omega
      rw [Nat.sub_self, List.take_zero, tokensFrom_nil, eq_comm, List.filter_eq_nil_iff]
      simpa using none_ends
    · have reach := further.le
      have front : (first :: (body ++ rest)).take (stop - position) =
          first :: (body ++ rest.take (stop - (position + 1 + body.length))) := by
        have length : stop - position =
            (first :: body).length + (stop - (position + 1 + body.length)) := by
          rw [List.length_cons]
          omega
        rw [← List.cons_append, length, List.take_length_add_append, List.cons_append]
      have seam : Cut first body (rest.take (stop - (position + 1 + body.length))).head? kind := by
        rw [List.head?_take]
        split
        · exact cut.ends
        · exact cut
      have ended : ((position + 1 + body.length : Nat) : Int) ≤ stop := Int.ofNat_le.mpr reach
      rw [front, tokensFrom_of_cut seam, tokensFrom_of_cut cut,
        List.filter_cons_of_pos (by simpa using ended), inductionHypothesis further]

/-- From an offset that parts its tokens, a text has the tokens that start there or later. -/
theorem tokensFrom_drop {start : Nat} (parts : Parts position text start) :
    tokensFrom start (text.drop (start - position)) =
      (tokensFrom position text).filter fun token : Token => (start : Int) ≤ token.start := by
  induction text using cut_induction generalizing position with
  | nil => simp [tokensFrom_nil]
  | cut first body rest kind cut inductionHypothesis =>
    rcases (parts_of_cut cut).mp parts with rfl | further
    · have all_start : ∀ token ∈ tokensFrom start (first :: (body ++ rest)), start ≤ token.start :=
        fun token member => (bounds_of_mem_tokensFrom member).1
      rw [Nat.sub_self, List.drop_zero, eq_comm, List.filter_eq_self]
      simpa using all_start
    · have reach := further.le
      have behind : (first :: (body ++ rest)).drop (start - position) =
          rest.drop (start - (position + 1 + body.length)) := by
        have length : start - position =
            (first :: body).length + (start - (position + 1 + body.length)) := by
          rw [List.length_cons]
          omega
        rw [← List.cons_append, length, List.drop_length_add_append]
      have starts : ¬ (start : Int) ≤ position := by omega
      rw [behind, tokensFrom_of_cut cut, List.filter_cons_of_neg (by simpa using starts),
        inductionHypothesis further]

end

/-! ## Ranges of a source -/

variable {source : Text}

theorem IsBoundary.parts {offset : Nat} (boundary : IsBoundary source offset) :
    Parts 0 source offset := by
  rcases boundary with rfl | rfl | ⟨token, member, stop⟩
  · exact .inl rfl
  · simpa using parts_length 0 source
  · rcases List.mem_append.mp member with inside | last
    · exact .inr ⟨token, inside, stop⟩
    · obtain rfl := List.mem_singleton.mp last
      obtain rfl : source.length = offset := Int.natCast_inj.mp stop
      simpa using parts_length 0 source

/-- A range is read from its own characters. -/
theorem tokenizeRange_eq {start stop : Nat} (ordered : start ≤ stop)
    (inside : stop ≤ source.length) :
    tokenizeRange source start (some stop) =
      .ok (tokensFrom start ((source.drop start).take (stop - start)) ++ [endOfInput stop]) := by
  have fits : 0 ≤ (start : Int) ∧ (start : Int) ≤ stop ∧ (stop : Int) ≤ source.length := by omega
  unfold tokenizeRange Reader.ofRange
  simp only [Option.getD_some]
  rw [dif_pos fits]
  rfl

/-- Without bounds a range is the whole source. -/
theorem tokenizeRange_whole (source : Text) :
    tokenizeRange source 0 none = .ok (tokenize source) := by
  have whole := @tokenizeRange_eq source 0 source.length (Nat.zero_le _) (Nat.le_refl _)
  rw [Nat.sub_zero, List.drop_zero, List.take_length] at whole
  exact whole

/-- What does not accept the end of the input accepts tokens of the source only. -/
theorem filter_tokenize {accepts : Token → Bool}
    (refused : accepts (endOfInput source.length) = false) :
    (tokenize source).filter accepts = (tokensFrom 0 source).filter accepts := by
  rw [tokenize, List.filter_append, List.filter_cons_of_neg (by simpa using refused),
    List.filter_nil, List.append_nil]

/-- The tokens that lie in a range are those that start and end in it. -/
theorem filter_within_tokenize {start stop : Nat} (inside : stop ≤ source.length) :
    (tokenize source).filter (within start stop) =
      ((tokensFrom 0 source).filter fun token : Token => token.stop ≤ (stop : Int)).filter
        fun token : Token => (start : Int) ≤ token.start := by
  have last : within start stop (endOfInput source.length) = false := by
    simp [within, endOfInput]
    omega
  rw [filter_tokenize last, List.filter_filter]
  apply List.filter_congr
  intro token member
  obtain ⟨-, own, -⟩ := bounds_of_mem_tokensFrom member
  simp only [within, decide_eq_decide, ← Bool.decide_and]
  omega

/--
A range of a source is read as if it were a source of its own, at its offset. Where both of its ends
are ends of tokens, its tokens are those of the source that lie in it.
-/
theorem tokenizeRange_exact {start stop : Nat} (ordered : start ≤ stop)
    (inside : stop ≤ source.length) :
    tokenizeRange source start (some stop) =
        .ok ((tokenize (source.slice start stop)).map (shift start)) ∧
      (IsBoundary source start → IsBoundary source stop →
        tokenizeRange source start (some stop) =
          .ok ((tokenize source).filter (within start stop) ++ [endOfInput stop])) := by
  rw [tokenizeRange_eq ordered inside]
  constructor
  · have length : ((source.drop start).take (stop - start)).length = stop - start := by
      rw [List.length_take, List.length_drop]
      omega
    have last : shift start (endOfInput (stop - start : Nat)) = endOfInput stop := by
      simp only [shift, endOfInput, Token.mk.injEq, true_and]
      omega
    rw [slice_ofNat, tokenize, length, List.map_append, ← tokensFrom_shift, Nat.zero_add,
      List.map_singleton, last]
  · intro starts stops
    have ends : Parts 0 (source.take stop) start := by
      rcases starts.parts with rfl | ⟨token, member, here⟩
      · exact .inl rfl
      · have up_to := tokensFrom_take stops.parts
        rw [Nat.sub_zero] at up_to
        refine .inr ⟨token, ?_, here⟩
        rw [up_to, List.mem_filter]
        exact ⟨member, by simp; omega⟩
    have front := tokensFrom_take stops.parts
    have own := tokensFrom_drop ends
    rw [Nat.sub_zero] at front own
    rw [List.take_drop, Nat.add_sub_cancel' ordered, own, front, filter_within_tokenize inside]

/-- Behind the first name, a shift with an assignment is read as in the whole source. -/
theorem tokenizeRange_exact_of_operator :
    let source : Text := "a<<=rem b".toList
    ((1 ≤ 4 ∧ 4 ≤ source.length) ∧ IsBoundary source 1 ∧ IsBoundary source 4) ∧
    tokenizeRange source (1 : Nat) (some (4 : Nat)) =
        .ok ((tokenize (source.slice (1 : Nat) (4 : Nat))).map (shift 1)) ∧
      tokenizeRange source (1 : Nat) (some (4 : Nat)) =
        .ok ((tokenize source).filter (within (1 : Nat) (4 : Nat)) ++ [endOfInput (4 : Nat)]) := by
  intro source
  have ordered : 1 ≤ 4 := by decide
  have inside : 4 ≤ source.length := by decide
  have starts : IsBoundary source 1 := .inr (.inr (by decide +kernel))
  have stops : IsBoundary source 4 := .inr (.inr (by decide +kernel))
  obtain ⟨alone, exact_tokens⟩ := tokenizeRange_exact ordered inside
  exact ⟨⟨⟨ordered, inside⟩, starts, stops⟩, alone, exact_tokens starts stops⟩

/-! ## Sources that start alike -/

/--
An edit changes no token that ends in front of it: of two sources with the same first characters,
the tokens that end in front of the last of these are the same.
-/
theorem tokenize_congr_of_take {source' : Text} {count : Nat} (inside : count ≤ source.length)
    (inside' : count ≤ source'.length) (same : source.take count = source'.take count) :
    (tokenize source).filter (endsBefore count) = (tokenize source').filter (endsBefore count) := by
  have last : endsBefore count (endOfInput source.length) = false := by
    simpa [endsBefore, endOfInput] using inside
  have last' : endsBefore count (endOfInput source'.length) = false := by
    simpa [endsBefore, endOfInput] using inside'
  have shared := @filter_endsBefore_congr 0 source source' count same
  rw [Int.natCast_zero, Int.zero_add] at shared
  rw [filter_tokenize last, filter_tokenize last', shared]

/-- Whatever becomes of the condition, its first token is the keyword in front of it. -/
theorem tokenize_congr_of_take_condition :
    let source : Text := "if a<b then".toList
    let source' : Text := "if a''".toList
    ((4 ≤ source.length ∧ 4 ≤ source'.length) ∧ source.take 4 = source'.take 4) ∧
    (tokenize source).filter (endsBefore (4 : Nat)) =
      (tokenize source').filter (endsBefore (4 : Nat)) := by
  intro source source'
  have inside : 4 ≤ source.length := by decide
  have inside' : 4 ≤ source'.length := by decide
  have same : source.take 4 = source'.take 4 := by decide
  exact ⟨⟨⟨inside, inside'⟩, same⟩, tokenize_congr_of_take inside inside' same⟩

end BrightBlocks.Token
