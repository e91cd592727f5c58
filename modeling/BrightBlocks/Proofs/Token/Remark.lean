import BrightBlocks.Proofs.Text.CharacterClasses
import BrightBlocks.Proofs.Token.LetterCase
import BrightBlocks.Proofs.Token.MaximalMunch

/-!
# Words that begin like a remark

Where a token starts with a letter or an underscore, the letters, digits and underscores that
stand there are its `leadingName`. The token is the word that they spell, unless they are `rem`
in any case or go on from there with an underscore: the end of a remark's mark is looked for
with `isWordChar`, the end of a name with `continuesName`, and the underscore is the one
character that these do not agree about (`startsRemark_iff`). So every name is taken as a whole
unless it `JoinsRemark` (`tokenizeRange_word_iff`), and `rem_x` is the remark that it should not be
(`exists_name_taken_for_remark`).

Directives, which start with `#`, are names of another sort and left out.
-/

namespace BrightBlocks.Token

open Text (foldCase lowercase)

/-- The letters, digits and underscores that a text starts with. -/
def leadingName (text : Text) : Text :=
  text.takeWhile continuesName

/-- A token is the word that a name spells, with at most one type designator behind the name. -/
def Spells (source name : Text) (token : Token) : Prop :=
  token.kind.isWord = true ∧
    (token.text source = name ∨
      ∃ designator ∈ typeDesignators, token.text source = name ++ [designator])

instance (source name : Text) (token : Token) : Decidable (Spells source name token) :=
  inferInstanceAs (Decidable (_ ∧ _))

/-- A name that goes on with an underscore behind the letters of a remark. -/
def JoinsRemark (name : Text) : Prop :=
  foldCase (name.take 4) = "rem_".toList

instance (name : Text) : Decidable (JoinsRemark name) :=
  inferInstanceAs (Decidable (_ = _))

/-! ## Names that start a remark -/

theorem eq_underscore_of_continuesName {char : Char} (inside : continuesName char = true)
    (apart : isWordChar char = false) : char = '_' := by
  simpa [continuesName, apart] using inside

/-- A name starts a remark where it is `rem`, or goes on from there with an underscore. -/
theorem startsRemark_iff {name : Text} (inside : ∀ char ∈ name, continuesName char = true) :
    startsRemark name = true ↔ lowercase name = "rem".toList ∨ JoinsRemark name := by
  constructor
  · intro spelled
    obtain ⟨first, second, third, more, rfl, starts, goes_on, ends, apart⟩ :=
      exists_of_startsRemark spelled
    cases more with
    | nil =>
      left
      rcases starts with rfl | rfl <;> rcases goes_on with rfl | rfl <;>
        rcases ends with rfl | rfl <;> decide +kernel
    | cons fourth others =>
      right
      obtain rfl : fourth = '_' :=
        eq_underscore_of_continuesName (inside fourth (by simp)) (apart fourth rfl)
      rcases starts with rfl | rfl <;> rcases goes_on with rfl | rfl <;>
        rcases ends with rfl | rfl <;> rfl
  · rintro (remark | joined)
    · have letters : name.map Text.lowercaseChar = [['r'], ['e'], ['m']] :=
        Text.map_lowercaseChar_of_lowercase_eq (List.all_iff_forall_prop.mp (by decide)) remark
      obtain ⟨first, others, rfl, starts, letters⟩ := List.map_eq_cons_iff.mp letters
      obtain ⟨second, others, rfl, goes_on, letters⟩ := List.map_eq_cons_iff.mp letters
      obtain ⟨third, others, rfl, ends, letters⟩ := List.map_eq_cons_iff.mp letters
      obtain rfl := List.map_eq_nil_iff.mp letters
      simp [startsRemark, starts, goes_on, ends]
    · have folded : foldCase name = 'r' :: 'e' :: 'm' :: '_' :: (foldCase name).drop 4 := by
        have front := List.take_append_drop 4 (foldCase name)
        rw [Text.foldCase_take, joined] at front
        exact front.symm
      rw [← startsRemark_foldCase, folded]
      rfl

/-! ## Tokens that start a name -/

section

variable {first : Char} {body rest : Text} {kind : Kind}

/-- A letter or an underscore is the first of the name that it starts. -/
theorem leadingName_cons (letter : Text.isLetter first = true ∨ first = '_') (text : Text) :
    leadingName (first :: text) = first :: leadingName text := by
  have inside : continuesName first = true := by
    rcases letter with letter | rfl
    · simp [continuesName, isWordChar, letter]
    · rfl
  exact List.takeWhile_cons_of_pos inside

/-- Whether a text starts a remark is decided by its leading name. -/
theorem startsRemark_leadingName (letter : Text.isLetter first = true ∨ first = '_') (text : Text) :
    startsRemark (leadingName (first :: text)) = startsRemark (first :: text) := by
  rw [leadingName_cons letter]
  have run := run_take continuesName text
  rw [drop_takeWhile] at run
  have decided := startsRemark_append first (leadingName text) run.stops
  rwa [leadingName, List.takeWhile_append_dropWhile, eq_comm] at decided

/-- What a name takes behind its first character: the rest of the name, and a designator. -/
theorem take_nameTail (text : Text) :
    text.take (nameTail text) = leadingName text ∨
      ∃ designator ∈ typeDesignators,
        text.take (nameTail text) = leadingName text ++ [designator] := by
  have whole : leadingName text ++ text.dropWhile continuesName = text :=
    List.takeWhile_append_dropWhile
  have tail : nameTail text =
      if (text.dropWhile continuesName).head?.any (· ∈ typeDesignators) then
        (leadingName text).length + 1
      else (leadingName text).length := by
    rw [← drop_takeWhile]
    rfl
  rw [tail]
  clear tail
  generalize leadingName text = name, text.dropWhile continuesName = behind at *
  subst whole
  cases behind with
  | nil => exact .inl (by simp)
  | cons next more =>
    by_cases designates : next ∈ typeDesignators
    · exact .inr ⟨next, designates, by simp [designates, List.take_length_add_append]⟩
    · exact .inl (by simp [designates])

/-- A token that starts a name is a remark if the name starts one, and else the name. -/
theorem Cut.remark_or_name (cut : Cut first body rest.head? kind)
    (letter : Text.isLetter first = true ∨ first = '_') :
    if startsRemark (leadingName (first :: (body ++ rest))) then
      kind = .remComment ∧ first :: body = restOfLine (first :: (body ++ rest))
    else
      kind.isWord = true ∧
        (first :: body = leadingName (first :: (body ++ rest)) ∨
          ∃ designator ∈ typeDesignators,
            first :: body = leadingName (first :: (body ++ rest)) ++ [designator]) := by
  have found : lexeme first (body ++ rest) = ⟨kind, body.length⟩ := lexeme_of_cut cut
  have front : (body ++ rest).take body.length = body := List.take_left
  rw [startsRemark_leadingName letter]
  split
  · rename_i spelled
    rw [lexeme_remark spelled, Lexeme.mk.injEq] at found
    obtain ⟨rfl, reach⟩ := found
    have visible : first ≠ '\n' := by
      rcases first_of_startsRemark spelled with rfl | rfl <;> decide
    refine ⟨rfl, ?_⟩
    rw [restOfLine, Text.before, List.takeWhile_cons_of_pos (by simpa using visible)]
    rw [← reach, restOfLine, Text.before, take_takeWhile] at front
    rw [front]
  · rename_i no_remark
    have starts : startsName first = true := by
      rcases letter with letter | rfl
      · simp [startsName, letter]
      · rfl
    have no_digit : Text.isDecimal first = false := by
      rcases letter with letter | rfl
      · exact Text.isDecimal_of_isLetter letter
      · decide
    rw [lexeme_name starts no_digit (Bool.eq_false_iff.mpr no_remark), Lexeme.mk.injEq] at found
    obtain ⟨rfl, reach⟩ := found
    refine ⟨isWord_kindOfWord _, ?_⟩
    rw [leadingName_cons letter]
    rw [← reach] at front
    rcases take_nameTail (body ++ rest) with bare | ⟨designator, member, designated⟩
    · exact .inl (by rw [← bare, front])
    · exact .inr ⟨designator, member, by rw [List.cons_append, ← designated, front]⟩

end

/-! ## Ranges -/

/--
Where a token of a range starts with a letter or an underscore, it is the word that its leading name
spells, unless that name is `rem` in any case or goes on from there with an underscore. Then, and
only then, it is a remark that takes the rest of its line.
-/
theorem tokenizeRange_word_iff (source : Text) (start stop : Int) (first : 0 ≤ start)
    (ordered : start ≤ stop) (within : stop ≤ source.length) :
    ∃ tokens, tokenizeRange source start (some stop) = .ok tokens ∧
      ∀ token ∈ tokens,
        let ahead := source.slice token.start stop
        let name := leadingName ahead
        (∃ char ∈ ahead.head?, Text.isLetter char = true ∨ char = '_') →
          (Spells source name token ↔ lowercase name ≠ "rem".toList ∧ ¬ JoinsRemark name) ∧
            (¬ Spells source name token →
              token.kind = .remComment ∧ token.text source = restOfLine ahead) := by
  obtain ⟨start, rfl⟩ := Int.eq_ofNat_of_zero_le first
  obtain ⟨stop, rfl⟩ := Int.eq_ofNat_of_zero_le (Int.le_trans first ordered)
  have forwards : start ≤ stop := Int.ofNat_le.mp ordered
  have inside : stop ≤ source.length := Int.ofNat_le.mp within
  refine ⟨_, tokenizeRange_eq forwards inside, ?_⟩
  rw [List.forall_mem_append, List.forall_mem_singleton]
  constructor
  · intro token member ahead name
    obtain ⟨char, body, cut, own, here⟩ := exists_cut_of_mem_tokensFrom rfl token member
    rintro ⟨head, found, letter⟩
    obtain rfl : head = char := by simpa [ahead, here, eq_comm] using found
    have decided := cut.remark_or_name letter
    rw [← here, ← own] at decided
    change if startsRemark name then _ else _ at decided
    have remark : startsRemark name = true ↔ _ :=
      startsRemark_iff fun _ => List.mem_takeWhile_imp
    split at decided
    · rename_i spelled
      have no_word : ¬ Spells source name token := by
        intro word
        rw [Spells, decided.1] at word
        exact absurd word.1 (by decide)
      have joins := remark.mp spelled
      exact ⟨iff_of_false no_word fun both => joins.elim both.1 both.2, fun _ => decided⟩
    · rename_i no_remark
      have word : Spells source name token := decided
      have no_join := mt remark.mpr no_remark
      exact ⟨iff_of_true word (not_or.mp no_join), fun no_word => absurd word no_word⟩
  · rintro ahead name ⟨char, found, -⟩
    have nothing : ahead = [] := by
      show source.slice stop stop = []
      rw [slice_ofNat, Nat.sub_self, List.take_zero]
    rw [nothing] at found
    contradiction

/-- The range ends inside `remote`, of which it leaves a remark, while `Remark$` is a word. -/
theorem tokenizeRange_word_iff_inside_name :
    let source : Text := "a.Remark$ remote".toList
    ((0 : Int) ≤ 2 ∧ (2 : Int) ≤ 13 ∧ (13 : Int) ≤ source.length) ∧
    ∃ tokens, tokenizeRange source 2 (some 13) = .ok tokens ∧
      ∀ token ∈ tokens,
        let ahead := source.slice token.start 13
        let name := leadingName ahead
        (∃ char ∈ ahead.head?, Text.isLetter char = true ∨ char = '_') →
          (Spells source name token ↔ lowercase name ≠ "rem".toList ∧ ¬ JoinsRemark name) ∧
            (¬ Spells source name token →
              token.kind = .remComment ∧ token.text source = restOfLine ahead) := by
  intro source
  have within : (13 : Int) ≤ source.length := by decide
  exact ⟨⟨by decide, by decide, within⟩,
    tokenizeRange_word_iff source 2 13 (by decide) (by decide) within⟩

/-- The name `rem_x` is taken for a remark, and the rest of its line with it. -/
theorem exists_name_taken_for_remark :
    let source : Text := "rem_x = 1".toList
    ∃ token ∈ tokenize source, token.start = 0 ∧
      leadingName source = "rem_x".toList ∧
      lowercase (leadingName source) ≠ "rem".toList ∧
      ¬ Spells source (leadingName source) token ∧
      token.kind = .remComment ∧ token.text source = source := by
  decide +kernel

end BrightBlocks.Token
