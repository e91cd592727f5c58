import BrightBlocks.Text.Lowercase

/-!
# Where small letters come from

The small form of a character is found in a table of runs of capitals. Read
backwards, the table says which characters have a given small form: the small
letter itself, and the capitals whose run moves them there
(`eq_of_lowercaseChar_eq`). The letters of `rem` have one capital each.

The context of a sigma matters to words alone and is dealt with in
`lowercase_append_singleton`. Where no sigma ends a small form it is made letter by letter
(`map_lowercaseChar_of_lowercase_eq`).
-/

namespace BrightBlocks.Text

/-- A code point stays where it is, or moves by the distance of a run that it lies in. -/
theorem smallPoint_eq_or (runs : List CapitalRun) (point : Nat) :
    smallPoint runs point = point ∨
      ∃ run ∈ runs, run.low ≤ point ∧ point ≤ run.high ∧
        smallPoint runs point = (point + run.distance).toNat := by
  induction runs with
  | nil => exact .inl rfl
  | cons run rest inductionHypothesis =>
    rw [smallPoint]
    split
    · exact .inl rfl
    rename_i above
    split
    · rename_i within
      exact .inr ⟨run, List.mem_cons_self, Nat.le_of_not_lt above, within.1, rfl⟩
    · rcases inductionHypothesis with same | ⟨other, member, low, high, moved⟩
      · exact .inl same
      · exact .inr ⟨other, List.mem_cons_of_mem run member, low, high, moved⟩

/-- Whether a run of capitals moves no code point but `capital` to the code point `small`. -/
def CapitalRun.movesOnly (run : CapitalRun) (capital small : Nat) : Bool :=
  let origin : Int := small - run.distance
  !(run.low ≤ origin && origin ≤ run.high) || origin = capital

/-- The small form of a character is a given letter only if it is that letter or its capital. -/
theorem eq_of_lowercaseChar_eq {capital small char : Char} (visible : small ≠ Char.ofNat 0)
    (only : capitalRuns.all (·.movesOnly capital.toNat small.toNat) = true)
    (becomes : lowercaseChar char = [small]) : char = small ∨ char = capital := by
  unfold lowercaseChar at becomes
  split at becomes
  · simp at becomes
  have point : smallPoint capitalRuns char.toNat = small.toNat := by
    have same := List.singleton_inj.mp becomes
    by_cases valid : (smallPoint capitalRuns char.toNat).isValidChar
    · rw [← same, Char.ofNat, dif_pos valid]
      rfl
    · refine absurd ?_ visible
      rw [← same, Char.ofNat, dif_neg valid]
      rfl
  rcases smallPoint_eq_or capitalRuns char.toNat with stays | ⟨run, member, low, high, moved⟩
  · left
    exact Char.toNat_inj.mp (stays.symm.trans point)
  · right
    have positive : 0 < small.toNat := by
      apply Nat.pos_of_ne_zero
      intro zero
      exact visible (by rw [← zero, Char.ofNat_toNat])
    have listed := List.all_eq_true.mp only run member
    simp only [CapitalRun.movesOnly, Bool.or_eq_true, Bool.not_eq_true', Bool.and_eq_false_iff,
      decide_eq_false_iff_not, decide_eq_true_eq] at listed
    apply Char.toNat_inj.mp
    omega

theorem eq_of_lowercaseChar_eq_r {char : Char} (becomes : lowercaseChar char = ['r']) :
    char = 'r' ∨ char = 'R' :=
  eq_of_lowercaseChar_eq (by decide) (by decide +kernel) becomes

theorem eq_of_lowercaseChar_eq_e {char : Char} (becomes : lowercaseChar char = ['e']) :
    char = 'e' ∨ char = 'E' :=
  eq_of_lowercaseChar_eq (by decide) (by decide +kernel) becomes

theorem eq_of_lowercaseChar_eq_m {char : Char} (becomes : lowercaseChar char = ['m']) :
    char = 'm' ∨ char = 'M' :=
  eq_of_lowercaseChar_eq (by decide) (by decide +kernel) becomes

/-! ## Words -/

/-- Whatever stands in front of a last character that is no sigma, its small form comes last. -/
theorem lowercase_append_singleton {last : Char} (plain : last ≠ 'Σ') (front : Text) :
    ∃ small, lowercase (front ++ [last]) = small ++ lowercaseChar last := by
  suffices reach : ∀ passed, ∃ small,
      lowercaseAfter passed (front ++ [last]) = small ++ lowercaseChar last from reach []
  induction front with
  | nil =>
    intro passed
    exact ⟨[], by simp [lowercaseAfter, plain]⟩
  | cons char front inductionHypothesis =>
    intro passed
    obtain ⟨small, ends⟩ := inductionHypothesis (char :: passed)
    rw [List.cons_append, lowercaseAfter, ends, ← List.append_assoc]
    exact ⟨_, rfl⟩

/--
A text whose small form is free of the sigma of word ends and of the dot that the dotted `İ` leaves
behind has one small letter for each of its characters.
-/
theorem map_lowercaseChar_of_lowercase_eq {text word : Text}
    (plain : ∀ letter ∈ word, letter ≠ 'ς' ∧ letter ≠ '\u0307')
    (small : lowercase text = word) : text.map lowercaseChar = word.map ([·]) := by
  suffices reach : ∀ passed, lowercaseAfter passed text = word →
      text.map lowercaseChar = word.map ([·]) from reach [] small
  clear small
  induction text generalizing word with
  | nil =>
    rintro passed rfl
    rfl
  | cons char rest inductionHypothesis =>
    rintro passed rfl
    rw [lowercaseAfter] at plain ⊢
    split at plain
    · exact absurd rfl (plain 'ς' (by simp)).1
    · rename_i no_sigma
      obtain ⟨letter, single⟩ : ∃ letter, lowercaseChar char = [letter] := by
        by_cases dotted : char = 'İ'
        · subst dotted
          exact absurd rfl (plain '\u0307' (by simp [lowercaseChar])).2
        · exact ⟨_, if_neg dotted⟩
      rw [single] at plain
      have further := inductionHypothesis (List.forall_mem_cons.mp plain).2 (char :: passed) rfl
      rw [if_neg no_sigma, List.map_cons, single, further]
      rfl

end BrightBlocks.Text
