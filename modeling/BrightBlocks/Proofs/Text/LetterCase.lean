import BrightBlocks.Text.Blank
import BrightBlocks.Text.Decimal
import BrightBlocks.Text.Lowercase

/-!
# The case of letters

`foldCase` makes the capitals from A to Z small and leaves all other characters alone,
capitals of other scripts among them. A function of characters is `CaseBlind` if it cannot
tell such a capital from its small letter. There are only twenty-six characters to look at
(`CaseBlind.of_capitals`), so that it is computed for every table of characters.

Lower-casing does not depend on case in this sense (`lowercase_foldCase`): a letter from A to
Z is cased in either form, so that the context of a sigma stays what it was.
-/

namespace BrightBlocks.Text

/-- A text with its capitals from A to Z made small. -/
def foldCase (text : Text) : Text :=
  text.map Char.toLower

/-- The capitals from A to Z. -/
def capitals : Text :=
  (List.range 26).map fun index => Char.ofNat (0x41 + index)

/-- A function that gives the same for a capital from A to Z and its small letter. -/
def CaseBlind {β : Type} (f : Char → β) : Prop :=
  ∀ char : Char, f char.toLower = f char

/-- Only the capitals from A to Z have another small form. -/
theorem toLower_eq_self_or_mem_capitals (char : Char) :
    char.toLower = char ∨ char ∈ capitals := by
  by_cases capital : 'A' ≤ char ∧ char ≤ 'Z'
  · right
    have low : 0x41 ≤ char.toNat := capital.1
    have high : char.toNat ≤ 0x5A := capital.2
    refine List.mem_map.mpr ⟨char.toNat - 0x41, List.mem_range.mpr (by omega), ?_⟩
    rw [Nat.add_sub_cancel' low, Char.ofNat_toNat]
  · left
    exact dif_neg capital

/-- To be blind to case is to give the same for each of the capitals and its small letter. -/
theorem CaseBlind.of_capitals {β : Type} [DecidableEq β] {f : Char → β}
    (same : (capitals.all fun char => f char.toLower = f char) = true) : CaseBlind f := by
  intro char
  rcases toLower_eq_self_or_mem_capitals char with fixed | capital
  · rw [fixed]
  · exact of_decide_eq_true (List.all_eq_true.mp same char capital)

theorem caseBlind_isDecimal : CaseBlind isDecimal := .of_capitals (by decide +kernel)

theorem caseBlind_isBlank : CaseBlind isBlank := .of_capitals (by decide +kernel)

theorem caseBlind_isHexDigit : CaseBlind isHexDigit := .of_capitals (by decide +kernel)

theorem caseBlind_lowercaseChar : CaseBlind lowercaseChar := .of_capitals (by decide +kernel)

/-! ## Signs -/

/-- A character that is no letter from A to Z is no small form but its own. -/
theorem toLower_eq_iff {sign : Char} (plain : sign.isAlpha = false) (char : Char) :
    char.toLower = sign ↔ char = sign := by
  have letters : (capitals.all fun char => char.isAlpha && char.toLower.isAlpha) = true := by
    decide +kernel
  rcases toLower_eq_self_or_mem_capitals char with fixed | capital
  · rw [fixed]
  · obtain ⟨large, small⟩ := Bool.and_eq_true_iff.mp (List.all_eq_true.mp letters char capital)
    have no_small : char.toLower ≠ sign := fun same => by simp [same, plain] at small
    have no_large : char ≠ sign := fun same => by simp [same, plain] at large
    exact iff_of_false no_small no_large

section

variable {signs : List Char}

theorem toLower_eq_iff_of_mem {sign : Char} (plain : signs.all (!·.isAlpha) = true)
    (member : sign ∈ signs) (char : Char) : char.toLower = sign ↔ char = sign :=
  toLower_eq_iff (by simpa using List.all_eq_true.mp plain sign member) char

theorem toLower_mem_iff (plain : signs.all (!·.isAlpha) = true) (char : Char) :
    char.toLower ∈ signs ↔ char ∈ signs := by
  constructor
  · intro member
    rwa [(toLower_eq_iff_of_mem plain member char).mp rfl]
  · intro member
    rwa [(toLower_eq_iff_of_mem plain member char).mpr rfl]

/-- What has the small form of a sign is that sign. -/
theorem toLower_eq_toLower_and_mem_iff (plain : signs.all (!·.isAlpha) = true)
    (first second : Char) :
    second.toLower = first.toLower ∧ first ∈ signs ↔ second = first ∧ first ∈ signs := by
  refine and_congr_left fun member => ?_
  rw [(toLower_eq_iff_of_mem plain member first).mpr rfl, toLower_eq_iff_of_mem plain member]

end

/-! ## Parts of a text -/

@[simp]
theorem foldCase_nil : foldCase [] = [] := rfl

@[simp]
theorem foldCase_cons (first : Char) (rest : Text) :
    foldCase (first :: rest) = first.toLower :: rest.foldCase := rfl

@[simp]
theorem length_foldCase (text : Text) : text.foldCase.length = text.length :=
  List.length_map Char.toLower

theorem foldCase_take (count : Nat) (text : Text) :
    text.foldCase.take count = foldCase (text.take count) :=
  List.map_take.symm

theorem foldCase_drop (count : Nat) (text : Text) :
    text.foldCase.drop count = foldCase (text.drop count) :=
  List.map_drop.symm

theorem foldCase_slice (start stop : Int) (text : Text) :
    text.foldCase.slice start stop = foldCase (text.slice start stop) := by
  simp only [slice, offsetFromStart, length_foldCase, foldCase_drop, foldCase_take]

section

variable {accepts : Char → Bool}

theorem foldCase_takeWhile (blind : CaseBlind accepts) (text : Text) :
    text.foldCase.takeWhile accepts = foldCase (text.takeWhile accepts) := by
  have same : accepts ∘ Char.toLower = accepts := funext blind
  rw [foldCase, List.takeWhile_map, same, foldCase]

theorem foldCase_dropWhile (blind : CaseBlind accepts) (text : Text) :
    text.foldCase.dropWhile accepts = foldCase (text.dropWhile accepts) := by
  have same : accepts ∘ Char.toLower = accepts := funext blind
  rw [foldCase, List.dropWhile_map, same, foldCase]

/-- What is asked of the first character of a text. -/
theorem any_head?_foldCase (blind : CaseBlind accepts) (text : Text) :
    text.foldCase.head?.any accepts = text.head?.any accepts := by
  cases text with
  | nil => rfl
  | cons first rest => exact blind first

end

theorem head?_foldCase_eq_iff {sign : Char} (plain : sign.isAlpha = false) (text : Text) :
    text.foldCase.head? = some sign ↔ text.head? = some sign := by
  cases text with
  | nil => rfl
  | cons first rest => simp [toLower_eq_iff plain]

theorem contains_foldCase {sign : Char} (plain : sign.isAlpha = false) (text : Text) :
    text.foldCase.contains sign = text.contains sign := by
  simp [foldCase, toLower_eq_iff plain]

theorem before_foldCase {mark : Char} (plain : mark.isAlpha = false) (text : Text) :
    text.foldCase.before mark = foldCase (text.before mark) :=
  foldCase_takeWhile (fun char => by simp [toLower_eq_iff plain]) text

/-! ## Lower-casing -/

theorem facesCased_foldCase (text : Text) : facesCased text.foldCase = facesCased text := by
  have ignored : CaseBlind fun char => caseIgnoredIntervals.contains char.toNat :=
    .of_capitals (by decide +kernel)
  have cased : CaseBlind fun char => casedIntervals.contains char.toNat :=
    .of_capitals (by decide +kernel)
  unfold facesCased
  rw [foldCase_dropWhile ignored]
  cases text.dropWhile fun char => caseIgnoredIntervals.contains char.toNat with
  | nil => rfl
  | cons first rest => exact cased first

theorem lowercaseAfter_foldCase (passed text : Text) :
    lowercaseAfter passed.foldCase text.foldCase = lowercaseAfter passed text := by
  have sigma : CaseBlind fun char => decide (char = 'Σ') := .of_capitals (by decide +kernel)
  induction text generalizing passed with
  | nil => rfl
  | cons first rest inductionHypothesis =>
    have kept : first.toLower = 'Σ' ↔ first = 'Σ' := decide_eq_decide.mp (sigma first)
    have further := inductionHypothesis (first :: passed)
    rw [foldCase_cons] at further
    simp only [foldCase_cons, lowercaseAfter, kept, facesCased_foldCase,
      caseBlind_lowercaseChar first, further]

/-- The small form of a text does not depend on the case of its letters from A to Z. -/
theorem lowercase_foldCase (text : Text) : lowercase text.foldCase = lowercase text :=
  lowercaseAfter_foldCase [] text

/-- A letter in front of a sigma is cased in either form, so that the sigma ends the word. -/
example : lowercase "AΣ".toList = "aς".toList ∧ lowercase "aΣ".toList = "aς".toList := by
  decide +kernel

end BrightBlocks.Text
