import Mathlib.Data.List.Forall2
import BrightBlocks.Outline.Pattern
import BrightBlocks.Proofs.Token.Reach

/-!
# What patterns take

Each part of a pattern takes characters from the front of a text. Where it matches, the text is
what it took and what remains: a keyword letter by letter (`afterKeyword?_eq_some`), and runs of
blanks or of name characters as far as they go (`takeRun?_eq_some`). A keyword, blanks and a run
together split a text into four (`keywordThenRun?_eq_some`).

Where in a line a pattern is tried is left out.
-/

namespace BrightBlocks.Outline

open Text (isBlank isNameChar lowercaseChar)
open Token (Run)

variable {text rest : Text}

/-- A letter of a keyword is the small form of what it matches, or stands for a letter i or s. -/
theorem eq_of_matchesLetter {letter small char : Char} (plain : small ≠ 'ı' ∧ small ≠ 'ſ')
    (becomes : lowercaseChar char = [small]) (found : matchesLetter letter char = true) :
    letter = small := by
  have dotted : lowercaseChar 'İ' ≠ [small] := by simp [lowercaseChar]
  have dotless : lowercaseChar 'ı' = ['ı'] := by decide +kernel
  have long : lowercaseChar 'ſ' = ['ſ'] := by decide +kernel
  simp only [matchesLetter, Bool.or_eq_true, Bool.and_eq_true, decide_eq_true_eq] at found
  rcases found with (same | ⟨-, rfl | rfl⟩) | ⟨-, rfl⟩
  · exact List.singleton_inj.mp (same.symm.trans becomes)
  · exact absurd becomes dotted
  · exact absurd (List.singleton_inj.mp (dotless.symm.trans becomes)).symm plain.1
  · exact absurd (List.singleton_inj.mp (long.symm.trans becomes)).symm plain.2

/-- A keyword takes one character for each of its letters. -/
theorem afterKeyword?_eq_some {keyword : Text} (found : afterKeyword? keyword text = some rest) :
    ∃ spelled, text = spelled ++ rest ∧
      List.Forall₂ (fun letter char => matchesLetter letter char = true) keyword spelled := by
  fun_induction afterKeyword? keyword text with
  | case1 text => exact ⟨[], Option.some.inj found, .nil⟩
  | case2 => contradiction
  | case3 letter keyword char text same inductionHypothesis =>
    obtain ⟨spelled, rfl, letters⟩ := inductionHypothesis found
    exact ⟨char :: spelled, rfl, .cons same letters⟩
  | case4 => contradiction

/-- A run is taken as far as it goes, and has a character. -/
theorem takeRun?_eq_some {accepts : Char → Bool} {run : Text}
    (found : takeRun? accepts text = some (run, rest)) :
    text = run ++ rest ∧ run ≠ [] ∧ Run accepts run rest.head? := by
  cases text with
  | nil => contradiction
  | cons char more =>
    rw [takeRun?] at found
    split at found
    · rename_i accepted
      obtain ⟨rfl, rfl⟩ := Prod.mk.inj (Option.some.inj found)
      have behind := Token.run_take accepts more
      rw [Token.take_takeWhile, Token.drop_takeWhile] at behind
      refine ⟨?_, List.cons_ne_nil _ _, List.forall_mem_cons.mpr ⟨accepted, behind.inside⟩,
        behind.stops⟩
      rw [List.cons_append, List.takeWhile_append_dropWhile]
    · contradiction

/-- Blanks are passed as a run of which only the rest is kept. -/
theorem afterBlanks?_eq (text : Text) : afterBlanks? text = (takeRun? isBlank text).map (·.2) := by
  cases text with
  | nil => rfl
  | cons char rest =>
    rw [afterBlanks?, takeRun?]
    split <;> rfl

/-- A keyword, blanks and a run stand one behind the other where they are found together. -/
theorem keywordThenRun?_eq_some {accepts : Char → Bool} {keyword run : Text}
    (found : keywordThenRun? accepts keyword text = some (run, rest)) :
    ∃ spelled blanks, text = spelled ++ (blanks ++ (run ++ rest)) ∧
      List.Forall₂ (fun letter char => matchesLetter letter char = true) keyword spelled ∧
      (blanks ≠ [] ∧ Run isBlank blanks (run ++ rest).head?) ∧
      run ≠ [] ∧ Run accepts run rest.head? := by
  obtain ⟨behind, after_keyword, found⟩ := Option.bind_eq_some_iff.mp found
  obtain ⟨named, after_blanks, taken⟩ := Option.bind_eq_some_iff.mp found
  rw [afterBlanks?_eq, Option.map_eq_some_iff] at after_blanks
  obtain ⟨⟨blanks, _⟩, passed, rfl⟩ := after_blanks
  obtain ⟨spelled, rfl, letters⟩ := afterKeyword?_eq_some after_keyword
  obtain ⟨rfl, some_blank, gap⟩ := takeRun?_eq_some passed
  obtain ⟨rfl, some_char, name⟩ := takeRun?_eq_some taken
  exact ⟨spelled, blanks, rfl, letters, ⟨some_blank, gap⟩, some_char, name⟩

end BrightBlocks.Outline
