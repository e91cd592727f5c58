import Mathlib.Data.Bool.AllAny
import Mathlib.Data.List.TakeWhile
import BrightBlocks.Proofs.Text.SmallLetters
import BrightBlocks.Token.Scan

/-!
# How far tokens reach

Most tokens are runs that end in front of the first character that does not continue them
(`Run`). How far a name, a string or an operator reaches, and whether a text starts with a
remark, is decided by the characters that belong to it and by at most one behind them.
-/

namespace BrightBlocks.Token

/-- A run of accepted characters that the next character does not continue. -/
structure Run (accepts : Char → Bool) (run : Text) (next : Option Char) : Prop where
  inside : ∀ char ∈ run, accepts char = true
  stops : ∀ char ∈ next, accepts char = false

/-- A run is what is accepted at the front of a text. -/
theorem Run.takeWhile_eq {accepts : Char → Bool} {run rest : Text}
    (found : Run accepts run rest.head?) : (run ++ rest).takeWhile accepts = run := by
  rw [List.takeWhile_append_of_pos found.inside]
  have none_more : rest.takeWhile accepts = [] := by
    cases rest with
    | nil => rfl
    | cons char more => exact List.takeWhile_cons_of_neg (by simp [found.stops char rfl])
  rw [none_more, List.append_nil]

section

variable (accepts : Char → Bool) (text : Text)

theorem take_takeWhile :
    text.take (text.takeWhile accepts).length = text.takeWhile accepts :=
  (List.prefix_iff_eq_take.mp (List.takeWhile_prefix accepts)).symm

theorem drop_takeWhile :
    text.drop (text.takeWhile accepts).length = text.dropWhile accepts := by
  have whole := List.takeWhile_append_dropWhile (p := accepts) (l := text)
  have dropped := congrArg (List.drop (text.takeWhile accepts).length) whole
  rwa [List.drop_left, eq_comm] at dropped

/-- What is accepted at the front of a text is a run. -/
theorem run_take :
    Run accepts (text.take (text.takeWhile accepts).length)
      (text.drop (text.takeWhile accepts).length).head? where
  inside char member := by
    rw [take_takeWhile] at member
    exact List.mem_takeWhile_imp member
  stops char found := by
    have refused := List.head?_dropWhile_not accepts text
    rw [drop_takeWhile, Option.mem_def] at found
    rwa [found] at refused

end

/-! ## Remarks -/

theorem first_of_startsRemark {first : Char} {rest : Text}
    (spelled : startsRemark (first :: rest) = true) : first = 'r' ∨ first = 'R' := by
  unfold startsRemark at spelled
  split at spelled
  · rename_i same
    obtain ⟨rfl, -⟩ := List.cons.inj same
    simp only [Bool.and_eq_true, decide_eq_true_eq] at spelled
    exact Text.eq_of_lowercaseChar_eq_r spelled.1.1.1
  · contradiction

/-- Whether a text starts with a remark is decided by the letters at its front. -/
theorem startsRemark_append (first : Char) (front : Text) {rest : Text}
    (stops : ∀ char ∈ rest.head?, continuesName char = false) :
    startsRemark (first :: (front ++ rest)) = startsRemark (first :: front) := by
  cases rest with
  | nil => rw [List.append_nil]
  | cons next more =>
    have stop := stops next rfl
    have no_e : Text.lowercaseChar next ≠ ['e'] := by
      intro becomes
      rcases Text.eq_of_lowercaseChar_eq_e becomes with rfl | rfl <;> exact absurd stop (by decide)
    have no_m : Text.lowercaseChar next ≠ ['m'] := by
      intro becomes
      rcases Text.eq_of_lowercaseChar_eq_m becomes with rfl | rfl <;> exact absurd stop (by decide)
    have no_letter : isWordChar next = false := (Bool.or_eq_false_iff.mp stop).1
    match front with
    | [] => cases more <;> simp [startsRemark, no_e]
    | [second] => simp [startsRemark, no_m]
    | second :: third :: others => cases others <;> simp [startsRemark, no_letter]

/-- The end of its line decides about no remark. -/
theorem startsRemark_line (first : Char) {body rest : Text}
    (line : Run (· ≠ '\n') body rest.head?) :
    startsRemark (first :: (body ++ rest)) = startsRemark (first :: body) := by
  apply startsRemark_append
  intro char found
  obtain rfl : char = '\n' := by simpa using line.stops char found
  decide

/-! ## How far tokens reach -/

/-- An operator is extended by the characters that it takes, and not by the next one. -/
theorem operatorTail_append (first : Char) (body rest : Text) :
    operatorTail first (body ++ rest) = body.length ↔
      operatorTail first (body ++ rest.head?.toList) = body.length := by
  cases rest with
  | nil => rfl
  | cons next more =>
    match body with
    | [] =>
      simp only [List.nil_append, operatorTail, List.head?_cons, Option.toList_some,
        List.length_nil]
      repeat' split
      all_goals simp
    | [second] => rfl
    | second :: third :: others => rfl

/-- An operator stays what it is when a line ends behind it. -/
theorem operatorTail_lineEnd {first : Char} {body : Text} {next other : Option Char}
    (extends_to : operatorTail first (body ++ next.toList) = body.length)
    (ends : other = none ∨ other = some '\n') :
    operatorTail first (body ++ other.toList) = body.length := by
  match body with
  | [] =>
    rcases ends with rfl | rfl
    · rfl
    · have no_sign : '\n' ∉ ['+', '-'] ∧ '\n' ∉ ['<', '>'] := by decide
      simp only [List.nil_append, Option.toList_some, operatorTail, List.length_nil]
      grind
  | [second] =>
    have no_equals : other.toList.head? ≠ some '=' := by rcases ends with rfl | rfl <;> simp
    simp only [List.cons_append, List.nil_append, operatorTail, List.length_singleton]
      at extends_to ⊢
    rw [if_neg no_equals]
    grind
  | second :: third :: others => exact extends_to

theorem nameTail_of_undesignated {letters rest : Text}
    (run : Run continuesName letters rest.head?)
    (undesignated : ∀ char ∈ rest.head?, char ∉ typeDesignators) :
    nameTail (letters ++ rest) = letters.length := by
  have refused : (rest.head?.any (· ∈ typeDesignators)) = false := by
    cases rest with
    | nil => rfl
    | cons next more => simpa using undesignated next rfl
  simp [nameTail, run.takeWhile_eq, refused]

theorem continuesName_designator : ∀ char ∈ typeDesignators, continuesName char = false :=
  List.all_iff_forall_prop.mp (by decide)

theorem nameTail_of_designated {letters rest : Text} {designator : Char}
    (inside : ∀ char ∈ letters, continuesName char = true)
    (designated : designator ∈ typeDesignators) :
    nameTail (letters ++ designator :: rest) = letters.length + 1 := by
  have run : Run continuesName letters (designator :: rest).head? := by
    refine ⟨inside, fun char found => ?_⟩
    obtain rfl := Option.some.inj found
    exact continuesName_designator _ designated
  simp [nameTail, run.takeWhile_eq, designated]

theorem stringTail_of_closed {content rest : Text} (plain : ∀ char ∈ content, char ≠ '"') :
    stringTail (content ++ '"' :: rest) = content.length + 1 := by
  have run : Run (· ≠ '"') content ('"' :: rest).head? :=
    ⟨by simpa using plain, by simp⟩
  have before : (content ++ '"' :: rest).before '"' = content := run.takeWhile_eq
  simp [stringTail, before]

theorem stringTail_of_open {content : Text} (plain : ∀ char ∈ content, char ≠ '"') :
    stringTail content = content.length := by
  have before : content.before '"' = content :=
    List.takeWhile_eq_self_iff.mpr (by simpa using plain)
  simp [stringTail, before]

end BrightBlocks.Token
