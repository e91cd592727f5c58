import BrightBlocks.Text.Blank
import BrightBlocks.Text.Numeric

/-!
# Classes of characters

Letters, digits, numbers and blanks are kept in tables of their own. `Intervals.apart` goes
through two tables side by side; where it succeeds no code point is in both of them
(`Intervals.contains_eq_false_of_apart`). No letter is a digit, and no blank can stand in a
name, neither in one that is scanned nor in one that a label shows.

That a set is in ascending order is not asked for: a table that is out of order has lost what a
look-up does not find in it.
-/

namespace BrightBlocks.Text

namespace Intervals

/-- Whether no interval of one set meets one of another set, for sets in ascending order. -/
def apart : Intervals → Intervals → Bool
  | [], _ => true
  | (low, high) :: rest, other =>
    let further := other.dropWhile (·.2 < low)
    further.head?.all (high < ·.1) && apart rest further

/-- Intervals that end below a code point do not hold it. -/
theorem contains_dropWhile {intervals : Intervals} {low point : Nat} (above : low ≤ point)
    (inside : intervals.contains point = true) :
    contains (intervals.dropWhile (·.2 < low)) point = true := by
  induction intervals with
  | nil => contradiction
  | cons interval rest inductionHypothesis =>
    rw [List.dropWhile_cons]
    split
    · rename_i below
      apply inductionHypothesis
      have ended : interval.2 < low := of_decide_eq_true below
      rw [contains] at inside
      split at inside
      · contradiction
      rcases Bool.or_eq_true_iff.mp inside with within | later
      · have reach := of_decide_eq_true within
        omega
      · exact later
    · exact inside

/-- Sets whose intervals are apart have no code point in common. -/
theorem contains_eq_false_of_apart {left right : Intervals} {point : Nat}
    (separate : left.apart right = true) (inside : left.contains point = true) :
    right.contains point = false := by
  apply Bool.eq_false_iff.mpr
  intro both
  induction left generalizing right with
  | nil => contradiction
  | cons interval rest inductionHypothesis =>
    obtain ⟨clear, others⟩ := Bool.and_eq_true_iff.mp separate
    rw [contains] at inside
    split at inside
    · contradiction
    rename_i above
    have further := contains_dropWhile (Nat.le_of_not_lt above) both
    rcases Bool.or_eq_true_iff.mp inside with within | later
    · have reach := of_decide_eq_true within
      cases rest_of_right : right.dropWhile (·.2 < interval.1) with
      | nil =>
        rw [rest_of_right] at further
        contradiction
      | cons next more =>
        rw [rest_of_right] at further clear
        have gap : interval.2 < next.1 := of_decide_eq_true clear
        rw [contains, if_pos (Nat.lt_of_le_of_lt reach gap)] at further
        contradiction
    · exact inductionHypothesis others later further

end Intervals

variable {char : Char}

/-- No letter is a digit. -/
theorem isDecimal_of_isLetter (letter : isLetter char = true) : isDecimal char = false :=
  Intervals.contains_eq_false_of_apart (by decide +kernel) letter

/-- No blank may stand in a name. -/
theorem isNameChar_of_isBlank (blank : isBlank char = true) : isNameChar char = false := by
  have no_letter : isLetter char = false :=
    Intervals.contains_eq_false_of_apart (by decide +kernel) blank
  have no_digit : isDecimal char = false :=
    Intervals.contains_eq_false_of_apart (by decide +kernel) blank
  have no_number : numericIntervals.contains char.toNat = false :=
    Intervals.contains_eq_false_of_apart (by decide +kernel) blank
  have no_underscore : char ≠ '_' := by
    rintro rfl
    exact absurd blank (by decide)
  simp [isNameChar, isAlphanumeric, no_letter, no_digit, no_number, no_underscore]

end BrightBlocks.Text
