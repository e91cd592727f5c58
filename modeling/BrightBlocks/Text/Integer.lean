import BrightBlocks.Text.Blank
import BrightBlocks.Text.Decimal

/-!
# Reading integers

An integer is written as a sign, which may be missing, and decimal digits of any
script, between any two of which a single underscore may stand. Blanks around it
do not count, the four separators from U+001C to U+001F excepted. Numbers of
more than 4300 digits are refused.
-/

namespace BrightBlocks.Text

/-- The most digits that an integer may be written with. -/
def maxIntegerDigits : Nat := 4300

/-- Whether a blank may surround an integer. -/
def isIntegerMargin (char : Char) : Bool :=
  isBlank char && !(0x1C ≤ char.toNat && char.toNat ≤ 0x1F)

/-- The values of the digits, nothing if the text is not digits and single underscores between. -/
def digitValues? : Text → Option (List Nat)
  | [] => none
  | [char] => (decimalValue? char).map ([·])
  | char :: '_' :: rest => do return (← decimalValue? char) :: (← digitValues? rest)
  | char :: rest => do return (← decimalValue? char) :: (← digitValues? rest)

/-- The number that digits without a sign stand for. -/
def natural? (text : Text) : Option Nat := do
  let values ← digitValues? text
  if values.length ≤ maxIntegerDigits then
    some (values.foldl (fun number value => number * 10 + value) 0)
  else
    none

/-- The integer that a text stands for. -/
def integer? (text : Text) : Option Int :=
  let body := ((text.dropWhile isIntegerMargin).reverse.dropWhile isIntegerMargin).reverse
  match body with
  | '+' :: rest => (natural? rest).map Int.ofNat
  | '-' :: rest => (natural? rest).map (-Int.ofNat ·)
  | _ => (natural? body).map Int.ofNat

end BrightBlocks.Text
