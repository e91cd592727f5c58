import Mathlib.Algebra.Group.Nat.Defs
import Mathlib.Data.List.Basic
import BrightBlocks.Text.Decimal
import BrightBlocks.Text.Hexadecimal

/-!
# Texts that can be read back

What is written of a value can be read back when it is told from everything else
that could be written, and from whatever stands behind it. `Recoverable` says so
of a single value, for a kind of texts that may follow: a number has to be
followed by no digit, a quoted text may be followed by anything.

Lists, escapes, lines and numerals are treated here. A value is not read back by
a function but told apart from all others; only for the escapes of characters and
the numerals in them there are readers.
-/

namespace BrightBlocks.Text

/-! ## What may follow -/

/--
Where something that may follow stands behind it, what is written of `value` is written of no
other value, also if other things follow.
-/
def Recoverable {α : Type} (follows : Text → Prop) (write : α → Text) (value : α) : Prop :=
  ∀ ⦃other : α⦄ ⦃rest rest' : Text⦄, follows rest → follows rest' →
    write value ++ rest = write other ++ rest' → value = other ∧ rest = rest'

/-- Nothing is required of what follows. -/
def Anything : Text → Prop :=
  fun _ => True

section

variable {α : Type} {follows : Text → Prop} {write : α → Text}

/-- A fixed text in front changes nothing. -/
theorem Recoverable.behind (lead : Text) {value : α}
    (recoverable : Recoverable follows write value) :
    Recoverable follows (fun value => lead ++ write value) value := by
  intro other rest rest' allowed allowed' same
  rw [List.append_assoc, List.append_assoc, List.append_cancel_left_eq] at same
  exact recoverable allowed allowed' same

/-- What a reader gives back whatever follows can be read back. -/
theorem Recoverable.of_reader {read : Text → Option (α × Text)}
    (reads : ∀ value rest, read (write value ++ rest) = some (value, rest)) (value : α) :
    Recoverable Anything write value := by
  intro other rest rest' _ _ same
  have back := congrArg read same
  rw [reads, reads] at back
  exact Prod.mk.inj (Option.some.inj back)

/--
A list is written item by item up to a closing text. It can be read back where no item starts like
the closing text, and where the next item and the closing text may both follow an item.
-/
theorem Recoverable.flatMap {closing : Text}
    (opens : ∀ item rest rest', write item ++ rest ≠ closing ++ rest')
    (next : ∀ item rest, follows (write item ++ rest)) (closes : ∀ rest, follows (closing ++ rest))
    {items : List α} (each : ∀ item ∈ items, Recoverable follows write item) :
    Recoverable Anything (fun items => items.flatMap write ++ closing) items := by
  have continues (items : List α) (rest : Text) :
      follows (items.flatMap write ++ (closing ++ rest)) := by
    cases items with
    | nil => exact closes rest
    | cons item items =>
      rw [List.flatMap_cons, List.append_assoc]
      exact next item _
  intro others rest rest' _ _ same
  simp only [List.append_assoc] at same
  induction items generalizing others with
  | nil =>
    cases others with
    | nil => exact ⟨rfl, List.append_cancel_left same⟩
    | cons other others =>
      rw [List.flatMap_cons, List.append_assoc] at same
      exact absurd same.symm (opens other _ rest)
  | cons item items inductionHypothesis =>
    cases others with
    | nil =>
      rw [List.flatMap_cons, List.append_assoc] at same
      exact absurd same (opens item _ rest')
    | cons other others =>
      simp only [List.flatMap_cons, List.append_assoc] at same
      obtain ⟨rfl, behind⟩ := each item List.mem_cons_self (continues items rest)
        (continues others rest') same
      obtain ⟨rfl, rfl⟩ := inductionHypothesis
        (fun item member => each item (List.mem_cons_of_mem _ member)) behind
      exact ⟨rfl, rfl⟩

end

/-! ## Escapes -/

/-- Between two marks `quote`, a character stands for itself, or a backslash comes first. -/
def Escapes (quote : Char) (code : Char → Text) : Prop :=
  ∀ char, (code char = [char] ∧ char ≠ quote) ∨ ∃ rest, code char = '\\' :: rest

/-- No character between two marks looks like the closing one. -/
theorem Escapes.ne_quote {quote : Char} {code : Char → Text} (escapes : Escapes quote code)
    (backslash : '\\' ≠ quote) (char : Char) (rest rest' : Text) :
    code char ++ rest ≠ [quote] ++ rest' := by
  intro same
  rcases escapes char with ⟨written, other⟩ | ⟨escape, written⟩
  · rw [written] at same
    exact other (List.cons.inj same).1
  · rw [written] at same
    exact backslash (List.cons.inj same).1

/-- A text whose characters can be read back one by one ends where the closing mark stands. -/
theorem Escapes.recoverable {quote : Char} {code : Char → Text}
    {read : Text → Option (Char × Text)} (escapes : Escapes quote code)
    (backslash : '\\' ≠ quote)
    (reads : ∀ char rest, read (code char ++ rest) = some (char, rest)) (text : Text) :
    Recoverable Anything (fun text : Text => text.flatMap code ++ [quote]) text :=
  Recoverable.flatMap (escapes.ne_quote backslash) (fun _ _ => trivial) (fun _ => trivial)
    fun char _ => Recoverable.of_reader reads char

/-! ## Runs of characters -/

/-- A text that starts with no character of a sort. -/
def Stops (sort : Char → Bool) (text : Text) : Prop :=
  ∀ char ∈ text.head?, sort char = false

theorem Stops.cons {sort : Char → Bool} {char : Char} (other : sort char = false) (rest : Text) :
    Stops sort (char :: rest) := by
  intro first found
  obtain rfl := Option.some.inj found
  exact other

theorem Stops.takeWhile {sort : Char → Bool} {text : Text} (stops : Stops sort text) :
    text.takeWhile sort = [] := by
  cases text with
  | nil => rfl
  | cons char rest => simp [stops char rfl]

/-- A run of characters of one sort is told from what follows it by the first other character. -/
theorem eq_of_sort {sort : Char → Bool} {front front' back back' : Text}
    (inside : ∀ char ∈ front, sort char = true) (inside' : ∀ char ∈ front', sort char = true)
    (stops : Stops sort back) (stops' : Stops sort back') (same : front ++ back = front' ++ back') :
    front = front' ∧ back = back' := by
  have taken := congrArg (List.takeWhile sort) same
  rw [List.takeWhile_append_of_pos inside, List.takeWhile_append_of_pos inside', stops.takeWhile,
    stops'.takeWhile, List.append_nil, List.append_nil] at taken
  subst taken
  exact ⟨rfl, List.append_cancel_left same⟩

/-! ## Joined texts -/

theorem joined_eq_intercalate (separator : Text) :
    (texts : List Text) → joined separator texts = separator.intercalate texts
  | [] => rfl
  | [only] => by simp [joined]
  | first :: second :: rest => by
    rw [joined, joined_eq_intercalate separator (second :: rest), List.intercalate_cons_cons]
    exact List.cons_ne_nil second rest

/-- Behind the first text, each text has a separator in front. -/
theorem joined_cons (separator first : Text) (rest : List Text) :
    joined separator (first :: rest) = first ++ rest.flatMap (separator ++ ·) := by
  induction rest generalizing first with
  | nil => simp [joined]
  | cons second rest inductionHypothesis =>
    rw [joined, inductionHypothesis, List.flatMap_cons, List.append_assoc, List.append_assoc]
    exact List.cons_ne_nil second rest

/-- Lines that are joined can be told apart. -/
theorem joined_lines_inj {lines lines' : List Text} (some_line : lines ≠ [])
    (some_line' : lines' ≠ []) (single : ∀ line ∈ lines, '\n' ∉ line)
    (single' : ∀ line ∈ lines', '\n' ∉ line) (same : joined ['\n'] lines = joined ['\n'] lines') :
    lines = lines' := by
  rw [joined_eq_intercalate, joined_eq_intercalate] at same
  rw [← List.splitOn_intercalate '\n' single some_line, same,
    List.splitOn_intercalate '\n' single' some_line']

/-! ## Decimal numerals -/

/-- The characters that integers are written with. -/
def isNumeral (char : Char) : Bool :=
  char = '-' || char.isDigit

theorem ofInt_eq (number : Int) :
    ofInt number =
      if 0 ≤ number then Nat.toDigits 10 number.toNat
      else '-' :: Nat.toDigits 10 (-number).toNat := by
  rw [ofInt, Int.toString_eq_repr, Int.repr_eq_if]
  split
  · exact Nat.toList_repr
  · rw [String.toList_append, Nat.toList_repr]
    rfl

theorem isDigit_of_mem_digits {number : Nat} {char : Char}
    (member : char ∈ Nat.toDigits 10 number) : char.isDigit = true :=
  Nat.isDigit_of_mem_toDigits (by decide) (by decide) member

theorem isNumeral_of_mem_ofInt {number : Int} {char : Char} (member : char ∈ ofInt number) :
    isNumeral char = true := by
  rw [ofInt_eq] at member
  split at member
  · simp [isNumeral, isDigit_of_mem_digits member]
  · rcases List.mem_cons.mp member with rfl | later
    · rfl
    · simp [isNumeral, isDigit_of_mem_digits later]

/-- A numeral starts with a character of its own. -/
theorem exists_head_ofInt (number : Int) : ∃ char rest, ofInt number = char :: rest ∧
    isNumeral char = true := by
  cases written : ofInt number with
  | nil =>
    rw [ofInt_eq] at written
    split at written
    · exact absurd written Nat.toDigits_ne_nil
    · exact absurd written nofun
  | cons char rest =>
    exact ⟨char, rest, rfl, isNumeral_of_mem_ofInt (written ▸ List.mem_cons_self)⟩

theorem digits_inj {first second : Nat} (same : Nat.toDigits 10 first = Nat.toDigits 10 second) :
    first = second := by
  rw [← @Nat.ofDigitChars_ten_toDigits first, same, Nat.ofDigitChars_ten_toDigits]

theorem digits_ne_negative (first second : Nat) :
    Nat.toDigits 10 first ≠ '-' :: Nat.toDigits 10 second := by
  intro same
  have digit : Char.isDigit '-' = true := isDigit_of_mem_digits (same ▸ List.mem_cons_self)
  exact absurd digit (by decide)

theorem ofInt_inj {first second : Int} (same : ofInt first = ofInt second) : first = second := by
  rw [ofInt_eq, ofInt_eq] at same
  split at same <;> split at same
  · have values := digits_inj same
    omega
  · exact absurd same (digits_ne_negative _ _)
  · exact absurd same.symm (digits_ne_negative _ _)
  · have values := digits_inj (List.cons.inj same).2
    omega

/-- A numeral ends where the next character belongs to none. -/
theorem ofInt_recoverable (number : Int) :
    Recoverable (Stops isNumeral) ofInt number := by
  intro other rest rest' stops stops' same
  obtain ⟨numerals, behind⟩ := eq_of_sort (fun _ => isNumeral_of_mem_ofInt)
    (fun _ => isNumeral_of_mem_ofInt) stops stops' same
  exact ⟨ofInt_inj numerals, behind⟩

/-! ## Hexadecimal numerals -/

/-- The value of a hexadecimal digit in small letters. -/
def hexDigitValue (char : Char) : Nat :=
  if char.toNat < 0x3A then char.toNat - 0x30 else char.toNat - 0x57

/-- The number that hexadecimal digits stand for. -/
def hexValue (digits : Text) : Nat :=
  digits.foldl (fun number digit => number * 16 + hexDigitValue digit) 0

theorem hexDigitValue_hexDigit : ∀ value < 16, hexDigitValue (hexDigit value) = value := by
  decide

theorem isHexDigit_hexDigit : ∀ value < 16, isHexDigit (hexDigit value) = true := by
  decide

@[simp]
theorem length_hex (width value : Nat) : (hex width value).length = width := by
  induction width generalizing value with
  | zero => rfl
  | succ width inductionHypothesis => simp [hex, inductionHypothesis]

theorem hexValue_append_digit (front : Text) (digit : Char) :
    hexValue (front ++ [digit]) = hexValue front * 16 + hexDigitValue digit := by
  simp [hexValue]

theorem hexValue_hex (width value : Nat) : hexValue (hex width value) = value % 16 ^ width := by
  induction width generalizing value with
  | zero => simp [hex, hexValue, Nat.mod_one]
  | succ width inductionHypothesis =>
    have digit := hexDigitValue_hexDigit (value % 16) (Nat.mod_lt _ (by decide))
    rw [hex, hexValue_append_digit, inductionHypothesis, digit, Nat.pow_succ', Nat.mod_mul]
    omega

theorem isHexDigit_of_mem_hex {width value : Nat} {char : Char} (member : char ∈ hex width value) :
    isHexDigit char = true := by
  induction width generalizing value with
  | zero => exact absurd member nofun
  | succ width inductionHypothesis =>
    rcases List.mem_append.mp member with earlier | last
    · exact inductionHypothesis earlier
    · obtain rfl := List.mem_singleton.mp last
      exact isHexDigit_hexDigit _ (Nat.mod_lt _ (by decide))

/-- No code point needs more than six digits. -/
theorem toNat_lt (char : Char) : char.toNat < 0x110000 := by
  have valid := char.valid
  simp only [UInt32.isValidChar, Nat.isValidChar] at valid
  show char.val.toNat < _
  omega

/-- Reads the number in front of a text that is written with `width` hexadecimal digits. -/
def readHex (width : Nat) (text : Text) : Nat × Text :=
  (hexValue (text.take width), text.drop width)

theorem readHex_hex (width : Nat) {value : Nat} (fits : value < 16 ^ width) (rest : Text) :
    readHex width (hex width value ++ rest) = (value, rest) := by
  rw [readHex, List.take_left' (length_hex width value), List.drop_left' (length_hex width value),
    hexValue_hex, Nat.mod_eq_of_lt fits]

end BrightBlocks.Text
