import BrightBlocks.Proofs.Text.Recoverable
import BrightBlocks.Report.Json

/-!
# JSON can be read back

No two values are written alike, at any level of indentation and whatever stands
behind them (`render_recoverable`). The first character shows which form a value
has, strings and numbers show where they end, and between the elements of an
array or an object stands a comma, behind the last a line break.
-/

namespace BrightBlocks.Json

open Text (Escapes Recoverable Stops Anything readHex readHex_hex isNumeral)

/-- What holds of a value when it holds of its parts holds of all values. -/
@[elab_as_elim]
theorem induction {motive : Json → Prop} (number : ∀ value, motive (number value))
    (flag : ∀ value, motive (flag value)) (string : ∀ value, motive (string value))
    (array : ∀ items, (∀ item ∈ items, motive item) → motive (array items))
    (object : ∀ fields, (∀ field ∈ fields, motive field.2) → motive (object fields)) :
    (value : Json) → motive value
  | .number value => number value
  | .flag value => flag value
  | .string value => string value
  | .array items => array items fun item _ => induction number flag string array object item
  | .object fields =>
    object fields fun field _ => induction number flag string array object field.2
  termination_by value => sizeOf value
  decreasing_by
    · have smaller := List.sizeOf_lt_of_mem ‹item ∈ items›
      simp_wf
      omega
    · have smaller := List.sizeOf_lt_of_mem ‹field ∈ fields›
      obtain ⟨name, value⟩ := field
      simp only [Prod.mk.sizeOf_spec] at smaller
      simp_wf
      omega

/-! ## Strings -/

/-- Reads a code unit behind the mark of its escape, with a second one where it is half a pair. -/
def readUnits (text : Text) : Char × Text :=
  let (high, rest) := readHex 4 text
  if 0xD800 ≤ high ∧ high < 0xDC00 then
    let (low, rest) := readHex 4 (rest.drop 2)
    (Char.ofNat (0x10000 + (high - 0xD800) * 0x400 + (low - 0xDC00)), rest)
  else (Char.ofNat high, rest)

/-- Reads one character of a string. -/
def readChar : Text → Option (Char × Text)
  | '\\' :: 'n' :: rest => some ('\n', rest)
  | '\\' :: 'r' :: rest => some ('\r', rest)
  | '\\' :: 't' :: rest => some ('\t', rest)
  | '\\' :: 'b' :: rest => some (Char.ofNat 0x08, rest)
  | '\\' :: 'f' :: rest => some (Char.ofNat 0x0C, rest)
  | '\\' :: 'u' :: rest => some (readUnits rest)
  | '\\' :: char :: rest => some (char, rest)
  | char :: rest => some (char, rest)
  | [] => none

/-- A character of the first plane is one code unit, and no half of a pair. -/
theorem readUnits_unit {char : Char} (small : char.toNat < 0x10000) (rest : Text) :
    readUnits (Text.hex 4 char.toNat ++ rest) = (char, rest) := by
  have valid : char.toNat < 0xD800 ∨ 0xDFFF < char.toNat := by
    rcases char.valid with low | high
    · exact .inl low
    · exact .inr high.1
  have whole : ¬(0xD800 ≤ char.toNat ∧ char.toNat < 0xDC00) := by omega
  simp [readUnits, readHex_hex 4 small, whole]

/-- All other characters are two. -/
theorem readUnits_pair {char : Char} (large : 0x10000 ≤ char.toNat) (rest : Text) :
    readUnits (Text.hex 4 (0xD800 + (char.toNat - 0x10000) / 0x400) ++
      (escapeUnit (0xDC00 + (char.toNat - 0x10000) % 0x400) ++ rest)) = (char, rest) := by
  have bound := Text.toNat_lt char
  have high : 0xD800 + (char.toNat - 0x10000) / 0x400 < 0xDC00 := by omega
  have low : 0xDC00 + (char.toNat - 0x10000) % 0x400 < 16 ^ 4 := by omega
  have point : 0x10000 + (0xD800 + (char.toNat - 0x10000) / 0x400 - 0xD800) * 0x400 +
      (0xDC00 + (char.toNat - 0x10000) % 0x400 - 0xDC00) = char.toNat := by omega
  rw [readUnits, readHex_hex 4 (Nat.lt_trans high (by decide))]
  dsimp only
  rw [if_pos ⟨Nat.le_add_right _ _, high⟩, escapeUnit, List.cons_append, List.cons_append,
    List.drop_succ_cons, List.drop_succ_cons, List.drop_zero, readHex_hex 4 low]
  dsimp only
  rw [point, Char.ofNat_toNat]

theorem readChar_quotedChar (char : Char) (rest : Text) :
    readChar (quotedChar char ++ rest) = some (char, rest) := by
  unfold quotedChar
  dsimp only
  split
  · rename_i special
    rcases special with rfl | rfl <;> rfl
  · rename_i plain
    split
    · subst char; rfl
    split
    · subst char; rfl
    split
    · subst char; rfl
    split
    · rename_i point
      rw [← Char.ofNat_toNat char, point]; rfl
    split
    · rename_i point
      rw [← Char.ofNat_toNat char, point]; rfl
    split
    · have backslash : char ≠ '\\' := fun equal => plain (.inr equal)
      simp [readChar, backslash]
    split
    · rename_i small
      exact congrArg some (readUnits_unit small rest)
    · rename_i large
      rw [List.append_assoc]
      exact congrArg some (readUnits_pair (Nat.le_of_not_lt large) rest)

theorem quotedChar_escapes : Escapes '"' quotedChar := by
  intro char
  unfold quotedChar escapeUnit
  dsimp only
  split
  · exact .inr ⟨_, rfl⟩
  · rename_i plain
    iterate 5
      split
      · exact .inr ⟨_, rfl⟩
    split
    · exact .inl ⟨rfl, fun equal => plain (.inl equal)⟩
    · split <;> exact .inr ⟨_, rfl⟩

theorem quoted_recoverable (text : Text) : Recoverable Anything quoted text :=
  (quotedChar_escapes.recoverable (by decide) readChar_quotedChar text).behind ['"']

/-! ## Values -/

/-- What stands behind a value: a comma, a line break, or nothing. -/
def Follows (rest : Text) : Prop :=
  ∀ char ∈ rest.head?, char = ',' ∨ char = '\n'

theorem Follows.nil : Follows [] :=
  nofun

theorem Follows.comma (rest : Text) : Follows (',' :: rest) := by
  intro char found
  exact .inl (Option.some.inj found).symm

theorem Follows.newLine (level : Nat) (rest : Text) : Follows (Json.newLine level ++ rest) := by
  intro char found
  exact .inr (Option.some.inj found).symm

theorem Follows.stops {rest : Text} (follows : Follows rest) : Stops isNumeral rest := by
  intro char found
  rcases follows char found with rfl | rfl <;> rfl

/-- The form of a value. -/
inductive Form
  | number
  | flag
  | string
  | array
  | object
  deriving DecidableEq

/-- The form that a value has. -/
def form : Json → Form
  | number _ => .number
  | flag _ => .flag
  | string _ => .string
  | array _ => .array
  | object _ => .object

/-- The form that a value has by its first character. -/
def formOf (char : Char) : Form :=
  if char = '"' then .string
  else if char = '[' then .array
  else if char = '\x7b' then .object
  else if char = 't' ∨ char = 'f' then .flag
  else .number

theorem formOf_of_isNumeral {char : Char} (numeral : isNumeral char = true) :
    formOf char = .number := by
  unfold formOf
  repeat' split
  · subst char; exact absurd numeral (by decide)
  · subst char; exact absurd numeral (by decide)
  · subst char; exact absurd numeral (by decide)
  · rename_i letter
    rcases letter with rfl | rfl <;> exact absurd numeral (by decide)
  · rfl

/-- The first character of a list of elements is its opening bracket. -/
theorem exists_wrapped (opening closing : Char) (level : Nat) (texts : List Text) :
    ∃ rest, wrapped opening closing level texts = opening :: rest := by
  cases texts with
  | nil => exact ⟨_, rfl⟩
  | cons first rest => exact ⟨_, rfl⟩

theorem exists_head_render (level : Nat) (value : Json) :
    ∃ char rest, render level value = char :: rest ∧ formOf char = value.form := by
  cases value with
  | number value =>
    obtain ⟨char, rest, written, numeral⟩ := Text.exists_head_ofInt value
    exact ⟨char, rest, written, formOf_of_isNumeral numeral⟩
  | flag value => cases value <;> exact ⟨_, _, rfl, rfl⟩
  | string value => exact ⟨_, _, rfl, rfl⟩
  | array items =>
    obtain ⟨rest, written⟩ := exists_wrapped '[' ']' level (renderItems level items)
    exact ⟨_, rest, written, rfl⟩
  | object fields =>
    obtain ⟨rest, written⟩ := exists_wrapped '\x7b' '\x7d' level (renderFields level fields)
    exact ⟨_, rest, written, rfl⟩

/-- Values of different forms are never written alike. -/
theorem form_eq_of_render {level : Nat} {first second : Json} {rest rest' : Text}
    (same : render level first ++ rest = render level second ++ rest') :
    first.form = second.form := by
  obtain ⟨char, _, written, form⟩ := exists_head_render level first
  obtain ⟨char', _, written', form'⟩ := exists_head_render level second
  rw [written, written'] at same
  rw [← form, ← form', (List.cons.inj same).1]

/-! ## Elements and fields -/

/-- A field as it is written inside an object that stands at `level`. -/
def fieldText (level : Nat) (field : String × Json) : Text :=
  quoted field.1.toList ++ (": ".toList ++ render (level + 1) field.2)

theorem renderItems_eq_map (level : Nat) (items : List Json) :
    renderItems level items = items.map (render (level + 1)) := by
  induction items with
  | nil => rfl
  | cons item rest inductionHypothesis => rw [renderItems, inductionHypothesis, List.map_cons]

theorem renderFields_eq_map (level : Nat) (fields : List (String × Json)) :
    renderFields level fields = fields.map (fieldText level) := by
  induction fields with
  | nil => rfl
  | cons field rest inductionHypothesis =>
    rw [renderFields, inductionHypothesis, List.map_cons, fieldText, List.append_assoc]

section

variable {α : Type} {write : α → Text} {items : List α}

/-- What stands behind the first element: a comma and an element each time, then the bracket. -/
def further (level : Nat) (closing : Char) (write : α → Text) (items : List α) : Text :=
  items.flatMap (fun item => (',' :: newLine (level + 1)) ++ write item) ++
    (newLine level ++ [closing])

theorem wrapped_map_cons (opening closing : Char) (level : Nat) (item : α) (items : List α) :
    wrapped opening closing level ((item :: items).map write) =
      opening :: (newLine (level + 1) ++ (write item ++ further level closing write items)) := by
  simp [wrapped, Text.joined_cons, further, List.flatMap_map]

theorem further_follows (level : Nat) (closing : Char) (items : List α) (rest : Text) :
    Follows (further level closing write items ++ rest) := by
  cases items with
  | nil => exact Follows.newLine level ([closing] ++ rest)
  | cons item items => exact Follows.comma _

theorem further_recoverable (level : Nat) (closing : Char)
    (each : ∀ item ∈ items, Recoverable Follows write item) :
    Recoverable Anything (further level closing write) items := by
  apply Recoverable.flatMap
  · intro item rest rest' same
    exact absurd (List.cons.inj same).1 (by decide)
  · intro item rest
    exact Follows.comma _
  · intro rest
    rw [List.append_assoc]
    exact Follows.newLine level _
  · intro item member
    exact (each item member).behind _

/-- Elements that can be read back one by one can be read back as a list. -/
theorem wrapped_recoverable (level : Nat) {opening closing : Char} (closes : closing ≠ '\n')
    (each : ∀ item ∈ items, Recoverable Follows write item) :
    Recoverable Anything (fun items => wrapped opening closing level (items.map write)) items := by
  intro others rest rest' _ _ same
  dsimp only at same
  cases items with
  | nil =>
    cases others with
    | nil => exact ⟨rfl, List.append_cancel_left same⟩
    | cons other others =>
      rw [wrapped_map_cons] at same
      exact absurd (List.cons.inj (List.cons.inj same).2).1 closes
  | cons item items =>
    cases others with
    | nil =>
      rw [wrapped_map_cons] at same
      exact absurd (List.cons.inj (List.cons.inj same).2).1.symm closes
    | cons other others =>
      rw [wrapped_map_cons, wrapped_map_cons] at same
      simp only [List.cons_append, List.cons.injEq, true_and, List.append_assoc,
        List.append_cancel_left_eq] at same
      obtain ⟨rfl, behind⟩ := each item List.mem_cons_self
        (further_follows level closing items rest) (further_follows level closing others rest') same
      obtain ⟨rfl, rests⟩ := further_recoverable level closing
        (fun item member => each item (List.mem_cons_of_mem _ member)) trivial trivial behind
      exact ⟨rfl, rests⟩

end

/-! ## Whole values -/

theorem fieldText_recoverable {level : Nat} {field : String × Json}
    (value : Recoverable Follows (render (level + 1)) field.2) :
    Recoverable Follows (fieldText level) field := by
  intro other rest rest' allowed allowed' same
  simp only [fieldText, List.append_assoc] at same
  obtain ⟨names, behind⟩ := quoted_recoverable field.1.toList trivial trivial same
  obtain ⟨values, rests⟩ := value allowed allowed' (List.append_cancel_left behind)
  exact ⟨Prod.ext (String.toList_inj.mp names) values, rests⟩

/-- What is written of a value, with what may stand behind it, is written of no other value. -/
theorem render_recoverable (value : Json) (level : Nat) :
    Recoverable Follows (render level) value := by
  induction value using Json.induction generalizing level with
  | number value =>
    intro other rest rest' allowed allowed' same
    have forms := form_eq_of_render same
    cases other with
    | number other =>
      obtain ⟨rfl, rests⟩ := Text.ofInt_recoverable value allowed.stops allowed'.stops same
      exact ⟨rfl, rests⟩
    | _ => exact absurd forms nofun
  | flag value =>
    intro other rest rest' allowed allowed' same
    have forms := form_eq_of_render same
    cases other with
    | flag other =>
      cases value <;> cases other
      · exact ⟨rfl, List.append_cancel_left same⟩
      · exact absurd (List.cons.inj same).1 (by decide)
      · exact absurd (List.cons.inj same).1 (by decide)
      · exact ⟨rfl, List.append_cancel_left same⟩
    | _ => exact absurd forms nofun
  | string value =>
    intro other rest rest' allowed allowed' same
    have forms := form_eq_of_render same
    cases other with
    | string other =>
      obtain ⟨rfl, rests⟩ := quoted_recoverable value trivial trivial same
      exact ⟨rfl, rests⟩
    | _ => exact absurd forms nofun
  | array items each =>
    intro other rest rest' allowed allowed' same
    have forms := form_eq_of_render same
    cases other with
    | array others =>
      simp only [render, renderItems_eq_map] at same
      obtain ⟨rfl, rests⟩ := wrapped_recoverable level (by decide)
        (fun item member => each item member (level + 1)) trivial trivial same
      exact ⟨rfl, rests⟩
    | _ => exact absurd forms nofun
  | object fields each =>
    intro other rest rest' allowed allowed' same
    have forms := form_eq_of_render same
    cases other with
    | object others =>
      simp only [render, renderFields_eq_map] at same
      obtain ⟨rfl, rests⟩ := wrapped_recoverable level (by decide)
        (fun field member => fieldText_recoverable (each field member (level + 1)))
        trivial trivial same
      exact ⟨rfl, rests⟩
    | _ => exact absurd forms nofun

/-- No two values are written alike. -/
theorem render_inj {level : Nat} {first second : Json}
    (same : render level first = render level second) : first = second :=
  (render_recoverable first level Follows.nil Follows.nil (congrArg (· ++ []) same)).1

end BrightBlocks.Json
