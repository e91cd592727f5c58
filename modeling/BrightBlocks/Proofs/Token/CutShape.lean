import BrightBlocks.Proofs.Text.CharacterClasses
import BrightBlocks.Proofs.Token.Cut

/-!
# The shapes of tokens

A token stays what it is when the line or the text ends behind it (`Cut.lineEnd`). The kind of a
token tells of which characters it is made and which may follow it: white space is a run of
blanks (`Cut.blanks`), a comment reaches to the end of its line (`Cut.line`), and a word ends
where no letter of a name follows, or in a type designator (`Cut.word`).
-/

namespace BrightBlocks.Token

/-! ## What may stand behind a token -/

section

variable {first : Char} {body : Text} {next other : Option Char} {kind : Kind}

/-- A run that a line break does not continue may as well end at the end of a line. -/
theorem Run.lineEnd {accepts : Char → Bool} {run : Text} (found : Run accepts run next)
    (ends : other = none ∨ other = some '\n') (refused : accepts '\n' = false) :
    Run accepts run other := by
  refine ⟨found.inside, ?_⟩
  rcases ends with rfl | rfl
  · simp
  · simpa using refused

/--
A token stays what it is when its line ends behind it. White space would go on in the next line, and
a string that is not closed ends with the text only.
-/
theorem Cut.lineEnd (cut : Cut first body next kind)
    (ends : other = none ∨ other = some '\n')
    (solid : other = none ∨ kind ≠ .whitespace ∧ next ≠ none) : Cut first body other kind := by
  cases cut with
  | lineComment mark single line => exact .lineComment mark single (line.lineEnd ends (by decide))
  | quotedRemark mark double line => exact .quotedRemark mark double (line.lineEnd ends (by decide))
  | remark spelled line => exact .remark spelled (line.lineEnd ends (by decide))
  | closedString mark plain => exact .closedString mark plain
  | openString mark plain =>
    obtain rfl | ⟨-, more⟩ := solid
    · exact .openString mark plain
    · contradiction
  | decimal digit number => exact .decimal digit (number.lineEnd ends (by decide))
  | hexadecimal mark letter number =>
    exact .hexadecimal mark letter (number.lineEnd ends (by decide))
  | name starts no_digit letters_run undesignated no_remark =>
    refine .name starts no_digit (letters_run.lineEnd ends (by decide)) ?_ no_remark
    have no_designator : '\n' ∉ typeDesignators := by decide
    rcases ends with rfl | rfl
    · simp
    · simpa using no_designator
  | designatedName starts no_digit inside designated no_remark =>
    exact .designatedName starts no_digit inside designated no_remark
  | blank starts no_digit no_name blanks =>
    obtain rfl | ⟨no_blank, -⟩ := solid
    · exact .blank starts no_digit no_name ⟨blanks.inside, by simp⟩
    · contradiction
  | punctuation listed => exact .punctuation listed
  | operator listed no_number extends_to =>
    refine .operator listed ?_ (operatorTail_lineEnd extends_to ends)
    rcases ends with rfl | rfl <;> simp
  | bad no_quote no_digit no_name no_blank no_sign =>
    exact .bad no_quote no_digit no_name no_blank no_sign

/-- A token stays what it is when the text ends behind it. -/
theorem Cut.ends (cut : Cut first body next kind) : Cut first body none kind :=
  cut.lineEnd (.inl rfl) (.inl rfl)

/-- A token with something behind it stays what it is in front of a line break, unless blank. -/
theorem Cut.breaks {char : Char} (cut : Cut first body (some char) kind)
    (solid : kind ≠ .whitespace) : Cut first body (some '\n') kind :=
  cut.lineEnd (.inr rfl) (.inr ⟨solid, Option.some_ne_none char⟩)

end

/-! ## What the kind of a token says about its characters -/

/-- Signs are no words, no comments and not blank. -/
theorem punctuation_kind_plain {char : Char} {kind : Kind}
    (listed : Token.punctuation.lookup char = some kind) :
    kind.isWord = false ∧ kind.isComment = false ∧ kind ≠ .whitespace := by
  have all_plain : ∀ entry ∈ Token.punctuation,
      entry.2.isWord = false ∧ entry.2.isComment = false ∧ entry.2 ≠ .whitespace := by
    decide
  obtain ⟨front, back, split, -⟩ := List.lookup_eq_some_iff.mp listed
  exact all_plain (char, kind) (split ▸ by simp)

theorem not_comment_of_isWord {kind : Kind} (word : kind.isWord = true) :
    kind.isComment = false ∧ kind ≠ .whitespace := by
  cases kind <;> simp [Kind.isWord, Kind.isComment] at word ⊢

section

variable {first : Char} {body : Text} {next : Option Char} {kind : Kind}

/-- White space is a run of blanks. -/
theorem Cut.blanks (cut : Cut first body next kind) (white : kind = .whitespace) :
    Text.isBlank first = true ∧ Run Text.isBlank body next := by
  cases cut with
  | blank starts no_digit no_name blanks => exact ⟨starts, blanks⟩
  | name | designatedName => exact absurd white (not_comment_of_isWord (isWord_kindOfWord _)).2
  | punctuation listed => exact absurd white (punctuation_kind_plain listed).2.2
  | _ => contradiction

/-- A token that starts with a blank is white space. -/
theorem Cut.kind_of_blank (cut : Cut first body next kind)
    (blank : Text.isBlank first = true) : kind = .whitespace := by
  have no_name := Text.isNameChar_of_isBlank blank
  simp only [Text.isNameChar, Text.isAlphanumeric, Bool.or_eq_false_iff] at no_name
  obtain ⟨no_underscore, ⟨no_letter, no_digit⟩, -⟩ := no_name
  have no_mark : first ≠ '#' := by
    rintro rfl
    exact absurd blank (by decide)
  have found : lexeme first (body ++ next.toList) = ⟨kind, body.length⟩ :=
    lexeme_of_cut (by cases next <;> exact cut)
  rw [lexeme_blank _ blank no_digit (by simp [startsName, no_letter, no_underscore, no_mark])]
    at found
  exact (congrArg Lexeme.kind found).symm

/-- A token that starts with a line break is white space. -/
theorem Cut.kind_of_lineBreak (cut : Cut '\n' body next kind) : kind = .whitespace :=
  cut.kind_of_blank (by decide)

/-- A comment reaches to the end of its line. -/
theorem Cut.line (cut : Cut first body next kind) (comment : kind.isComment = true) :
    Run (· ≠ '\n') body next := by
  cases cut with
  | lineComment mark single line => exact line
  | quotedRemark mark double line => exact line
  | remark spelled line => exact line
  | name | designatedName =>
    rw [(not_comment_of_isWord (isWord_kindOfWord _)).1] at comment
    contradiction
  | punctuation listed =>
    rw [(punctuation_kind_plain listed).2.1] at comment
    contradiction
  | _ => contradiction

/-- A word ends in a type designator, or where neither its letters nor a designator follow. -/
theorem Cut.word (cut : Cut first body next kind) (word : kind.isWord = true) :
    startsName first = true ∧
      ((∀ char ∈ next, continuesName char = false ∧ char ∉ typeDesignators) ∨
        ∃ letters designator, body = letters ++ [designator] ∧ designator ∈ typeDesignators) := by
  cases cut with
  | name starts no_digit letters_run undesignated no_remark =>
    exact ⟨starts, .inl fun char found => ⟨letters_run.stops char found, undesignated char found⟩⟩
  | designatedName starts no_digit inside designated no_remark =>
    exact ⟨starts, .inr ⟨_, _, rfl, designated⟩⟩
  | punctuation listed =>
    rw [(punctuation_kind_plain listed).1] at word
    contradiction
  | _ => contradiction

/-- White space is any run of blanks behind its first character. -/
theorem Cut.blank_of_run {run : Text} {other : Option Char} (cut : Cut first body next .whitespace)
    (blanks : Run Text.isBlank run other) : Cut first run other .whitespace := by
  generalize white : Kind.whitespace = kind at cut
  cases cut with
  | blank starts no_digit no_name _ => exact .blank starts no_digit no_name blanks
  | name | designatedName =>
    exact absurd white.symm (not_comment_of_isWord (isWord_kindOfWord _)).2
  | punctuation listed => exact absurd white.symm (punctuation_kind_plain listed).2.2
  | _ => contradiction

/-- A blank run goes on up to the next character that is not blank. -/
theorem Cut.blank_of_next {other : Option Char} (cut : Cut first body next .whitespace)
    (stops : ∀ char ∈ other, Text.isBlank char = false) : Cut first body other .whitespace :=
  cut.blank_of_run ⟨(cut.blanks rfl).2.inside, stops⟩

/-- White space joins white space behind it. -/
theorem Cut.blank_append {second : Char} {tail : Text} {other : Option Char}
    (cut : Cut first body next .whitespace) (behind : Cut second tail other .whitespace) :
    Cut first (body ++ second :: tail) other .whitespace := by
  obtain ⟨starts, blanks⟩ := behind.blanks rfl
  refine cut.blank_of_run ⟨?_, blanks.stops⟩
  intro char member
  rcases List.mem_append.mp member with front | back
  · exact (cut.blanks rfl).2.inside char front
  rcases List.mem_cons.mp back with rfl | inside
  · exact starts
  · exact blanks.inside char inside

end

end BrightBlocks.Token
