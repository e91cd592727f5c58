import BrightBlocks.Block.Kind
import BrightBlocks.Proofs.Text.Quoted
import BrightBlocks.Report.Dump
import BrightBlocks.Report.Listing

/-!
# Lists of tokens can be read back

The line of a token shows its kind, its range and its text, and each of them can
be read back: a name ends at the first blank, a number at the first character
that belongs to none, and a quoted text where it is closed (`tokenLine_inj`). No
text breaks a line, so the lines of a list can be told apart.
-/

namespace BrightBlocks

/-! ## Names of kinds -/

/-- The characters that the names of kinds are made of. -/
def isNameChar (char : Char) : Bool :=
  char.isUpper || char = '_'

/-- A text that can stand as the name of a kind. -/
def IsName (name : Text) : Prop :=
  ∀ char ∈ name, isNameChar char = true

theorem IsName.notMem {name : Text} {mark : Char} (isName : IsName name)
    (foreign : isNameChar mark = false) : mark ∉ name := by
  intro member
  rw [isName mark member] at foreign
  exact absurd foreign nofun

theorem Token.Kind.isName_name (kind : Kind) : IsName kind.name.toList := by
  have all : kind.name.toList.all isNameChar = true := by cases kind <;> decide
  exact List.all_eq_true.mp all

theorem Token.Kind.ofName_name (kind : Kind) : ofName kind.name = .ok kind := by
  cases kind <;> rfl

theorem Token.Kind.name_inj {first second : Kind}
    (same : first.name.toList = second.name.toList) : first = second := by
  have read := congrArg ofName (String.toList_inj.mp same)
  rw [ofName_name, ofName_name] at read
  exact Except.ok.inj read

theorem Block.Kind.isName_name (kind : Kind) : IsName kind.name.toList := by
  have all : kind.name.toList.all isNameChar = true := by cases kind <;> decide
  exact List.all_eq_true.mp all

theorem Block.Kind.ofName_name (kind : Kind) : ofName kind.name = .ok kind := by
  cases kind <;> rfl

theorem Block.Kind.name_inj {first second : Kind}
    (same : first.name.toList = second.name.toList) : first = second := by
  have read := congrArg ofName (String.toList_inj.mp same)
  rw [ofName_name, ofName_name] at read
  exact Except.ok.inj read

namespace Report

/-! ## Ranges -/

/-- The end of the first number is seen by the comma, that of the second by the bracket. -/
theorem rangeText_inj {start stop start' stop' : Int} {rest rest' : Text}
    (same : rangeText start stop ++ rest = rangeText start' stop' ++ rest') :
    start = start' ∧ stop = stop' ∧ rest = rest' := by
  simp only [rangeText, List.append_assoc, List.append_cancel_left_eq] at same
  have comma (rest : Text) : Text.Stops Text.isNumeral (", ".toList ++ rest) := .cons rfl _
  have bracket (rest : Text) : Text.Stops Text.isNumeral (")".toList ++ rest) := .cons rfl _
  obtain ⟨starts, second⟩ := Text.ofInt_recoverable start (comma _) (comma _) same
  obtain ⟨stops, behind⟩ := Text.ofInt_recoverable stop (bracket _) (bracket _)
    (List.append_cancel_left second)
  exact ⟨starts, stops, List.append_cancel_left behind⟩

theorem stops_rangeText (start stop : Int) (rest : Text) :
    Text.Stops isNameChar (rangeText start stop ++ rest) :=
  .cons rfl _

theorem newline_notMem_ofInt (number : Int) : '\n' ∉ Text.ofInt number :=
  fun member => absurd (Text.isNumeral_of_mem_ofInt member) (by decide)

theorem newline_notMem_rangeText (start stop : Int) : '\n' ∉ rangeText start stop := by
  simp [rangeText, newline_notMem_ofInt]

/-! ## Lines of tokens -/

theorem tokenLine_eq (source : Text) (token : Token) :
    tokenLine source token = token.kind.name.toList ++
      (List.replicate (16 - token.kind.name.toList.length) ' ' ++
        (rangeText token.start token.stop ++ ([' '] ++ Text.quoted (token.text source)))) := by
  simp [tokenLine, Text.padRight, rangeText]

theorem newline_notMem_tokenLine (source : Text) (token : Token) :
    '\n' ∉ tokenLine source token := by
  have name : '\n' ∉ token.kind.name.toList := token.kind.isName_name.notMem (by decide)
  simp [tokenLine_eq, name, newline_notMem_rangeText, Text.newline_notMem_quoted]

/-- The line of a token shows the token and its text. -/
theorem tokenLine_inj {source source' : Text} {token token' : Token}
    (same : tokenLine source token = tokenLine source' token') :
    token = token' ∧ token.text source = token'.text source' := by
  rw [tokenLine_eq, tokenLine_eq] at same
  have blank (blanks : Nat) (start stop : Int) (rest : Text) :
      Text.Stops isNameChar (List.replicate blanks ' ' ++ (rangeText start stop ++ rest)) := by
    cases blanks with
    | zero => exact stops_rangeText start stop rest
    | succ blanks => exact .cons rfl _
  obtain ⟨names, behind⟩ := Text.eq_of_sort token.kind.isName_name token'.kind.isName_name
    (blank _ _ _ _) (blank _ _ _ _) same
  rw [names, List.append_cancel_left_eq] at behind
  obtain ⟨starts, stops, behind⟩ := rangeText_inj behind
  obtain ⟨kind, start, stop⟩ := token
  obtain ⟨kind', start', stop'⟩ := token'
  obtain rfl := Token.Kind.name_inj names
  obtain rfl : start = start' := starts
  obtain rfl : stop = stop' := stops
  exact ⟨rfl, Text.quoted_inj (List.append_cancel_left behind)⟩

theorem map_tokenLine_inj {source source' : Text} {tokens tokens' : List Token}
    (same : tokens.map (tokenLine source) = tokens'.map (tokenLine source')) :
    tokens = tokens' ∧ tokens.map (·.text source) = tokens'.map (·.text source') := by
  induction tokens generalizing tokens' with
  | nil =>
    obtain rfl := List.map_eq_nil_iff.mp same.symm
    exact ⟨rfl, rfl⟩
  | cons token rest inductionHypothesis =>
    cases tokens' with
    | nil => exact absurd same nofun
    | cons token' rest' =>
      obtain ⟨first, further⟩ := List.cons.inj same
      obtain ⟨rfl, text⟩ := tokenLine_inj first
      obtain ⟨rfl, texts⟩ := inductionHypothesis further
      exact ⟨rfl, congrArg₂ List.cons text texts⟩

/-- A list of tokens shows the tokens and their texts. -/
theorem tokenList_inj {source source' : Text} {tokens tokens' : List Token}
    (some_token : tokens ≠ []) (some_token' : tokens' ≠ [])
    (same : tokenList source tokens = tokenList source' tokens') :
    tokens = tokens' ∧ tokens.map (·.text source) = tokens'.map (·.text source') := by
  have single (source : Text) (tokens : List Token) :
      ∀ line ∈ tokens.map (tokenLine source), '\n' ∉ line := by
    intro line member
    obtain ⟨token, -, rfl⟩ := List.mem_map.mp member
    exact newline_notMem_tokenLine source token
  exact map_tokenLine_inj <| Text.joined_lines_inj (by simpa using some_token)
    (by simpa using some_token') (single source tokens) (single source' tokens') same

end Report

end BrightBlocks
