import Mathlib.Data.List.DropRight
import BrightBlocks.Outline.Declaration
import BrightBlocks.Proofs.Block.ClosedFlag
import BrightBlocks.Proofs.Block.Openers
import BrightBlocks.Proofs.Block.Ranges
import BrightBlocks.Proofs.Outline.Pattern

/-!
# Where the name of a block stands

The name of a block is looked for in the whole text of the block. In a parsed source it is found
behind the two tokens that the block starts with, the word that opened it and white space
(`exists_gap_of_name?`). A header ends with its line, but white space need not: the name is on the
first line of the block if and only if that one token spans no line break
(`headerCarries_iff`). A half-typed header is followed by what stands on the next line, which is
then taken for the name (`exists_name_below_header`).

Labels of folds are read off the first line alone and are no part of this module.
-/

namespace BrightBlocks.Outline

open Block (role parse)
open Text (isBlank lowercase lowercaseChar)
open Token (Run)

/--
The first line of a block carries a name: it starts with the word that opens blocks of the kind, in
any case, blanks and the name.
-/
def HeaderCarries (source : Text) (block : Block) (name : Text) : Prop :=
  ∃ opener blanks, lowercase opener = block.kind.opener.toList ∧
    (blanks ≠ [] ∧ ∀ char ∈ blanks, isBlank char = true) ∧
    opener ++ (blanks ++ name) <+: block.firstLine source

/-! ## Words and characters of patterns -/

/-- Openers are made of letters that are the small forms of single characters. -/
theorem opener_plain (kind : Block.Kind) :
    ∀ letter ∈ kind.opener.toList,
      (letter ≠ 'ς' ∧ letter ≠ '\u0307') ∧ letter ≠ 'ı' ∧ letter ≠ 'ſ' := by
  cases kind <;> exact List.all_iff_forall_prop.mp (by decide)

/-- An opener in any case has the small letters of its word, one for each character. -/
theorem map_lowercaseChar_of_opener {kind : Block.Kind} {opener : Text}
    (opens : lowercase opener = kind.opener.toList) :
    opener.map lowercaseChar = kind.opener.toList.map ([·]) :=
  Text.map_lowercaseChar_of_lowercase_eq (fun letter member => (opener_plain kind letter member).1)
    opens

/-- An opener in any case is as long as its word. -/
theorem length_of_opener {kind : Block.Kind} {opener : Text}
    (opens : lowercase opener = kind.opener.toList) :
    opener.length = kind.opener.toList.length := by
  have lengths := congrArg List.length (map_lowercaseChar_of_opener opens)
  rwa [List.length_map, List.length_map] at lengths

section

variable {kind : Block.Kind} {words : List String} {accepts : Char → Bool}

/-- Of the words that may stand in front of a name, only the opener starts with its letter. -/
theorem namePattern?_words (named : namePattern? kind = some (words, accepts)) :
    ∀ word ∈ words, word.toList ≠ [] ∧
      (word.toList.head? = kind.opener.toList.head? → word = kind.opener) := by
  cases kind <;> simp only [namePattern?, Option.some.injEq, Prod.mk.injEq, reduceCtorEq] at named
    <;> obtain ⟨rfl, -⟩ := named
    <;> decide

/-- Names hold no blanks. -/
theorem isBlank_of_accepts (named : namePattern? kind = some (words, accepts)) {char : Char}
    (accepted : accepts char = true) : isBlank char = false := by
  have dot : isBlank '.' = false := by decide
  rw [Bool.eq_false_iff]
  intro blank
  have no_name : Text.isNameChar char = false := Text.isNameChar_of_isBlank blank
  have no_path : isPathChar char = false := by
    rw [isPathChar, no_name, Bool.or_false, decide_eq_false_iff_not]
    rintro rfl
    rw [dot] at blank
    contradiction
  cases kind <;> simp only [namePattern?, Option.some.injEq, Prod.mk.injEq, reduceCtorEq] at named
    <;> obtain ⟨-, rfl⟩ := named
    <;> simp_all

/-- Of the words that may stand in front of a name, the one that opened the block is found. -/
theorem word_eq_opener (named : namePattern? kind = some (words, accepts)) {word : String}
    (member : word ∈ words) {opener spelled behind behind' : Text}
    (opens : lowercase opener = kind.opener.toList)
    (letters : List.Forall₂ (fun letter char => matchesLetter letter char = true)
      word.toList spelled)
    (same : opener ++ behind = spelled ++ behind') : word = kind.opener := by
  obtain ⟨nonempty, only⟩ := namePattern?_words named word member
  have small := map_lowercaseChar_of_opener opens
  have plain := opener_plain kind
  obtain ⟨first, rest, spells⟩ : ∃ first rest, kind.opener.toList = first :: rest :=
    List.exists_cons_of_ne_nil (by cases kind <;> decide)
  obtain ⟨letter, more, split⟩ := List.exists_cons_of_ne_nil nonempty
  rw [spells] at small only plain
  rw [split] at letters only
  obtain ⟨head, tail, rfl, becomes, -⟩ := List.map_eq_cons_iff.mp small
  cases letters with
  | @cons _ char _ others found letters =>
    obtain rfl : head = char := (List.cons.inj same).1
    have same_letter : letter = first :=
      eq_of_matchesLetter (plain first List.mem_cons_self).2 becomes found
    exact only (congrArg some same_letter)

end

/-! ## The parts of a text that a name is found in -/

/-- What a list of alternatives yields is what one of them does. -/
theorem exists_of_firstM_eq_some {α β : Type} {choice : α → Option β} {result : β} :
    {choices : List α} → choices.firstM choice = some result →
      ∃ chosen ∈ choices, choice chosen = some result
  | [], found => nomatch found
  | first :: rest, found => by
    rw [List.firstM] at found
    cases yields : choice first with
    | some here =>
      rw [yields] at found
      exact ⟨first, List.mem_cons_self, yields.trans found⟩
    | none =>
      rw [yields] at found
      obtain ⟨chosen, member, here⟩ := exists_of_firstM_eq_some found
      exact ⟨chosen, List.mem_cons_of_mem _ member, here⟩

section

variable {source : Text} {block : Block} {opener blanks name behind text : Text}

/-- A name that is found stands behind the opener and blanks, and holds no blanks itself. -/
theorem name?_eq_some (opens : lowercase opener = block.kind.opener.toList)
    (starts : block.slice source = opener ++ text) (found : name? source block = some name) :
    ∃ blanks behind, text = blanks ++ (name ++ behind) ∧
      (blanks ≠ [] ∧ ∀ char ∈ blanks, isBlank char = true) ∧
      name ≠ [] ∧ ∀ char ∈ name, isBlank char = false := by
  obtain ⟨⟨words, accepts⟩, named, found⟩ := Option.bind_eq_some_iff.mp found
  obtain ⟨word, member, found⟩ := exists_of_firstM_eq_some found
  obtain ⟨⟨_, behind⟩, taken, rfl⟩ := Option.map_eq_some_iff.mp found
  obtain ⟨spelled, blanks, split, letters, ⟨some_blank, gap⟩, some_char, run⟩ :=
    keywordThenRun?_eq_some taken
  rw [starts] at split
  obtain rfl := word_eq_opener named member opens letters split
  obtain ⟨-, rfl⟩ := List.append_inj split ((length_of_opener opens).trans letters.length_eq)
  exact ⟨blanks, behind, rfl, ⟨some_blank, gap.inside⟩, some_char,
    fun char member => isBlank_of_accepts named (run.inside char member)⟩

/-! ## First lines -/

/-- The first line of a block is in front of the block, and holds no line break. -/
theorem firstLine_prefix (source : Text) (block : Block) :
    block.firstLine source <+: block.slice source ∧ '\n' ∉ block.firstLine source := by
  have front : block.firstLine source <+: (block.slice source).before '\n' :=
    List.rdropWhile_prefix _ _
  refine ⟨front.trans (List.takeWhile_prefix _), fun member => ?_⟩
  simpa using List.mem_takeWhile_imp (front.subset member)

/-- What a block starts with is on its first line if no line breaks in it or ends with it. -/
theorem prefix_firstLine {front : Text} (starts : block.slice source = front ++ behind)
    (unbroken : '\n' ∉ front) (visible : ∀ last ∈ front.getLast?, last ≠ '\r') :
    front <+: block.firstLine source := by
  have line : (block.slice source).before '\n' = front ++ behind.before '\n' := by
    rw [starts]
    exact List.takeWhile_append_of_pos fun char member => by
      simpa using fun same : char = '\n' => unbroken (same ▸ member)
  have kept : front.reverse.dropWhile (· = '\r') = front.reverse := by
    cases reversed : front.reverse with
    | nil => rfl
    | cons last others =>
      have ends : last ∈ front.getLast? := by rw [← List.head?_reverse, reversed]; rfl
      exact List.dropWhile_cons_of_neg (by simpa using visible last ends)
  rw [Block.firstLine, line, List.reverse_append, List.dropWhile_append, kept]
  split
  · simp
  · rw [List.reverse_append, List.reverse_reverse]
    exact List.prefix_append _ _

/-- Blanks in front of a name are a run. -/
theorem run_of_name (blank : ∀ char ∈ blanks, isBlank char = true)
    (visible : name ≠ [] ∧ ∀ char ∈ name, isBlank char = false) (behind : Text) :
    Run isBlank blanks (name ++ behind).head? := by
  refine ⟨blank, ?_⟩
  obtain ⟨first, rest, rfl⟩ := List.exists_cons_of_ne_nil visible.1
  intro char found
  obtain rfl := Option.some.inj found
  exact visible.2 first List.mem_cons_self

/-- A name is on the first line where the blanks in front of it break no line. -/
theorem headerCarries_iff (opens : lowercase opener = block.kind.opener.toList)
    (starts : block.slice source = opener ++ (blanks ++ (name ++ behind)))
    (gap : blanks ≠ [] ∧ ∀ char ∈ blanks, isBlank char = true)
    (visible : name ≠ [] ∧ ∀ char ∈ name, isBlank char = false) :
    HeaderCarries source block name ↔ '\n' ∉ blanks := by
  obtain ⟨front, unbroken⟩ := firstLine_prefix source block
  constructor
  · rintro ⟨opener', blanks', opens', gap', carried⟩
    obtain ⟨more, split⟩ := carried.trans front
    rw [starts, List.append_assoc, List.append_assoc] at split
    have length : opener'.length = opener.length :=
      (length_of_opener opens').trans (length_of_opener opens).symm
    obtain ⟨-, split⟩ := List.append_inj split length
    have same : blanks' = blanks := by
      rw [← (run_of_name gap'.2 visible more).takeWhile_eq, split,
        (run_of_name gap.2 visible behind).takeWhile_eq]
    subst same
    exact fun member => unbroken (carried.subset (by simp [member]))
  · intro within
    have no_break : '\n' ∉ opener := by
      intro member
      have letters : lowercaseChar '\n' ∈ opener.map lowercaseChar := List.mem_map_of_mem member
      rw [map_lowercaseChar_of_opener opens] at letters
      revert letters
      cases block.kind <;> decide
    have split : block.slice source = opener ++ (blanks ++ name) ++ behind := by
      simpa using starts
    refine ⟨opener, blanks, opens, gap, prefix_firstLine split ?_ ?_⟩
    · have no_name : '\n' ∉ name := fun member => absurd (visible.2 _ member) (by decide)
      simp [no_break, within, no_name]
    · intro last ends
      rw [List.getLast?_append_of_ne_nil _ (by simp [visible.1]),
        List.getLast?_append_of_ne_nil _ visible.1] at ends
      rintro rfl
      exact absurd (visible.2 _ (List.mem_of_getLast? ends)) (by decide)

end

/-! ## Blocks of a source -/

/-- A named block of a source starts with its opener and white space, with its name behind them. -/
theorem exists_gap_of_name? {source name : Text} {limit : Nat} {block : Block}
    (member : block ∈ Forest.walk (parse source limit).children)
    (named : name? source block = some name) :
    ∃ opener gap rest behind, Forest.leaves block.children = opener :: gap :: rest ∧
      role source opener = .word block.kind.opener ∧ gap.kind = .whitespace ∧
      block.slice source = opener.text source ++ (gap.text source ++ (name ++ behind)) ∧
      (HeaderCarries source block name ↔ gap.breaksLine source = false) := by
  obtain ⟨opener, inside, children, spelled⟩ := Block.exists_opener_of_mem_walk member
  obtain ⟨lower, -, -, tiled⟩ := (Block.parse_tiled source limit).of_mem_walk member
  have leaves : Forest.leaves block.children = opener :: Forest.leaves inside := by
    rw [children, Block.leaves_leaf_cons]
  have starts : block.slice source =
      opener.text source ++ (Forest.leaves inside).flatMap (·.text source) := by
    have spells := tiled.tiles.text_eq_slice source lower
    rw [leaves, List.flatMap_cons] at spells
    exact spells.symm
  have opens := Block.lowercase_of_role spelled
  obtain ⟨blanks, behind, split, blank, visible⟩ := name?_eq_some opens starts named
  have part : (Forest.leaves inside).map (Token.piece source) <:+: Token.pieces source := by
    have own := Forest.leaves_infix_of_mem_walk _ member
    rw [Block.parse_leaves, leaves] at own
    rw [← Token.map_piece_tokensFrom_zero]
    exact ((List.suffix_cons opener _).isInfix.trans own).map _
  have spells : ((Forest.leaves inside).map (Token.piece source)).flatMap Token.Piece.text =
      blanks ++ (name ++ behind) := by
    rw [List.flatMap_map]
    exact split
  obtain ⟨more, first⟩ := Token.exists_whitespace_of_blanks part spells blank.1
    (run_of_name blank.2 visible behind)
  obtain ⟨gap, rest, inner, piece, -⟩ := List.map_eq_cons_iff.mp first
  obtain ⟨white, text⟩ := Token.Piece.mk.inj piece
  have carries := headerCarries_iff opens (starts.trans (congrArg _ split)) blank visible
  refine ⟨opener, gap, rest, behind, by rw [leaves, inner], spelled, white, ?_, ?_⟩
  · rw [starts, split, text]
  · rw [carries, Token.breaksLine, white, text]
    simp

/-- A declaration comes from a block with its name. -/
theorem exists_block_of_mem_declarations {forest : List Node} {source : Text} {path : Option Text}
    {declaration : Declaration} (member : declaration ∈ declarations forest source path) :
    ∃ block ∈ Forest.walk forest, declares block.kind = true ∧
      name? source block = some declaration.name ∧
      declaration = ⟨declaration.name, block.kind, block.start, block.stop, path⟩ := by
  obtain ⟨block, inside, declared⟩ := List.mem_filterMap.mp member
  rw [declaration?] at declared
  split at declared
  · rename_i listed
    obtain ⟨name, named, rfl⟩ := Option.map_eq_some_iff.mp declared
    exact ⟨block, inside, listed, named, rfl⟩
  · contradiction

/--
Every named block of a parsed source starts with the word that opened it and a token of white space,
and its name stands behind these two. Its header carries the name if and only if the white space
breaks no line. Only named blocks are declarations, each under its name.
-/
theorem parse_names_located (source : Text) (limit : Nat) :
    let forest := (parse source limit).children
    (∀ block ∈ Forest.walk forest, ∀ name ∈ name? source block,
      ∃ opener gap rest behind, Forest.leaves block.children = opener :: gap :: rest ∧
        role source opener = .word block.kind.opener ∧ gap.kind = .whitespace ∧
        block.slice source = opener.text source ++ (gap.text source ++ (name ++ behind)) ∧
        (HeaderCarries source block name ↔ gap.breaksLine source = false)) ∧
    ∀ path, ∀ declaration ∈ declarations forest source path, ∃ block ∈ Forest.walk forest,
      declares block.kind = true ∧ name? source block = some declaration.name ∧
      declaration = ⟨declaration.name, block.kind, block.start, block.stop, path⟩ :=
  ⟨fun _ member _ named => exists_gap_of_name? member named,
    fun _ _ member => exists_block_of_mem_declarations member⟩

/-- A half-typed sub is declared under the first word of the line that closes it. -/
theorem exists_name_below_header :
    let source : Text := "sub\nend sub".toList
    let forest := (parse source 5).children
    ∃ block ∈ Forest.walk forest, name? source block = some "end".toList ∧
      ¬ HeaderCarries source block "end".toList ∧ block.firstLine source = "sub".toList ∧
      ⟨"end".toList, .sub, 0, 11, none⟩ ∈ declarations forest source none := by
  intro source forest
  have found : ∃ block ∈ Forest.walk forest, name? source block = some "end".toList ∧
      block.firstLine source = "sub".toList ∧
      (⟨"end".toList, .sub, 0, 11, none⟩ : Declaration) ∈ declarations forest source none := by
    decide +kernel
  obtain ⟨block, member, named, line, declared⟩ := found
  refine ⟨block, member, named, ?_, line, declared⟩
  rintro ⟨opener, blanks, -, -, carried⟩
  rw [line] at carried
  have inside : 'd' ∈ "sub".toList := carried.subset (by simp)
  exact absurd inside (by decide)

end BrightBlocks.Outline
