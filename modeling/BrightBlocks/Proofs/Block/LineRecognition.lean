import BrightBlocks.Proofs.Block.Layout
import BrightBlocks.Proofs.Block.Simulation

/-!
# Lines are recovered

Each kind of line leads the stack machine on by its tokens: a line that shapes nothing, the
header of a block, the line of a branch and a terminator.

At the start of a line the last significant word is forgotten. This is why what
stands on one line never changes what the next one means.
-/

namespace BrightBlocks.Block

open Machine (appendAll)

section

variable {source : Text} {limit : Nat}

/-! ## Tokens that shape nothing -/

/-- A word that shapes no blocks means nothing in a body. -/
theorem plain_of_not_shaping {word : String} (plain : word ∉ shapingWords) :
    word ∉ elseWords ∧ word ≠ "end" ∧ word ∉ closers ∧ Kind.ofOpener? word = none := by
  simp only [shapingWords, List.mem_append, List.mem_singleton, not_or] at plain
  obtain ⟨⟨⟨no_opener, no_end⟩, no_closer⟩, no_else⟩ := plain
  refine ⟨no_else, no_end, no_closer, ?_⟩
  apply List.find?_eq_none.mpr
  intro kind listed same
  apply no_opener
  exact List.mem_map.mpr ⟨kind, listed, by simpa using same⟩

/-- In a body, a token that contributes no such word is placed where it stands. -/
theorem run_token_of_plain {machine : Machine} {token : Token} (stands : machine.stage = .body)
    (plain : ∀ word ∈ (role source token).structural machine.previous, word ∉ shapingWords)
    (rest : List Token) :
    machine.run source limit (token :: rest) =
      (machine.append source token).run source limit rest := by
  have placed : machine.readBody source limit token (rest.take 2) =
      machine.append source token := by
    apply Machine.readBody_of_plain
    intro word found
    obtain ⟨no_else, others⟩ := plain_of_not_shaping (plain word found)
    exact ⟨fun _ => no_else, others⟩
  rw [Machine.run, Machine.read_of_body stands, placed]

/-- A token that is no word contributes none. -/
theorem structural_of_no_word {meaning : Role} (wordless : meaning.word? = none)
    (previous : Option String) : meaning.structural previous = none := by
  unfold Role.structural
  split
  · rfl
  · exact wordless

/-- In a body, tokens that contribute no such word are placed one after the other. -/
theorem Spares.run_body {front : List Token} (machine : Machine) (stands : machine.stage = .body)
    (spares : Spares source shapingWords machine.previous front) (rest : List Token) :
    machine.run source limit (front ++ rest) =
      (machine.appendAll source front).run source limit rest := by
  induction front generalizing machine with
  | nil => simp
  | cons token front inductionHypothesis =>
    obtain ⟨plain, further⟩ := spares
    rw [List.cons_append, run_token_of_plain stands plain, Machine.appendAll_cons]
    exact inductionHypothesis _ (by simpa using stands) further

/-- Tokens that are no words contribute none. -/
theorem spares_of_no_words {barred : List String} {tokens : List Token}
    (wordless : ∀ token ∈ tokens, (role source token).word? = none) (previous : Option String) :
    Spares source barred previous tokens := by
  induction tokens generalizing previous with
  | nil => trivial
  | cons token rest inductionHypothesis =>
    constructor
    · simp [structural_of_no_word (wordless token List.mem_cons_self)]
    · apply inductionHypothesis
      intro other member
      exact wordless other (List.mem_cons_of_mem token member)

/-! ## Ends of lines -/

theorem AtMostOne.role_of_mem {wanted : Role} {tokens : List Token}
    (few : AtMostOne source wanted tokens) : ∀ token ∈ tokens, role source token = wanted := by
  cases few with
  | absent => simp
  | present found => simpa using found

/-- Behind at most a gap the next word of the line stands. -/
theorem AtMostOne.roleOnLine_gap {gap : List Token} {token : Token}
    (blank : AtMostOne source .gap gap) (solid : role source token ≠ .gap) (rest : List Token) :
    roleOnLine source (gap ++ token :: rest) = role source token := by
  cases blank with
  | absent => simp [roleOnLine, solid]
  | present found => simp [roleOnLine, found]

/-- No word stands at the end of a line. -/
theorem LineEnd.spares {barred : List String} {back : List Token} (ends : LineEnd source back)
    (previous : Option String) : Spares source barred previous back := by
  obtain ⟨blank, remark, breaks⟩ := ends
  apply spares_of_no_words
  intro token member
  simp only [List.mem_append, List.mem_singleton] at member
  rcases member with (member | member) | rfl
  · rw [blank.role_of_mem token member]
    rfl
  · rw [remark.role_of_mem token member]
    rfl
  · rw [breaks]
    rfl

/-- At the end of a line a comment or the line break is found. -/
theorem LineEnd.roleOnLine_eq {back : List Token} (ends : LineEnd source back)
    (rest : List Token) :
    roleOnLine source (back ++ rest) = .comment ∨
      roleOnLine source (back ++ rest) = .lineBreak := by
  obtain ⟨blank, remark, breaks⟩ := ends
  cases remark with
  | absent =>
    right
    simp only [List.append_nil, List.append_assoc, List.singleton_append]
    rw [blank.roleOnLine_gap (by simp [breaks]), breaks]
  | present found =>
    left
    simp only [List.append_assoc, List.cons_append, List.nil_append]
    rw [blank.roleOnLine_gap (by simp [found]), found]

theorem LineEnd.codeOnLine_eq {back : List Token} (ends : LineEnd source back)
    (rest : List Token) : codeOnLine source (back ++ rest) = false := by
  unfold codeOnLine
  rcases ends.roleOnLine_eq rest with found | found <;> rw [found]

/-- A line break forgets the last significant word. -/
theorem trail_of_lineBreak {lineBreak : Token} (breaks : role source lineBreak = .lineBreak)
    (previous : Option String) (front : List Token) :
    trail source previous (front ++ [lineBreak]) = none := by
  simp [breaks, Role.follow]

theorem LineEnd.trail_eq {back : List Token} (ends : LineEnd source back)
    (previous : Option String) : trail source previous back = none := by
  obtain ⟨-, -, breaks⟩ := ends
  exact trail_of_lineBreak breaks previous _

/-! ## Headers and conditions -/

/-- A word that ends no header or condition is neither a boundary nor the `then` that counts. -/
theorem inside_of_not_ending {phase : Phase} {kind : Kind} {word : String}
    (plain : word ∉ endingWords phase kind) :
    ¬ (word = "then" ∧ kind = .conditional) ∧ word ∉ phase.boundaries kind := by
  unfold endingWords at plain
  split at plain
  · rw [List.mem_cons, not_or] at plain
    exact ⟨fun both => plain.1 both.1, plain.2⟩
  · rename_i other
    exact ⟨fun both => other both.2, plain⟩

theorem Clear.run_front {phase : Phase} {kind : Kind} {front : List Token} (machine : Machine)
    (stands : machine.stage = .front phase) (opened : machine.kind? = some kind)
    (clear : Clear source (endingWords phase kind) machine.previous front) (rest : List Token) :
    machine.run source limit (front ++ rest) =
      (machine.appendAll source front).run source limit rest := by
  induction front generalizing machine with
  | nil => simp
  | cons token front inductionHypothesis =>
    obtain ⟨unbroken, plain, further⟩ := clear
    have placed : machine.read source limit token ((front ++ rest).take 2) =
        machine.append source token := by
      rw [Machine.read_of_front stands]
      apply Machine.readFront_of_plain opened (unbroken token List.mem_cons_self)
      intro word found
      exact inside_of_not_ending (plain word found)
    rw [List.cons_append, Machine.run, placed, Machine.appendAll_cons]
    apply inductionHypothesis
    · simpa using stands
    · simpa using opened
    · exact ⟨fun other member => unbroken other (List.mem_cons_of_mem token member), further⟩

variable {kind : Kind} {children root : List Node} {singleLine : Bool} {outer : List Frame}
  {previous : Option String} {log : List Notice}

theorem appendAll_frame (stage : Stage) (tokens : List Token) :
    appendAll ⟨stage, ⟨kind, children, singleLine⟩ :: outer, root, previous, log⟩ source tokens =
      ⟨stage, ⟨kind, children ++ leafNodes tokens, singleLine⟩ :: outer, root,
        trail source previous tokens, log⟩ :=
  rfl

/-- A line break leads from a header or a condition to the body. -/
theorem run_lineBreak {phase : Phase} {lineBreak : Token}
    (breaks : role source lineBreak = .lineBreak) (rest : List Token) :
    Machine.run source limit ⟨.front phase, ⟨kind, children, singleLine⟩ :: outer, root, previous,
        log⟩ (lineBreak :: rest) =
      Machine.run source limit ⟨.body, ⟨kind, children ++ [.leaf lineBreak], singleLine⟩ :: outer,
        root, none, log⟩ rest := by
  rw [Machine.run, Machine.read_of_front rfl, Machine.readFront_of_lineBreak breaks]
  simp [Machine.append, Machine.attach, breaks, Role.follow]

/-- At the end of a line in a body, what stands there is placed. -/
theorem LineEnd.run_eq {back : List Token} (ends : LineEnd source back) (rest : List Token) :
    Machine.run source limit ⟨.body, ⟨kind, children, singleLine⟩ :: outer, root, previous, log⟩
        (back ++ rest) =
      Machine.run source limit ⟨.body, ⟨kind, children ++ leafNodes back, singleLine⟩ :: outer,
        root, none, log⟩ rest := by
  rw [(ends.spares previous).run_body _ rfl, ← ends.trail_eq previous]
  rfl

/-- A `then` with nothing but the end of the line behind it leads to the body. -/
theorem run_then {phase : Phase} {word : Token} {back : List Token}
    (leads : (role source word).structural previous = some "then") (ends : LineEnd source back)
    (unset : phase = .opening → singleLine = false) (rest : List Token) :
    Machine.run source limit ⟨.front phase, ⟨.conditional, children, singleLine⟩ :: outer, root,
        previous, log⟩ (word :: (back ++ rest)) =
      Machine.run source limit ⟨.body, ⟨.conditional, children ++ leafNodes (word :: back),
        singleLine⟩ :: outer, root, none, log⟩ rest := by
  have placed : Machine.read source limit ⟨.front phase, ⟨.conditional, children, singleLine⟩ ::
      outer, root, previous, log⟩ word ((back ++ rest).take 2) =
        ⟨.body, ⟨.conditional, children ++ [.leaf word], singleLine⟩ :: outer, root,
          (role source word).follow previous, log⟩ := by
    rw [Machine.read_of_front rfl, Machine.readFront_of_then leads rfl]
    cases phase with
    | opening =>
      rw [codeOnLine_take, ends.codeOnLine_eq, unset rfl]
      rfl
    | condition => rfl
  rw [Machine.run, placed, ends.run_eq]
  simp [leafNodes]

/-- A header or a condition on a line of its own leads to the body. -/
theorem FrontLine.run_eq {phase : Phase} {tokens : List Token}
    (headed : FrontLine source kind phase previous tokens)
    (unset : phase = .opening → singleLine = false) (rest : List Token) :
    Machine.run source limit ⟨.front phase, ⟨kind, children, singleLine⟩ :: outer, root, previous,
        log⟩ (tokens ++ rest) =
      Machine.run source limit ⟨.body, ⟨kind, children ++ leafNodes tokens, singleLine⟩ :: outer,
        root, none, log⟩ rest := by
  cases headed with
  | bare clear ends =>
    rw [List.append_assoc, clear.run_front _ rfl rfl, appendAll_frame, List.singleton_append,
      run_lineBreak ends]
    simp [leafNodes]
  | withThen conditional clear leads ends =>
    subst conditional
    rw [List.append_assoc, clear.run_front _ rfl rfl, appendAll_frame, List.cons_append,
      run_then leads ends unset]
    simp [leafNodes]

/-! ## Branches -/

/-- A word at the start of a line contributes to the structure. -/
theorem structural_at_start {token : Token} {word : String}
    (spelled : role source token = .word word) :
    (role source token).structural none = some word := by
  rw [spelled]
  rfl

theorem run_else {first : Token} {word : String} (starts : role source first = .word word)
    (is_else : word ∈ elseWords) (rest : List Token) :
    Machine.run source limit ⟨.body, ⟨.conditional, children, singleLine⟩ :: outer, root, none,
        log⟩ (first :: rest) =
      Machine.run source limit ⟨Machine.stageOfElse source word rest, ⟨.conditional,
        children ++ [.leaf first], singleLine⟩ :: outer, root, some word, log⟩ rest := by
  rw [Machine.run, Machine.read_of_body rfl,
    Machine.readBody_of_else (structural_at_start starts) rfl is_else,
    Machine.stageOfElse_take]
  simp [Machine.append, Machine.attach, starts, Role.follow]

/-- The line of a branch leads from the body to the body. -/
theorem BranchLine.run_eq {tokens : List Token} (starts : BranchLine source tokens)
    (rest : List Token) :
    Machine.run source limit ⟨.body, ⟨.conditional, children, singleLine⟩ :: outer, root, none,
        log⟩ (tokens ++ rest) =
      Machine.run source limit ⟨.body, ⟨.conditional, children ++ leafNodes tokens, singleLine⟩ ::
        outer, root, none, log⟩ rest := by
  cases starts with
  | plain starts ends =>
    rename_i first back
    have stage : Machine.stageOfElse source "else" (back ++ rest) = .body := by
      rcases ends.roleOnLine_eq rest with found | found <;> simp [Machine.stageOfElse, found]
    rw [List.cons_append, run_else starts (by decide), stage, ends.run_eq]
    simp [leafNodes]
  | elseIf starts blank goes_on tested =>
    rename_i first second gap condition
    have solid : role source second ≠ .gap := by simp [goes_on]
    have stage : Machine.stageOfElse source "else" (gap ++ second :: (condition ++ rest)) =
        .elseIf := by
      simp [Machine.stageOfElse, blank.roleOnLine_gap solid, goes_on]
    have word_last : trail source (some "else") (gap ++ [second]) = some "if" := by
      simp [goes_on, Role.follow]
    rw [List.cons_append, List.append_assoc, List.cons_append, run_else starts (by decide), stage,
      Machine.run_elseIf _ rfl blank.role_of_mem solid, appendAll_frame, word_last,
      tested.run_eq (by simp)]
    simp [leafNodes]
  | joined starts listed tested =>
    rename_i first condition word
    have is_else : word ∈ elseWords := List.mem_cons_of_mem _ listed
    have joint : word ≠ "else" := by
      rintro rfl
      exact absurd listed (by decide)
    have stage : Machine.stageOfElse source word (condition ++ rest) = .front .condition := by
      simp [Machine.stageOfElse, joint]
    rw [List.cons_append, run_else starts is_else, stage, tested.run_eq (by simp)]
    simp [leafNodes]

/-! ## Terminators -/

/-- A spelling that closes the innermost block leaves it. -/
theorem Closing.run_eq {back : List Token} (closes : Closing source kind back)
    (rest : List Token) :
    Machine.run source limit ⟨.body, ⟨kind, children, singleLine⟩ :: outer, root, none, log⟩
        (back ++ rest) =
      Machine.run source limit (Machine.leave ⟨.body, ⟨kind, children ++ leafNodes back,
        singleLine⟩ :: outer, root, trail source none back, log⟩ true) rest := by
  cases closes with
  | phrase starts blank names =>
    rename_i first last gap
    have solid : role source last ≠ .gap := by simp [names]
    have found : roleOnLine source ((gap ++ last :: rest).take 2) = .word kind.opener := by
      rw [roleOnLine_take, blank.roleOnLine_gap solid, names]
    have step : Machine.readBody source limit
        ⟨.body, ⟨kind, children, singleLine⟩ :: outer, root, none, log⟩ first
        ((gap ++ last :: rest).take 2) =
          ⟨.closing, ⟨kind, children ++ [.leaf first], singleLine⟩ :: outer, root,
            (role source first).follow none, log⟩ := by
      rw [Machine.readBody_of_own_end (structural_at_start starts) rfl found]
      rfl
    rw [List.cons_append, List.append_assoc, List.singleton_append, Machine.run,
      Machine.read_of_body rfl, step,
      Machine.run_closing _ rfl blank.role_of_mem solid, appendAll_frame, List.append_assoc]
    rfl
  | word spelled closes =>
    rw [List.singleton_append, Machine.run, Machine.read_of_body rfl,
      Machine.readBody_of_own_closer (structural_at_start spelled) (closers_of_kind closes) rfl
        closes]
    rfl

end

end BrightBlocks.Block
