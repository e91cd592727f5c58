import BrightBlocks.Proofs.Block.Machine

/-!
# What a word means in a body

One rule for each meaning that a word has to the machine in a body: it is plain, it starts a branch
or a terminator, it is a closing word or an opener. A terminator leaves open the blocks that it does
not close.
-/

namespace BrightBlocks.Block.Machine

/-! ## Leaving blocks open -/

theorem unwind_of_closes {closes : Kind → Bool} {notice : Kind → Notice} {machine : Machine}
    {frame : Frame} {outer : List Frame} (opened : machine.stack = frame :: outer)
    (accepts : closes frame.kind) : machine.unwind closes notice = machine := by
  unfold unwind
  split
  · rfl
  · rename_i top rest found
    rw [opened] at found
    obtain ⟨rfl, -⟩ := List.cons.inj found
    exact if_pos accepts

theorem unwind_of_not_closes {closes : Kind → Bool} {notice : Kind → Notice} {machine : Machine}
    {frame : Frame} {outer : List Frame} (opened : machine.stack = frame :: outer)
    (rejects : ¬ closes frame.kind) : machine.unwind closes notice =
      unwind closes notice ((machine.note (notice frame.kind)).leave false) := by
  conv =>
    lhs
    unfold unwind
  split
  · rename_i found
    rw [opened] at found
    contradiction
  · rename_i top rest found
    rw [opened] at found
    obtain ⟨rfl, -⟩ := List.cons.inj found
    exact if_neg rejects

theorem unwind_of_nothing_open {closes : Kind → Bool} {notice : Kind → Notice} {machine : Machine}
    (nothing : machine.stack = []) : machine.unwind closes notice = machine := by
  unfold unwind
  split
  · rfl
  · rename_i found
    rw [nothing] at found
    contradiction

/-! ## What a word means in a body -/

theorem read_of_body {machine : Machine} (standing : machine.stage = .body) (source : Text)
    (limit : Nat) (token : Token) (next : List Token) :
    machine.read source limit token next = machine.readBody source limit token next := by
  simp only [read, standing]

/-- A closing word is neither `end` nor an else word. -/
theorem closer_ne : ∀ word ∈ closers, word ≠ "end" ∧ word ∉ elseWords := by
  decide

/-- The word that opens a block means nothing else. -/
theorem opener_ne : ∀ kind ∈ Kind.all,
    kind.opener ≠ "end" ∧ kind.opener ∉ closers ∧ kind.opener ∉ elseWords := by
  decide

theorem opener_of_ofOpener? {word : String} {kind : Kind}
    (opens : Kind.ofOpener? word = some kind) : kind ∈ Kind.all ∧ kind.opener = word := by
  have found := List.find?_some opens
  exact ⟨List.mem_of_find?_eq_some opens, by simpa using found⟩

section

variable {source : Text} {limit : Nat} {machine : Machine} {token : Token} {next : List Token}

/-- A token is placed where it stands unless its word shapes blocks there. -/
theorem readBody_of_plain
    (plain : ∀ word, (role source token).structural machine.previous = some word →
      (machine.kind? = some .conditional → word ∉ elseWords) ∧ word ≠ "end" ∧ word ∉ closers ∧
        Kind.ofOpener? word = none) :
    machine.readBody source limit token next = machine.append source token := by
  unfold readBody
  cases found : (role source token).structural machine.previous with
  | none => rfl
  | some word =>
    obtain ⟨no_else, no_end, no_closer, no_opener⟩ := plain word found
    have not_else : ¬ (machine.kind? = some .conditional ∧ word ∈ elseWords) :=
      fun both => no_else both.1 both.2
    simp only [if_neg not_else, if_neg no_end, if_neg no_closer, no_opener]

theorem readBody_of_else {word : String}
    (found : (role source token).structural machine.previous = some word)
    (conditional : machine.kind? = some .conditional) (is_else : word ∈ elseWords) :
    machine.readBody source limit token next =
      { machine.append source token with stage := stageOfElse source word next } := by
  simp only [readBody, found, if_pos (And.intro conditional is_else)]

theorem readBody_of_end
    (found : (role source token).structural machine.previous = some "end") :
    machine.readBody source limit token next =
      let reached := machine.unwind (fun kind => roleOnLine source next = .word kind.opener)
        (.deferredEnd · token.start)
      if reached.stack = [] then reached.append source token
      else { reached.append source token with stage := .closing } := by
  have not_else : ¬ (machine.kind? = some .conditional ∧ "end" ∈ elseWords) :=
    fun both => absurd both.2 (by decide)
  simp only [readBody, found, if_neg not_else, if_true]

/-- An `end` with the word of the innermost block behind it starts to close the block. -/
theorem readBody_of_own_end {frame : Frame} {outer : List Frame}
    (found : (role source token).structural machine.previous = some "end")
    (opened : machine.stack = frame :: outer)
    (own : roleOnLine source next = .word frame.kind.opener) :
    machine.readBody source limit token next =
      { machine.append source token with stage := .closing } := by
  have still_open : machine.stack ≠ [] := by
    simp [opened]
  rw [readBody_of_end found, unwind_of_closes opened (by simpa using own)]
  exact if_neg still_open

/-- A block that an `end` does not close is left, and the `end` is read again outside. -/
theorem readBody_of_foreign_end {frame : Frame} {outer : List Frame}
    (found : (role source token).structural machine.previous = some "end")
    (opened : machine.stack = frame :: outer)
    (foreign : roleOnLine source next ≠ .word frame.kind.opener) :
    machine.readBody source limit token next =
      ((machine.note (.deferredEnd frame.kind token.start)).leave false).readBody source limit
        token next := by
  have again : (role source token).structural
      ((machine.note (.deferredEnd frame.kind token.start)).leave false).previous =
        some "end" := by
    rw [previous_leave]
    exact found
  rw [readBody_of_end found, readBody_of_end again, unwind_of_not_closes opened (by simpa)]

theorem readBody_of_closer {word : String}
    (found : (role source token).structural machine.previous = some word)
    (closer : word ∈ closers) :
    machine.readBody source limit token next =
      ((machine.unwind (fun kind => word ∈ kind.closers)
        (.deferredCloser · word token.start)).append source token).leave true := by
  obtain ⟨no_end, no_else⟩ := closer_ne word closer
  have not_else : ¬ (machine.kind? = some .conditional ∧ word ∈ elseWords) :=
    fun both => no_else both.2
  simp only [readBody, found, if_neg not_else, if_neg no_end, if_pos closer]

theorem readBody_of_own_closer {word : String} {frame : Frame} {outer : List Frame}
    (found : (role source token).structural machine.previous = some word)
    (closer : word ∈ closers) (opened : machine.stack = frame :: outer)
    (own : word ∈ frame.kind.closers) :
    machine.readBody source limit token next = (machine.append source token).leave true := by
  rw [readBody_of_closer found closer, unwind_of_closes opened (by simpa using own)]

/-- A block that a closing word does not close is left, and the word is read again outside. -/
theorem readBody_of_foreign_closer {word : String} {frame : Frame} {outer : List Frame}
    (found : (role source token).structural machine.previous = some word)
    (closer : word ∈ closers) (opened : machine.stack = frame :: outer)
    (foreign : word ∉ frame.kind.closers) :
    machine.readBody source limit token next =
      ((machine.note (.deferredCloser frame.kind word token.start)).leave false).readBody source
        limit token next := by
  have again : (role source token).structural
      ((machine.note (.deferredCloser frame.kind word token.start)).leave false).previous =
        some word := by
    rw [previous_leave]
    exact found
  rw [readBody_of_closer found closer, readBody_of_closer again closer,
    unwind_of_not_closes opened (by simpa)]

theorem readBody_of_opener {word : String} {kind : Kind}
    (found : (role source token).structural machine.previous = some word)
    (opens : Kind.ofOpener? word = some kind) :
    machine.readBody source limit token next =
      if machine.stack.length < limit then (machine.enter kind).append source token
      else (machine.note (.keptFlat limit word token.start)).append source token := by
  obtain ⟨listed, rfl⟩ := opener_of_ofOpener? opens
  obtain ⟨no_end, no_closer, no_else⟩ := opener_ne kind listed
  have not_else : ¬ (machine.kind? = some .conditional ∧ kind.opener ∈ elseWords) :=
    fun both => no_else both.2
  simp only [readBody, found, if_neg not_else, if_neg no_end, if_neg no_closer, opens]

/-- Where no block is open, all that opens none is placed in the file. -/
theorem readBody_of_nothing_open (nothing : machine.stack = [])
    (opens_none : ((role source token).structural machine.previous).bind Kind.ofOpener? = none) :
    machine.readBody source limit token next = machine.append source token := by
  cases found : (role source token).structural machine.previous with
  | none => exact readBody_of_plain (by simp [found])
  | some word =>
    rw [found] at opens_none
    by_cases is_end : word = "end"
    · rw [is_end] at found
      rw [readBody_of_end found, unwind_of_nothing_open nothing]
      exact if_pos nothing
    by_cases closer : word ∈ closers
    · have outside : (machine.append source token).stack = [] := by
        simp [append, attach, nothing]
      rw [readBody_of_closer found closer, unwind_of_nothing_open nothing]
      simp only [leave, outside]
    have unopened : machine.kind? = none := by
      simp [kind?, nothing]
    apply readBody_of_plain
    intro other same
    rw [found] at same
    obtain rfl := Option.some.inj same
    exact ⟨by simp [unopened], is_end, closer, opens_none⟩

end

end BrightBlocks.Block.Machine
