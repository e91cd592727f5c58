import BrightBlocks.Proofs.Block.MachineCursor

/-!
# Headers, branches and terminators are runs of the machine

A header or a condition leads the machine to the body behind it (`HeaderReads.run_eq`), and so does
the start of a branch (`run_branch`). A terminator that matches closes the innermost block; one that
does not is put back, and the machine leaves the block without having read it (`run_tryEnd`).
-/

namespace BrightBlocks.Block

open Cursor (Moves)

section

variable {source : Text} {limit : Nat} {cursor after : Cursor} {token : Token}
  {kind : Kind} {children root : List Node} {singleLine : Bool} {outer : List Frame}

/-! ## Headers -/

/-- The machine reads a header as the recovery does. -/
theorem HeaderReads.run_eq {phase : Phase} {result : Header}
    (reads : HeaderReads source kind phase cursor result) (ready : cursor.Ready (outer.length + 1))
    (unset : phase = .opening → singleLine = false) :
    (cursor.machine (.front phase) (⟨kind, children, singleLine⟩ :: outer) root).run source limit
        cursor.ahead =
      (result.cursor.machine .body
        (⟨kind, children ++ leafNodes result.leaves,
          if phase = .opening then result.singleLine else singleLine⟩ :: outer) root).run source
        limit result.cursor.ahead := by
  have kept : (if phase = .opening then false else singleLine) = singleLine := by
    split
    · rename_i opening
      exact (unset opening).symm
    · rfl
  induction reads generalizing children with
  | ended stuck =>
    simp only [leafNodes, List.map_nil, List.append_nil, kept, run_of_stuck stuck]
  | lineBreak taken broken =>
    rename_i cursor after token
    have step : (cursor.machine (.front phase) (⟨kind, children, singleLine⟩ :: outer) root).read
        source limit token (after.ahead.take 2) =
          after.machine .body (⟨kind, children ++ [.leaf token], singleLine⟩ :: outer) root := by
      rw [← append_of_advance? taken]
      exact Machine.readFront_of_lineBreak broken
    rw [run_of_advance? taken, step, kept]
    rfl
  | atThen taken found conditional =>
    rename_i cursor after token
    rw [run_of_advance? taken]
    cases phase with
    | opening =>
      have looked := nextOnLine_moves source after
      have step : (cursor.machine (.front .opening) (⟨kind, children, singleLine⟩ :: outer)
          root).read source limit token (after.ahead.take 2) =
            after.machine .body (⟨kind, children ++ [.leaf token],
              codeOnLine source (after.ahead.take 2)⟩ :: outer) root := by
        rw [← append_of_advance? taken]
        exact Machine.readFront_of_then found (congrArg some conditional)
      rw [step, codeOnLine_take, ← codeFollows_eq (ready.moves (.of_advance? taken)),
        machine_eq looked (Cursor.log_nextOnLine after), looked.ahead]
      rfl
    | condition =>
      have step : (cursor.machine (.front .condition) (⟨kind, children, singleLine⟩ :: outer)
          root).read source limit token (after.ahead.take 2) =
            after.machine .body (⟨kind, children ++ [.leaf token], singleLine⟩ :: outer) root := by
        rw [← append_of_advance? taken]
        exact Machine.readFront_of_then found (congrArg some conditional)
      rw [step]
      rfl
  | cut taken found boundary =>
    rename_i cursor after token word
    have step : (cursor.machine (.front phase) (⟨kind, children, singleLine⟩ :: outer) root).read
        source limit token (after.ahead.take 2) =
          (((cursor.fill 1).note (.headerCutShort kind word token.start)).machine .body
            (⟨kind, children, singleLine⟩ :: outer) root).read source limit token
            (after.ahead.take 2) :=
      Machine.readFront_of_boundary found rfl boundary
    rw [run_of_advance? taken, step, ← run_of_advance? taken, Cursor.ahead_note,
      Cursor.ahead_fill, kept]
    simp [leafNodes]
  | plain taken unbroken inside further inductionHypothesis =>
    rename_i cursor after token rest
    have step : (cursor.machine (.front phase) (⟨kind, children, singleLine⟩ :: outer) root).read
        source limit token (after.ahead.take 2) =
          after.machine (.front phase) (⟨kind, children ++ [.leaf token], singleLine⟩ :: outer)
            root := by
      rw [← append_of_advance? taken]
      exact Machine.readFront_of_plain rfl unbroken inside
    rw [run_of_advance? taken, step, inductionHypothesis (ready.moves (.of_advance? taken))]
    simp [Header.prepend, leafNodes]

/-! ## Branches -/

/-- What a gap and the word that was found on the line move a cursor by. -/
theorem takeGap_take_moves (source : Text) (cursor : Cursor) :
    Moves source cursor
      ((cursor.takeGap source).1 ++ ((cursor.takeGap source).2.take source).1)
      ((cursor.takeGap source).2.take source).2 :=
  (takeGap_moves source cursor).trans (take_moves source _)

theorem appendAll_takeGap_take (stage : Stage) :
    (cursor.machine stage (⟨kind, children, singleLine⟩ :: outer) root).appendAll source
        ((cursor.takeGap source).1 ++ ((cursor.takeGap source).2.take source).1) =
      ((cursor.takeGap source).2.take source).2.machine stage
        (⟨kind, children ++
            leafNodes ((cursor.takeGap source).1 ++ ((cursor.takeGap source).2.take source).1),
          singleLine⟩ :: outer) root := by
  apply (takeGap_take_moves source cursor).appendAll
  rw [Cursor.log_take, Cursor.log_takeGap]

/-- The machine passes the `if` of an `else if` as the recovery does. -/
theorem run_elseIf (ready : cursor.Ready (outer.length + 1))
    (found : roleOnLine source cursor.ahead = .word "if") :
    (cursor.machine .elseIf (⟨kind, children, singleLine⟩ :: outer) root).run source limit
        cursor.ahead =
      (((cursor.takeGap source).2.take source).2.machine (.front .condition)
        (⟨kind, children ++
            leafNodes ((cursor.takeGap source).1 ++ ((cursor.takeGap source).2.take source).1),
          singleLine⟩ :: outer) root).run source limit
        ((cursor.takeGap source).2.take source).2.ahead := by
  obtain ⟨last, only, word⟩ := take_takeGap ready found
  rw [(takeGap_take_moves source cursor).ahead, List.append_assoc, only, List.singleton_append,
    Machine.run_elseIf _ rfl (fun _ => role_of_mem_takeGap) (by simp [word]), ← only,
    appendAll_takeGap_take]
  rfl

/-- The machine reads the start of a branch as the recovery does. -/
theorem run_branch {word : String} (ready : cursor.Ready (outer.length + 1))
    (taken : cursor.advance? source = some (token, after))
    (found : (role source token).structural cursor.previous = some word)
    (is_else : word ∈ elseWords) :
    (cursor.machine .body (⟨.conditional, children, singleLine⟩ :: outer) root).run source limit
        cursor.ahead =
      ((branch source .conditional (some word) cursor).cursor.machine .body
        (⟨.conditional,
          children ++ leafNodes (branch source .conditional (some word) cursor).leaves,
          singleLine⟩ :: outer) root).run source limit
        (branch source .conditional (some word) cursor).cursor.ahead := by
  have placed : after.Ready (outer.length + 1) := ready.moves (.of_advance? taken)
  have step : (cursor.machine .body (⟨.conditional, children, singleLine⟩ :: outer) root).read
      source limit token (after.ahead.take 2) =
        after.machine (Machine.stageOfElse source word after.ahead)
          (⟨.conditional, children ++ [.leaf token], singleLine⟩ :: outer) root := by
    rw [← append_of_advance? taken, ← Machine.stageOfElse_take]
    exact Machine.readBody_of_else found rfl is_else
  rw [run_of_advance? taken, step]
  unfold branch
  rw [Cursor.take_eq taken]
  dsimp only
  by_cases is_plain : word = "else"
  · subst is_plain
    have looked := nextOnLine_moves source after
    have there : (after.nextOnLine source).2.Ready (outer.length + 1) := placed.moves looked
    have same : (after.nextOnLine source).2.ahead = after.ahead := looked.ahead.symm
    rw [if_pos rfl, placed.role_nextOnLine]
    by_cases nested : roleOnLine source after.ahead = .word "if"
    · have stage : Machine.stageOfElse source "else" after.ahead = .elseIf := by
        simp [Machine.stageOfElse, nested]
      rw [if_pos nested, stage, machine_eq looked (Cursor.log_nextOnLine after), ← same,
        run_elseIf there (same ▸ nested),
        (header_reads source .conditional .condition _).run_eq
          (there.moves (takeGap_take_moves source _)) (by simp)]
      simp [Header.prepend, leafNodes]
    · have stage : Machine.stageOfElse source "else" after.ahead = .body := by
        simp [Machine.stageOfElse, nested]
      rw [if_neg nested, stage, machine_eq looked (Cursor.log_nextOnLine after), ← same]
      rfl
  · have stage : Machine.stageOfElse source word after.ahead = .front .condition := by
      simp [Machine.stageOfElse, is_plain]
    have other : some word ≠ some "else" := fun same => is_plain (Option.some.inj same)
    rw [if_neg other, stage,
      (header_reads source .conditional .condition after).run_eq placed (by simp)]
    simp [Header.prepend, leafNodes]

/-! ## Terminators -/

/-- A terminator of two words is taken where the second one is found on the line. -/
theorem closeWithEnd_of_match {opened : Nat} (ready : cursor.Ready opened)
    (taken : cursor.advance? source = some (token, after))
    (found : roleOnLine source after.ahead = .word kind.opener) :
    closeWithEnd source kind cursor =
      (some (token :: (after.takeGap source).1 ++ ((after.takeGap source).2.take source).1),
        ((after.takeGap source).2.take source).2) := by
  have placed : after.Ready opened := ready.moves (.of_advance? taken)
  have again := (Cursor.advance?_fill cursor source).trans taken
  unfold closeWithEnd
  rw [Cursor.current_eq taken]
  dsimp only
  rw [Cursor.take_eq again]
  dsimp only
  rw [placed.role_current_takeGap, if_pos found]
  obtain ⟨last, only, -⟩ := take_takeGap placed found
  cases next : (after.takeGap source).2.advance? source with
  | none => simp [Cursor.take, next] at only
  | some pair =>
    obtain ⟨word, last⟩ := pair
    have drawn : (after.takeGap source).2.current.2.advance? source = some (word, last) :=
      (Cursor.advance?_fill (after.takeGap source).2 source).trans next
    rw [Cursor.take_eq next, Cursor.take_eq drawn]
    rfl

/-- Where another word follows, the `end` is left ahead and a notice is made. -/
theorem closeWithEnd_of_other {opened : Nat} (ready : cursor.Ready opened)
    (taken : cursor.advance? source = some (token, after))
    (other : roleOnLine source after.ahead ≠ .word kind.opener) :
    (closeWithEnd source kind cursor).1 = none ∧
      (closeWithEnd source kind cursor).2.log = cursor.log ++ [.deferredEnd kind token.start] := by
  have placed : after.Ready opened := ready.moves (.of_advance? taken)
  have again := (Cursor.advance?_fill cursor source).trans taken
  unfold closeWithEnd
  rw [Cursor.current_eq taken]
  dsimp only
  rw [Cursor.take_eq again]
  dsimp only
  rw [placed.role_current_takeGap, if_neg other]
  refine ⟨rfl, ?_⟩
  show (after.takeGap source).2.log ++ [_] = _
  rw [Cursor.log_takeGap, Cursor.log_of_advance? taken]

/-- The machine passes the word behind an `end` as the recovery does. -/
theorem run_closing (ready : cursor.Ready (outer.length + 1))
    (found : roleOnLine source cursor.ahead = .word kind.opener) :
    (cursor.machine .closing (⟨kind, children, singleLine⟩ :: outer) root).run source limit
        cursor.ahead =
      ((((cursor.takeGap source).2.take source).2.machine .closing
        (⟨kind, children ++
            leafNodes ((cursor.takeGap source).1 ++ ((cursor.takeGap source).2.take source).1),
          singleLine⟩ :: outer) root).leave true).run source limit
        ((cursor.takeGap source).2.take source).2.ahead := by
  obtain ⟨last, only, word⟩ := take_takeGap ready found
  rw [(takeGap_take_moves source cursor).ahead, List.append_assoc, only, List.singleton_append,
    Machine.run_closing _ rfl (fun _ => role_of_mem_takeGap) (by simp [word]), ← only,
    appendAll_takeGap_take]

/-- The machine reads an `end` as the recovery does. -/
theorem run_tryEnd (ready : cursor.Ready (outer.length + 1))
    (taken : cursor.advance? source = some (token, after))
    (found : (role source token).structural cursor.previous = some "end") :
    (cursor.machine .body (⟨kind, children, singleLine⟩ :: outer) root).run source limit
        cursor.ahead =
      (((closeWithEnd source kind cursor).2.machine .body
        (⟨kind, children ++ leafNodes ((closeWithEnd source kind cursor).1.getD []),
          singleLine⟩ :: outer) root).leave (closeWithEnd source kind cursor).1.isSome).run source
        limit (closeWithEnd source kind cursor).2.ahead := by
  have placed : after.Ready (outer.length + 1) := ready.moves (.of_advance? taken)
  by_cases own : roleOnLine source after.ahead = .word kind.opener
  · have step : (cursor.machine .body (⟨kind, children, singleLine⟩ :: outer) root).read source
        limit token (after.ahead.take 2) =
          after.machine .closing (⟨kind, children ++ [.leaf token], singleLine⟩ :: outer)
            root := by
      rw [Machine.read_of_body rfl, Machine.readBody_of_own_end found rfl (by simpa using own),
        append_of_advance? taken]
      rfl
    rw [run_of_advance? taken, step, run_closing placed own,
      closeWithEnd_of_match ready taken own]
    simp only [Option.getD_some, Option.isSome_some, leafNodes, List.append_assoc, List.map_cons,
      List.cons_append]
    rfl
  · obtain ⟨nothing, noted⟩ := closeWithEnd_of_other ready taken own
    have moves := closeWithEnd_moves source kind cursor
    rw [nothing] at moves
    have same : (closeWithEnd source kind cursor).2.ahead = cursor.ahead := moves.ahead.symm
    have step : (cursor.machine .body (⟨kind, children, singleLine⟩ :: outer) root).read source
        limit token (after.ahead.take 2) =
          (((closeWithEnd source kind cursor).2.machine .body
            (⟨kind, children, singleLine⟩ :: outer) root).leave false).read source limit token
            (after.ahead.take 2) := by
      rw [machine_note moves noted, Machine.read_of_body (Machine.stage_leave rfl false),
        Machine.read_of_body rfl, Machine.readBody_of_foreign_end found rfl]
      simpa using own
    rw [run_of_advance? taken, step, nothing, same, ← run_of_advance? taken]
    simp [leafNodes]

end

end BrightBlocks.Block
