import BrightBlocks.Command.Execution
import BrightBlocks.Proofs.Block.Composition
import BrightBlocks.Proofs.Report.Document

/-!
# No mode of output loses anything

What is shown of a source determines the source in every mode, and the parsed
file too where blocks are shown (`run_lossless`). In every mode the texts of all
tokens can be read back, and as tokens tile a source, they spell it.

Two nesting limits may well give the same file: the limit itself is not shown.
-/

namespace BrightBlocks.Command

/-- What is shown of a source in a mode, with blocks nested up to a limit. -/
def shown (mode : Mode) (source : Text) (limit : Nat) : Text :=
  match mode with
  | .tree => Report.dump source 0 (.file (Block.parse source limit))
  | .tokens => Report.tokenList source (Token.tokenize source)
  | .json => (Report.fileDocument (some source) (Block.parse source limit)).render 0

/-! ## What is shown -/

/-- The leaves of a parsed source spell it. -/
theorem text_parse (source : Text) (limit : Nat) :
    Forest.text (Block.parse source limit).children source = source := by
  rw [Forest.text, Block.parse_leaves, Token.tokensFrom_zero_text]

/-- All tokens of a source spell it, the end of the input included. -/
theorem text_tokenize (source : Text) :
    (Token.tokenize source).flatMap (·.text source) = source := by
  have empty : (Token.endOfInput source.length).text source = [] := by
    simp [Token.text, Token.endOfInput, Token.slice_ofNat]
  rw [Token.tokenize, List.flatMap_append, Token.tokensFrom_zero_text]
  simp [empty]

variable {source source' : Text} {limit limit' : Nat}

theorem eq_of_tokenList_eq
    (same : Report.tokenList source (Token.tokenize source) =
      Report.tokenList source' (Token.tokenize source')) : source = source' := by
  have filled (source : Text) : Token.tokenize source ≠ [] := by simp [Token.tokenize]
  obtain ⟨-, texts⟩ := Report.tokenList_inj (filled source) (filled source') same
  calc
    source = ((Token.tokenize source).map (·.text source)).flatten := by
      rw [← List.flatMap_def, text_tokenize]
    _ = ((Token.tokenize source').map (·.text source')).flatten := by rw [texts]
    _ = source' := by rw [← List.flatMap_def, text_tokenize]

theorem eq_of_dump_eq
    (same : Report.dump source 0 (.file (Block.parse source limit)) =
      Report.dump source' 0 (.file (Block.parse source' limit'))) :
    source = source' ∧ Block.parse source limit = Block.parse source' limit' := by
  obtain ⟨-, lines⟩ := Report.dump_inj same
  have spelled := congrArg (List.flatMap (·.entry.text)) lines
  rw [Report.outline_text, Report.outline_text, text_parse, text_parse] at spelled
  subst spelled
  have children := Report.eq_of_outline_eq lines
    ((Block.parse_leaves source limit).trans (Block.parse_leaves source limit').symm)
  have lengths := (Block.parse_length source limit).trans (Block.parse_length source limit').symm
  exact ⟨rfl, congrArg₂ File.mk children lengths⟩

theorem eq_of_fileDocument_eq
    (same : (Report.fileDocument (some source) (Block.parse source limit)).render 0 =
      (Report.fileDocument (some source') (Block.parse source' limit')).render 0) :
    source = source' ∧ Block.parse source limit = Block.parse source' limit' := by
  obtain ⟨files, texts⟩ := Report.fileDocument_render_inj same
  rw [text_parse, text_parse] at texts
  exact ⟨texts, files⟩

/-- What is shown is shown of one source only, and where blocks are shown, of one file. -/
theorem shown_inj {mode : Mode} (same : shown mode source limit = shown mode source' limit') :
    source = source' ∧
      (mode ≠ .tokens → Block.parse source limit = Block.parse source' limit') := by
  cases mode with
  | tree =>
    obtain ⟨sources, files⟩ := eq_of_dump_eq same
    exact ⟨sources, fun _ => files⟩
  | tokens => exact ⟨eq_of_tokenList_eq same, fun blocks => absurd rfl blocks⟩
  | json =>
    obtain ⟨sources, files⟩ := eq_of_fileDocument_eq same
    exact ⟨sources, fun _ => files⟩

/-! ## Runs -/

/-- A source is rendered whatever it is, if the nesting limit is allowed. -/
theorem exists_render_eq (mode : Mode) (source : Text) {limit : Int} (allowed : 1 ≤ limit) :
    ∃ log, render source mode limit = .ok ⟨shown mode source limit.toNat, log⟩ := by
  have checked : Block.checkLimit limit = .ok limit.toNat := if_pos allowed
  cases mode with
  | tokens => exact ⟨[], rfl⟩
  | tree => exact ⟨_, by simp only [render, checked]; rfl⟩
  | json => exact ⟨_, by simp only [render, checked]; rfl⟩

/-- A run on a source at hand leaves the disk alone, and prints what it shows. -/
theorem run_of_render {m : Type → Type} [Monad m] [LawfulMonad m] (disk : Disk m) {mode : Mode}
    {source output : Text} {limit : Int} {log : List LogLine}
    (rendered : render source mode limit = .ok ⟨output, log⟩) :
    run disk source true mode none limit = pure ⟨log, .ok output, output ++ ['\n']⟩ := by
  simp [run, fetch, rendered, deliver]

/--
No mode of output loses anything: with allowed nesting limits, runs on two sources at hand both show
a result, on any disk, and where the results are equal, so are the sources, and so are the parsed
files in the modes that show blocks.
-/
theorem run_lossless (mode : Mode) (source source' : Text) {limit limit' : Int}
    (allowed : 1 ≤ limit) (allowed' : 1 ≤ limit') :
    ∃ output output' log log',
      (∀ {m : Type → Type} [Monad m] [LawfulMonad m] (disk : Disk m),
        run disk source true mode none limit = pure ⟨log, .ok output, output ++ ['\n']⟩ ∧
        run disk source' true mode none limit' = pure ⟨log', .ok output', output' ++ ['\n']⟩) ∧
      (output = output' → source = source' ∧
        (mode ≠ .tokens →
          Block.parse source limit.toNat = Block.parse source' limit'.toNat)) := by
  obtain ⟨log, rendered⟩ := exists_render_eq mode source allowed
  obtain ⟨log', rendered'⟩ := exists_render_eq mode source' allowed'
  exact ⟨_, _, log, log', fun disk => ⟨run_of_render disk rendered, run_of_render disk rendered'⟩,
    shown_inj⟩

/-- An open block and a text that reads like its line are not shown alike. -/
theorem run_lossless_lookalike :
    let block : Text := "sub f".toList
    let literal : Text := "\"SUB [0, 5) (unclosed)".toList
    (1 : Int) ≤ 1 ∧ (1 : Int) ≤ 2 ∧
    ∃ output output' log log',
      (∀ {m : Type → Type} [Monad m] [LawfulMonad m] (disk : Disk m),
        run disk block true .tree none 1 = pure ⟨log, .ok output, output ++ ['\n']⟩ ∧
        run disk literal true .tree none 2 = pure ⟨log', .ok output', output' ++ ['\n']⟩) ∧
      output ≠ output' := by
  intro block literal
  have first : (1 : Int) ≤ 1 := by decide
  have second : (1 : Int) ≤ 2 := by decide
  obtain ⟨output, output', log, log', runs, lossless⟩ :=
    run_lossless .tree block literal first second
  refine ⟨first, second, output, output', log, log', runs, fun same => ?_⟩
  have differ : block ≠ literal := by decide
  exact differ (lossless same).1

end BrightBlocks.Command
