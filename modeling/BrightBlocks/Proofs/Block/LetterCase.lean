import BrightBlocks.Proofs.Block.Conservation
import BrightBlocks.Proofs.Block.Simulation
import BrightBlocks.Proofs.Token.LetterCase

/-!
# Blocks do not depend on case

Two sources that differ in the case of letters from A to Z alone have the same tokens, the
same tree and the same notices (`parse_congr_of_foldCase`). The tokens are those of
`Token.tokenize_foldCase`. Against either source they mean the same (`role_foldCase`), and
their meaning is all that the machine sees of a source (`Machine.run_congr_of_role`).
-/

namespace BrightBlocks.Block

/-! ## What the machine sees of a source -/

section

variable {source source' : Text}

theorem roleOnLine_congr_of_role (same : role source = role source') (next : List Token) :
    roleOnLine source next = roleOnLine source' next := by
  match next with
  | [] => rfl
  | [token] => simp only [roleOnLine, same]
  | token :: second :: _ => simp only [roleOnLine, same]

theorem Machine.read_congr_of_role (same : role source = role source') (limit : Nat)
    (machine : Machine) (token : Token) (next : List Token) :
    machine.read source limit token next = machine.read source' limit token next := by
  simp only [read, readFront, readBody, append, stageOfElse, codeOnLine,
    roleOnLine_congr_of_role same, same]

/-- The machine does the same against sources in which all tokens mean the same. -/
theorem Machine.run_congr_of_role (same : role source = role source') (limit : Nat)
    (machine : Machine) (tokens : List Token) :
    machine.run source limit tokens = machine.run source' limit tokens := by
  induction tokens generalizing machine with
  | nil => rfl
  | cons token rest inductionHypothesis =>
    rw [run, read_congr_of_role same, inductionHypothesis, run]

/-- Against sources in which all tokens mean the same, tokens have the same tree and notices. -/
theorem recover_congr_of_role (same : role source = role source') (limit : Nat)
    (tokens : List Token) :
    (recover source limit tokens).1 = (recover source' limit tokens).1 ∧
      (recover source limit tokens).2.log = (recover source' limit tokens).2.log := by
  have ended := Machine.run_congr_of_role same limit .start (significantTokens tokens)
  rw [run_start, run_start] at ended
  have length : (recover source limit tokens).1.length =
      (recover source' limit tokens).1.length := by
    rw [recover_length, recover_length]
  refine ⟨?_, congrArg Machine.log ended⟩
  calc (recover source limit tokens).1
    _ = ⟨(recover source limit tokens).1.children, (recover source limit tokens).1.length⟩ := rfl
    _ = ⟨(recover source' limit tokens).1.children, (recover source' limit tokens).1.length⟩ :=
      congrArg₂ File.mk (congrArg Machine.root ended) length

end

/-! ## Sources that differ in case -/

/-- A token means the same in any case. -/
theorem role_foldCase (source : Text) : role source.foldCase = role source := by
  funext token
  unfold role
  rw [Token.breaksLine_foldCase, Token.text_foldCase, Token.smallWord_foldCase]

/--
Sources that differ in the case of letters from A to Z alone have the same tokens and, whatever the
limit, the same tree, and the same notices are taken down.
-/
theorem parse_congr_of_foldCase {source source' : Text}
    (same : source.foldCase = source'.foldCase) (limit : Nat) :
    Token.tokenize source = Token.tokenize source' ∧
      parse source limit = parse source' limit ∧
      (recover source limit (Token.tokenize source)).2.log =
        (recover source' limit (Token.tokenize source')).2.log := by
  have tokens : Token.tokenize source = Token.tokenize source' := by
    rw [← Token.tokenize_foldCase, same, Token.tokenize_foldCase]
  have meaning : role source = role source' := by
    rw [← role_foldCase, same, role_foldCase]
  have recovered := recover_congr_of_role meaning limit (Token.tokenize source')
  rw [parse, parse, tokens]
  exact ⟨rfl, recovered⟩

/-- A sigma at the end of a name, a remark, and a hexadecimal number, in a loop that stays open. -/
theorem parse_congr_of_foldCase_in_loop :
    let source : Text := "SUB aΣ\nrem x\nWHILE &hfF\nEnd Sub".toList
    let other : Text := "sub AΣ\nREM X\nwhile &HFf\neND sUB".toList
    source.foldCase = other.foldCase ∧
      Token.tokenize source = Token.tokenize other ∧
      parse source 3 = parse other 3 ∧
      (recover source 3 (Token.tokenize source)).2.log =
        (recover other 3 (Token.tokenize other)).2.log := by
  intro source other
  have same : source.foldCase = other.foldCase := by decide +kernel
  exact ⟨same, parse_congr_of_foldCase same 3⟩

end BrightBlocks.Block
