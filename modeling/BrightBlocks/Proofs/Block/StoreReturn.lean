import Mathlib.Data.List.TakeDrop
import BrightBlocks.Proofs.Block.StoreGrowth

/-!
# Taking back what a node has got

`Store.cut` takes back what one node has got. When all the tokens that were placed since an
earlier store stand in one node, taking them back restores the earlier account
(`Store.Holds.cut`). They are all that the node has got, unless it has got a block besides
(`Store.Extends.newChildren_eq`), and then one that holds no token of its own
(`Store.Extends.flat_of_full`).
-/

namespace BrightBlocks.Block

namespace Store

variable {store before middle after : Store} {node holder inner : Nat}

/-- The tokens that were placed since an earlier store. -/
def since (before after : Store) : List Placed :=
  after.placed.drop before.placed.length

/-- The children that a node has got since an earlier store. -/
def newChildren (before after : Store) (node : Nat) : List Child :=
  (after.children node).drop (before.children node).length

/-- All the tokens that were placed since an earlier store stand in one node. -/
def HeldIn (before after : Store) (node : Nat) : Prop :=
  ∀ entry ∈ before.since after, entry.holder = node

/-- A node has got no block since an earlier store. -/
def Flat (before after : Store) (node : Nat) : Prop :=
  Child.blocks (before.newChildren after node) = []

instance (before after : Store) (node : Nat) : Decidable (before.HeldIn after node) :=
  inferInstanceAs (Decidable (∀ entry ∈ before.since after, entry.holder = node))

instance (before after : Store) (node : Nat) : Decidable (before.Flat after node) :=
  inferInstanceAs (Decidable (Child.blocks (before.newChildren after node) = []))

namespace Extends

theorem placed_eq (grows : before.Extends after) :
    after.placed = before.placed ++ before.since after :=
  (List.prefix_iff_eq_append.mp grows.placed).symm

theorem children_eq (grows : before.Extends after) (node : Nat) :
    after.children node = before.children node ++ before.newChildren after node := by
  obtain ⟨more, grown, -⟩ := grows.children node
  rw [newChildren, grown, List.drop_left]

theorem fresh (grows : before.Extends after) (node : Nat) :
    ∀ inner ∈ Child.blocks (before.newChildren after node), before.created ≤ inner := by
  obtain ⟨more, grown, fresh⟩ := grows.children node
  rwa [newChildren, grown, List.drop_left]

/-- No token was placed elsewhere. -/
theorem heldBy_eq (grows : before.Extends after) (held : before.HeldIn after node) {other : Nat}
    (elsewhere : other ≠ node) :
    Placed.heldBy other after.placed = Placed.heldBy other before.placed := by
  have nothing : Placed.heldBy other (before.since after) = [] :=
    Placed.heldBy_eq_nil fun entry placed same => elsewhere (same ▸ held entry placed)
  rw [grows.placed_eq, Placed.heldBy_append, nothing, List.append_nil]

/-- The tokens that the node itself has got are those that were placed since. -/
theorem leaves_newChildren (grows : before.Extends after) (holds : before.Holds)
    (holds' : after.Holds) (held : before.HeldIn after node) :
    Child.leaves (before.newChildren after node) = (before.since after).map (·.token) := by
  have whole := holds'.leaves node
  rw [grows.children_eq node, grows.placed_eq, Child.leaves_append, Placed.heldBy_append,
    holds.leaves, Placed.heldBy_eq_map held] at whole
  exact List.append_cancel_left whole

/-- Without a block among it, what the node has got is the tokens that were placed since. -/
theorem newChildren_eq (grows : before.Extends after) (holds : before.Holds)
    (holds' : after.Holds) (held : before.HeldIn after node) (flat : before.Flat after node) :
    before.newChildren after node = ((before.since after).map (·.token)).map .leaf := by
  rw [Child.eq_map_leaves flat, grows.leaves_newChildren holds holds' held]

theorem placed_cut (grows : before.Extends after) (node size : Nat) :
    (after.cut node size before.placed.length).placed = before.placed := by
  rw [cut, grows.placed_eq, List.take_left]

theorem children_cut (grows : before.Extends after) (node count : Nat) :
    (after.cut node (before.children node).length count).children node =
      before.children node := by
  rw [children_cut_self, grows.children_eq node, List.take_left]

/-- Taking back leaves a store that extends all those that the earlier one extends. -/
theorem cut {earlier : Store} (grows : before.Extends after) (first : earlier.Extends before)
    (node : Nat) :
    earlier.Extends (after.cut node (before.children node).length before.placed.length) where
  created := Nat.le_trans first.created grows.created
  placed := by
    rw [grows.placed_cut]
    exact first.placed
  children other := by
    by_cases same : other = node
    · subst same
      rw [grows.children_cut]
      exact first.children other
    · rw [children_cut_of_ne _ _ _ same]
      exact (first.trans grows).children other

end Extends

/-- Taking back all that was placed since an earlier store keeps the account. -/
theorem Holds.cut (holds : after.Holds) (holds' : before.Holds) (grows : before.Extends after)
    (held : before.HeldIn after node) :
    (after.cut node (before.children node).length before.placed.length).Holds where
  leaves other := by
    rw [grows.placed_cut]
    by_cases same : other = node
    · subst same
      rw [grows.children_cut, holds'.leaves]
    · rw [children_cut_of_ne _ _ _ same, holds.leaves, grows.heldBy_eq held same]
  exist entry placed := by
    rw [grows.placed_cut] at placed
    exact Nat.lt_of_lt_of_le (holds'.exist entry placed) grows.created

/-- A node that is cut was no block by the earlier store, or it had a token of its own then. -/
theorem Full.cut (full : after.Full) (full' : before.Full) (grows : before.Extends after)
    (there : node < before.created) (count : Nat) :
    (after.cut node (before.children node).length count).Full := by
  intro other inner inside
  have kept : inner ∈ Child.blocks (after.children other) := by
    by_cases same : other = node
    · subst same
      rw [grows.children_cut] at inside
      rw [grows.children_eq other, Child.blocks_append]
      exact List.mem_append_left _ inside
    · rwa [children_cut_of_ne _ _ _ same] at inside
  by_cases same : inner = node
  · subst same
    rw [grows.children_cut]
    rw [grows.children_eq other, Child.blocks_append, List.mem_append] at kept
    rcases kept with earlier | new
    · exact full' other inner earlier
    · exact absurd there (Nat.not_lt_of_le (grows.fresh other inner new))
  · rw [children_cut_of_ne _ _ _ same]
    exact full other inner kept

end Store

end BrightBlocks.Block
