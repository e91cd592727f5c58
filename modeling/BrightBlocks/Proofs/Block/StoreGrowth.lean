import BrightBlocks.Proofs.Block.Headed
import BrightBlocks.Proofs.Block.Movement
import BrightBlocks.Proofs.Block.Store

/-!
# What placing more does to a store

A store only grows: every node keeps what it has, and what it gets stands behind that
(`Store.Extends`). A forest that is placed in a node brings the tokens of its leaves and no others
(`Store.addForest_gains`), and where each of its blocks has a token of its own, each block of the
store has one (`Store.addForest_full`).
-/

namespace BrightBlocks.Block

namespace Store

variable {store before middle after : Store} {node holder inner : Nat}

/-! ## What placing more does -/

/-- A list of children has grown at its end, by no block whose number is below `first`. -/
def Grown (first : Nat) (old new : List Child) : Prop :=
  ∃ more, new = old ++ more ∧ ∀ inner ∈ Child.blocks more, first ≤ inner

theorem Grown.refl (first : Nat) (children : List Child) : Grown first children children :=
  ⟨[], (List.append_nil _).symm, List.forall_mem_nil _⟩

theorem Grown.trans {first second : Nat} {old between new : List Child}
    (front : Grown first old between) (le : first ≤ second) (back : Grown second between new) :
    Grown first old new := by
  obtain ⟨more, rfl, fresh⟩ := front
  obtain ⟨further, rfl, fresher⟩ := back
  refine ⟨more ++ further, List.append_assoc .., ?_⟩
  rw [Child.blocks_append, List.forall_mem_append]
  exact ⟨fresh, fun inner inside => Nat.le_trans le (fresher inner inside)⟩

/-- Nothing that was there is lost, and the blocks that a node has got since are new nodes. -/
structure Extends (before after : Store) : Prop where
  created : before.created ≤ after.created
  placed : before.placed <+: after.placed
  children : ∀ node, Grown before.created (before.children node) (after.children node)

namespace Extends

theorem refl (store : Store) : store.Extends store :=
  ⟨Nat.le_refl _, List.prefix_refl _, fun _ => .refl _ _⟩

theorem trans (first : before.Extends middle) (second : middle.Extends after) :
    before.Extends after where
  created := Nat.le_trans first.created second.created
  placed := first.placed.trans second.placed
  children node := (first.children node).trans first.created (second.children node)

theorem create (store : Store) : store.Extends store.create :=
  ⟨Nat.le_succ _, List.prefix_refl _, fun _ => .refl _ _⟩

/-- Adding a child extends an earlier store if the child is no block that was there by then. -/
theorem add (grows : before.Extends after) (node : Nat) (child : Child)
    (fresh : ∀ inner ∈ Child.blocks [child], before.created ≤ inner) :
    before.Extends (after.add node child) where
  created := grows.created
  placed := grows.placed
  children other := by
    have grown := grows.children other
    by_cases same : other = node
    · subst same
      rw [children_add_self]
      exact grown.trans (Nat.le_refl _) ⟨[child], rfl, fresh⟩
    · rwa [children_add_of_ne after child same]

theorem addLeaf (store : Store) (node : Nat) (token : Token) :
    store.Extends (store.addLeaf node token) where
  created := Nat.le_refl _
  placed := List.prefix_append _ _
  children := ((refl store).add node (.leaf token) (List.forall_mem_nil _)).children

end Extends

/-- What adding parts of a tree to a node does. -/
structure Gains (before : Store) (tokens : List Token) (after : Store) : Prop where
  holds : after.Holds
  grows : before.Extends after
  tokens : after.tokens = before.tokens ++ tokens

theorem Gains.refl (holds : store.Holds) : store.Gains [] store :=
  ⟨holds, .refl store, (List.append_nil _).symm⟩

theorem Gains.create (holds : store.Holds) : store.Gains [] store.create :=
  ⟨holds.create, .create store, (List.append_nil _).symm⟩

theorem Gains.trans {front back : List Token} (first : before.Gains front middle)
    (second : middle.Gains back after) : before.Gains (front ++ back) after where
  holds := second.holds
  grows := first.grows.trans second.grows
  tokens := by rw [second.tokens, first.tokens, List.append_assoc]

mutual

/-- Adding a part of a tree places its leaves. -/
theorem addNode_gains {store : Store} {holder : Nat} (holds : store.Holds)
    (there : holder < store.created) :
    (node : Node) → store.Gains node.leaves (store.addNode holder node)
  | .leaf token => ⟨holds.addLeaf there token, .addLeaf store holder token, tokens_addLeaf ..⟩
  | .block _ children _ _ =>
    have inside := addForest_gains holds.create (Nat.lt_succ_self store.created) children
    have grows := (Extends.create store).trans inside.grows
    ⟨inside.holds.addBlock holder store.created,
      grows.add holder _ (List.forall_mem_singleton.mpr (Nat.le_refl _)), inside.tokens⟩

/-- Adding parts of a tree places their leaves. -/
theorem addForest_gains {store : Store} {holder : Nat} (holds : store.Holds)
    (there : holder < store.created) :
    (forest : List Node) → store.Gains (Forest.leaves forest) (store.addForest holder forest)
  | [] => .refl holds
  | node :: rest =>
    have front := addNode_gains holds there node
    have further := Nat.lt_of_lt_of_le there front.grows.created
    front.trans (addForest_gains front.holds further rest)

end

/-! ## Blocks with a token of their own -/

/-- Every block that stands in a node has a token of its own. -/
def Full (store : Store) : Prop :=
  ∀ node, ∀ inner ∈ Child.blocks (store.children node), Child.leaves (store.children inner) ≠ []

theorem Full.empty : empty.Full := by
  intro node inner inside
  cases inside

/-- What has tokens of its own keeps them. -/
theorem leaves_add_ne_nil {child : Child} (own : Child.leaves (store.children inner) ≠ []) :
    Child.leaves ((store.add node child).children inner) ≠ [] := by
  by_cases same : inner = node
  · subst same
    simp [own]
  · rwa [children_add_of_ne store child same]

theorem Full.add (full : store.Full) (node : Nat) (child : Child)
    (own : ∀ inner ∈ Child.blocks [child], Child.leaves (store.children inner) ≠ []) :
    (store.add node child).Full := by
  intro other inner inside
  apply leaves_add_ne_nil
  by_cases same : other = node
  · subst same
    rw [children_add_self, Child.blocks_append, List.mem_append] at inside
    exact inside.elim (full other inner) (own inner)
  · rw [children_add_of_ne store child same] at inside
    exact full other inner inside

theorem Full.addLeaf (full : store.Full) (node : Nat) (token : Token) :
    (store.addLeaf node token).Full :=
  full.add node (.leaf token) (List.forall_mem_nil _)

/-- A node to which a forest is added has a token of its own if the forest starts with one. -/
theorem leaves_addForest_ne_nil {forest : List Node} (holds : store.Holds)
    (there : holder < store.created) (starts : ∃ token rest, forest = .leaf token :: rest) :
    Child.leaves ((store.addForest holder forest).children holder) ≠ [] := by
  obtain ⟨token, rest, rfl⟩ := starts
  have gains := addForest_gains (holds.addLeaf there token) there rest
  obtain ⟨more, grown, -⟩ := gains.grows.children holder
  rw [addForest, addNode, grown, Child.leaves_append]
  simp [addLeaf]

mutual

theorem addNode_full {store : Store} {holder : Nat} (holds : store.Holds) (full : store.Full) :
    (node : Node) → Headed node.walk → (store.addNode holder node).Full
  | .leaf token, _ => full.addLeaf holder token
  | .block _ children _ _, headed => by
    obtain ⟨starts, further⟩ := List.forall_mem_cons.mp headed
    have own := leaves_addForest_ne_nil holds.create (Nat.lt_succ_self store.created) starts
    exact (addForest_full holds.create full (Nat.lt_succ_self _) children further).add holder _
      (List.forall_mem_singleton.mpr own)

theorem addForest_full {store : Store} {holder : Nat} (holds : store.Holds) (full : store.Full)
    (there : holder < store.created) :
    (forest : List Node) → Headed (Forest.walk forest) → (store.addForest holder forest).Full
  | [], _ => full
  | node :: rest, headed =>
    have gains := addNode_gains holds there node
    have parts := List.forall_mem_append.mp headed
    addForest_full gains.holds (addNode_full holds full node parts.1)
      (Nat.lt_of_lt_of_le there gains.grows.created) rest parts.2

end

end Store

end BrightBlocks.Block
