import Mathlib.Logic.Function.Basic
import BrightBlocks.Block.Tree

/-!
# Nodes under construction

Whoever drives the recovery by hand may add to any node at any time, also to a block that
stands inside another node. So nodes are numbered here, and what stands in a node is a token
or the number of another node. A `Store` keeps the children of every node, and the tokens
that were placed so far in the order in which they were, each with the node that holds it.
`Store.Holds` ties the two together.

The flags of a node are left out, as is its kind.
-/

namespace BrightBlocks.Block

/-- What stands in a node under construction: a token, or another node by its number. -/
inductive Child
  | leaf (token : Token)
  | block (node : Nat)
  deriving DecidableEq, Repr

namespace Child

def leaf? : Child → Option Token
  | .leaf token => some token
  | .block _ => none

def block? : Child → Option Nat
  | .leaf _ => none
  | .block node => some node

/-- The tokens that stand in a node themselves, not in a block inside. -/
def leaves (children : List Child) : List Token :=
  children.filterMap leaf?

/-- The numbers of the blocks that stand in a node themselves. -/
def blocks (children : List Child) : List Nat :=
  children.filterMap block?

@[simp]
theorem leaves_append (left right : List Child) :
    leaves (left ++ right) = leaves left ++ leaves right :=
  List.filterMap_append

@[simp]
theorem blocks_append (left right : List Child) :
    blocks (left ++ right) = blocks left ++ blocks right :=
  List.filterMap_append

@[simp]
theorem leaves_leaf (token : Token) : leaves [.leaf token] = [token] :=
  rfl

@[simp]
theorem leaves_block (node : Nat) : leaves [.block node] = [] :=
  rfl

@[simp]
theorem leaves_map_leaf (tokens : List Token) : leaves (tokens.map .leaf) = tokens := by
  induction tokens with
  | nil => rfl
  | cons token rest inductionHypothesis => exact congrArg (token :: ·) inductionHypothesis

/-- Children without a block among them are their leaves. -/
theorem eq_map_leaves {children : List Child} (flat : blocks children = []) :
    children = (leaves children).map .leaf := by
  induction children with
  | nil => rfl
  | cons child rest inductionHypothesis =>
    cases child with
    | leaf token => exact congrArg (Child.leaf token :: ·) (inductionHypothesis flat)
    | block node => exact absurd flat (List.cons_ne_nil _ _)

end Child

/-- A token that has been placed, and the node in which it stands. -/
structure Placed where
  token : Token
  holder : Nat
  deriving DecidableEq, Repr

namespace Placed

/-- The tokens that stand in a node, among those that were placed. -/
def heldBy (node : Nat) (placed : List Placed) : List Token :=
  (placed.filter (·.holder = node)).map (·.token)

@[simp]
theorem heldBy_append (node : Nat) (left right : List Placed) :
    heldBy node (left ++ right) = heldBy node left ++ heldBy node right := by
  simp [heldBy]

theorem heldBy_eq_nil {node : Nat} {placed : List Placed}
    (elsewhere : ∀ entry ∈ placed, entry.holder ≠ node) : heldBy node placed = [] := by
  simpa [heldBy] using elsewhere

theorem heldBy_eq_map {node : Nat} {placed : List Placed}
    (held : ∀ entry ∈ placed, entry.holder = node) :
    heldBy node placed = placed.map (·.token) := by
  rw [heldBy, List.filter_eq_self.mpr (by simpa using held)]

end Placed

/-- Nodes under construction, and the tokens that were placed in them. -/
structure Store where
  /-- How many nodes there are. They are numbered from zero. -/
  created : Nat
  children : Nat → List Child
  /-- The tokens that were placed and not taken back, in order. -/
  placed : List Placed

namespace Store

/-- No nodes. -/
def empty : Store :=
  ⟨0, fun _ => [], []⟩

/-- Another node, with nothing in it. -/
def create (store : Store) : Store :=
  { store with created := store.created + 1 }

/-- Adds a child to a node. -/
def add (store : Store) (node : Nat) (child : Child) : Store :=
  { store with
    children := Function.update store.children node (store.children node ++ [child]) }

/-- Places a token in a node. -/
def addLeaf (store : Store) (node : Nat) (token : Token) : Store :=
  { store.add node (.leaf token) with placed := store.placed ++ [⟨token, node⟩] }

mutual

/-- Adds a part of a tree to a node. The blocks in it become nodes of their own. -/
def addNode (store : Store) (holder : Nat) : Node → Store
  | .leaf token => store.addLeaf holder token
  | .block _ children _ _ =>
    (store.create.addForest store.created children).add holder (.block store.created)

/-- Adds parts of a tree to a node, one after the other. -/
def addForest (store : Store) (holder : Nat) : List Node → Store
  | [] => store
  | node :: rest => (store.addNode holder node).addForest holder rest

end

/-- Takes back all but the first children of a node and the first tokens that were placed. -/
def cut (store : Store) (node size count : Nat) : Store :=
  { store with
    children := Function.update store.children node ((store.children node).take size)
    placed := store.placed.take count }

/-- The tokens that were placed, in order. -/
def tokens (store : Store) : List Token :=
  store.placed.map (·.token)

@[simp]
theorem created_add (store : Store) (node : Nat) (child : Child) :
    (store.add node child).created = store.created := rfl

@[simp]
theorem placed_add (store : Store) (node : Nat) (child : Child) :
    (store.add node child).placed = store.placed := rfl

@[simp]
theorem children_add_self (store : Store) (node : Nat) (child : Child) :
    (store.add node child).children node = store.children node ++ [child] :=
  Function.update_self ..

@[simp]
theorem children_add_of_ne {node other : Nat} (store : Store) (child : Child)
    (elsewhere : other ≠ node) : (store.add node child).children other = store.children other :=
  Function.update_of_ne elsewhere ..

@[simp]
theorem children_cut_self (store : Store) (node size count : Nat) :
    (store.cut node size count).children node = (store.children node).take size :=
  Function.update_self ..

@[simp]
theorem children_cut_of_ne {node other : Nat} (store : Store) (size count : Nat)
    (elsewhere : other ≠ node) :
    (store.cut node size count).children other = store.children other :=
  Function.update_of_ne elsewhere ..

theorem tokens_addLeaf (store : Store) (node : Nat) (token : Token) :
    (store.addLeaf node token).tokens = store.tokens ++ [token] := by
  simp [tokens, addLeaf]

/-! ## The account of a store -/

/-- Every node holds the tokens that were placed in it, in order. -/
structure Holds (store : Store) : Prop where
  leaves : ∀ node, Child.leaves (store.children node) = Placed.heldBy node store.placed
  exist : ∀ entry ∈ store.placed, entry.holder < store.created

variable {store before middle after : Store} {node holder inner : Nat}

theorem Holds.empty : Holds empty where
  leaves _ := rfl
  exist := List.forall_mem_nil _

theorem Holds.create (holds : store.Holds) : store.create.Holds where
  leaves := holds.leaves
  exist entry placed := Nat.lt_succ_of_lt (holds.exist entry placed)

theorem Holds.addBlock (holds : store.Holds) (node inner : Nat) :
    (store.add node (.block inner)).Holds where
  leaves other := by
    by_cases same : other = node
    · subst same
      simpa using holds.leaves other
    · simpa [same] using holds.leaves other
  exist := holds.exist

theorem Holds.addLeaf (holds : store.Holds) (there : node < store.created) (token : Token) :
    (store.addLeaf node token).Holds where
  leaves other := by
    by_cases same : other = node
    · subst same
      simp [Store.addLeaf, holds.leaves other, Placed.heldBy]
    · have elsewhere : node ≠ other := fun equal => same equal.symm
      simp [Store.addLeaf, same, holds.leaves other, Placed.heldBy, elsewhere]
  exist := by
    simp only [Store.addLeaf, created_add, List.forall_mem_append, List.forall_mem_singleton]
    exact ⟨holds.exist, there⟩

end Store

end BrightBlocks.Block
