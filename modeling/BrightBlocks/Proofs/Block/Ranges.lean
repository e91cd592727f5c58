import BrightBlocks.Outline.Declaration
import BrightBlocks.Outline.Fold
import BrightBlocks.Proofs.Block.Conservation
import BrightBlocks.Proofs.Block.Headed

/-!
# Ranges of blocks

A block has no range of its own: where it starts and stops is read off its leaves. Since the
leaves of a parsed source tile the source, and every block starts with a leaf, the ranges
nest like the blocks do. `Tiled.nested` says that a block starts later than the blocks
around it and stops no later, `Tiled.pairwise` that any other two blocks lie one behind the
other; `parse_ranges_laminar` puts this together for a source.

What is shown of a source block by block, such as its folds and its declarations, is
therefore in the order of its offsets.
-/

namespace BrightBlocks

/-! ## Blocks inside a forest -/

mutual

theorem Node.leaves_infix_of_mem_walk {block : Block} :
    (node : Node) → block ∈ node.walk → Forest.leaves block.children <:+: node.leaves
  | .leaf _, member => absurd member List.not_mem_nil
  | .block kind children closed singleLine, member => by
    rcases List.mem_cons.mp member with rfl | inside
    · exact List.infix_rfl
    · exact Forest.leaves_infix_of_mem_walk children inside

/-- The leaves of a block are consecutive leaves of any forest that it is in. -/
theorem Forest.leaves_infix_of_mem_walk {block : Block} :
    (forest : List Node) → block ∈ Forest.walk forest →
      Forest.leaves block.children <:+: Forest.leaves forest
  | [], member => absurd member List.not_mem_nil
  | node :: rest, member => by
    rcases List.mem_append.mp member with first | later
    · exact (Node.leaves_infix_of_mem_walk node first).trans (List.prefix_append _ _).isInfix
    · exact (Forest.leaves_infix_of_mem_walk rest later).trans (List.suffix_append _ _).isInfix

end

mutual

theorem Node.walk_children_subset {outer : Block} :
    (node : Node) → outer ∈ node.walk → Forest.walk outer.children ⊆ node.walk
  | .leaf _, member => absurd member List.not_mem_nil
  | .block kind children closed singleLine, member => by
    rcases List.mem_cons.mp member with rfl | inside
    · exact List.subset_cons_self _ _
    · exact List.Subset.trans (Forest.walk_children_subset children inside)
        (List.subset_cons_self _ _)

/-- What is inside a block of a forest is inside the forest. -/
theorem Forest.walk_children_subset {outer : Block} :
    (forest : List Node) → outer ∈ Forest.walk forest →
      Forest.walk outer.children ⊆ Forest.walk forest
  | [], member => absurd member List.not_mem_nil
  | node :: rest, member => by
    rcases List.mem_append.mp member with first | later
    · exact List.Subset.trans (Node.walk_children_subset node first)
        (List.subset_append_left _ _)
    · exact List.Subset.trans (Forest.walk_children_subset rest later)
        (List.subset_append_right _ _)

end

namespace Block

open Token (Tiles)

/-- The ends of a block are those of what its leaves tile. -/
theorem ends_of_tiles {block : Block} {start stop : Int}
    (tiles : Token.Tiles start stop (Forest.leaves block.children)) (wide : start < stop) :
    block.start = start ∧ block.stop = stop := by
  have nonempty : Forest.leaves block.children ≠ [] := by
    intro empty
    rw [empty] at tiles
    cases tiles
    exact absurd wide (Int.lt_irrefl start)
  obtain ⟨first, rest, leading⟩ := List.exists_cons_of_ne_nil nonempty
  have trailing := List.getLast?_eq_some_getLast nonempty
  constructor
  · rw [Block.start, Forest.start, leading]
    exact tiles.start_of_head? first (by rw [leading]; rfl)
  · rw [Block.stop, Forest.stop, trailing]
    exact tiles.stop_of_getLast? _ trailing

/-! ## Tiled forests -/

/-- A forest whose leaves tile a range, and whose blocks start with a leaf. -/
structure Tiled (start stop : Int) (forest : List Node) : Prop where
  tiles : Tiles start stop (Forest.leaves forest)
  headed : Headed (Forest.walk forest)

/-- Two blocks have an offset in common. -/
def Overlap (left right : Block) : Prop :=
  left.start < right.stop ∧ right.start < left.stop

namespace Tiled

variable {start stop : Int} {forest : List Node} {block outer inner : Block}

/-- What is behind the token that leads a tiled forest. -/
theorem behind_leaf {token : Token} {rest : List Node}
    (tiled : Tiled start stop (.leaf token :: rest)) :
    start < token.stop ∧ Tiled token.stop stop rest := by
  obtain ⟨tiles, headed⟩ := tiled
  rw [leaves_leaf_cons] at tiles
  cases tiles with
  | cons starts nonempty significant more => exact ⟨nonempty, more, headed⟩

/-- A block of a tiled forest is tiled itself, and its range lies within that of the forest. -/
theorem of_mem_walk (tiled : Tiled start stop forest) (member : block ∈ Forest.walk forest) :
    start ≤ block.start ∧ block.start < block.stop ∧ block.stop ≤ stop ∧
      Tiled block.start block.stop block.children := by
  obtain ⟨first, last, lower, tiles, upper⟩ :=
    tiled.tiles.exists_of_infix (Forest.leaves_infix_of_mem_walk forest member)
  have own : Tiled first last block.children :=
    ⟨tiles, fun inner inside =>
      tiled.headed inner (Forest.walk_children_subset forest member inside)⟩
  obtain ⟨token, rest, children⟩ := tiled.headed block member
  have wide : first < last := by
    rw [children] at own
    obtain ⟨opens, behind⟩ := own.behind_leaf
    exact Int.lt_of_lt_of_le opens behind.tiles.start_le_stop
  obtain ⟨starts, stops⟩ := ends_of_tiles tiles wide
  rw [starts, stops]
  exact ⟨lower, wide, upper, own⟩

/-- A block inside another one starts behind the token that opened the other, and stops with it. -/
theorem nested (tiled : Tiled start stop forest) (member : outer ∈ Forest.walk forest)
    (inside : inner ∈ Forest.walk outer.children) :
    outer.start < inner.start ∧ inner.stop ≤ outer.stop := by
  obtain ⟨token, rest, children⟩ := tiled.headed outer member
  obtain ⟨-, -, -, own⟩ := tiled.of_mem_walk member
  rw [children] at own inside
  obtain ⟨opens, behind⟩ := own.behind_leaf
  obtain ⟨lower, -, upper, -⟩ := behind.of_mem_walk inside
  exact ⟨Int.lt_of_lt_of_le opens lower, upper⟩

/-- The children of a node in a tiled forest. -/
theorem children {kind : Kind} {closed singleLine : Bool} {within : List Node}
    (tiled : Tiled start stop [.block kind within closed singleLine]) :
    Tiled start stop within where
  tiles := by simpa [Forest.leaves, Node.leaves] using tiled.tiles
  headed := fun block member => tiled.headed block (by simp [Forest.walk, Node.walk, member])

/-- A tiled forest is parted into tiled forests. -/
theorem exists_middle {front back : List Node} (tiled : Tiled start stop (front ++ back)) :
    ∃ middle, Tiled start middle front ∧ Tiled middle stop back := by
  obtain ⟨tiles, headed⟩ := tiled
  rw [Forest.leaves_append] at tiles
  rw [Forest.walk_append] at headed
  obtain ⟨middle, first, second⟩ := tiles.exists_middle
  obtain ⟨headed_front, headed_back⟩ := List.forall_mem_append.mp headed
  exact ⟨middle, ⟨first, headed_front⟩, ⟨second, headed_back⟩⟩

end Tiled

/-! ## Any two blocks -/

/-- How a block lies to one before it in a walk: inside it behind its first token, or behind it. -/
def Nests (earlier later : Block) : Prop :=
  (later ∈ Forest.walk earlier.children ∧ earlier.start < later.start ∧
    later.stop ≤ earlier.stop) ∨ earlier.stop ≤ later.start

mutual

theorem Tiled.pairwise_node {start stop : Int} :
    (node : Node) → Tiled start stop [node] → node.walk.Pairwise Nests
  | .leaf _, _ => .nil
  | .block kind within closed singleLine, tiled => by
    refine List.pairwise_cons.mpr ⟨fun inner inside => .inl ⟨inside, ?_⟩, ?_⟩
    · exact tiled.nested (List.mem_append_left _ List.mem_cons_self) inside
    · exact Tiled.pairwise within tiled.children

/-- Of two blocks of a tiled forest the later one is inside the earlier one or behind it. -/
theorem Tiled.pairwise {start stop : Int} :
    (forest : List Node) → Tiled start stop forest → (Forest.walk forest).Pairwise Nests
  | [], _ => .nil
  | node :: rest, tiled => by
    obtain ⟨middle, first, second⟩ := @Tiled.exists_middle start stop [node] rest tiled
    refine List.pairwise_append.mpr
      ⟨Tiled.pairwise_node node first, Tiled.pairwise rest second, ?_⟩
    intro earlier here later there
    obtain ⟨-, -, upper, -⟩ := first.of_mem_walk (List.mem_append_left _ here)
    obtain ⟨lower, -, -, -⟩ := second.of_mem_walk there
    exact .inr (Int.le_trans upper lower)

end

section Nests

variable {start stop : Int} {forest : List Node} {earlier later : Block}

/-- A block that comes later starts later. -/
theorem Nests.start_lt (nests : Nests earlier later) (wide : earlier.start < earlier.stop) :
    earlier.start < later.start := by
  rcases nests with ⟨-, behind, -⟩ | behind
  · exact behind
  · exact Int.lt_of_lt_of_le wide behind

/-- Blocks that have an offset in common are nested. -/
theorem Nests.mem_of_overlap (nests : Nests earlier later) (overlap : Overlap earlier later) :
    later ∈ Forest.walk earlier.children := by
  rcases nests with ⟨inside, -⟩ | behind
  · exact inside
  · exact absurd overlap.2 (Int.not_lt.mpr behind)

/-- A later block stops with an earlier one, or starts behind it. -/
theorem Nests.stop_le (nests : Nests earlier later) :
    later.stop ≤ earlier.stop ∨ earlier.stop ≤ later.start :=
  nests.imp_left (·.2.2)

/-- The blocks of a tiled forest start one behind the other. -/
theorem Tiled.starts_increase (tiled : Tiled start stop forest) :
    (Forest.walk forest).Pairwise (·.start < ·.start) := by
  refine (Tiled.pairwise forest tiled).imp_of_mem ?_
  intro earlier later here there nests
  obtain ⟨-, wide, -, -⟩ := tiled.of_mem_walk here
  exact nests.start_lt wide

end Nests

/-! ## The blocks of a source -/

/-- The forest of a source is tiled from one end of the source to the other. -/
theorem parse_tiled (source : Text) (limit : Nat) :
    Tiled 0 source.length (parse source limit).children where
  tiles := by
    rw [parse_leaves]
    simpa using Token.tokensFrom_tiles 0 source
  headed := (forest_reads source limit (Cursor.ofTokens (Token.tokenize source))).headed

/-- The folds of a source are in the order of its offsets, and no two of them overlap in part. -/
theorem foldRegions_pairwise (source : Text) (limit : Nat) :
    (Outline.foldRegions (parse source limit).children source).Pairwise fun earlier later =>
      earlier.start < later.start ∧ (later.stop ≤ earlier.stop ∨ earlier.stop ≤ later.start) := by
  have tiled := parse_tiled source limit
  have ordered := tiled.starts_increase.and ((Tiled.pairwise _ tiled).imp Nests.stop_le)
  rw [Outline.foldRegions, List.pairwise_map]
  exact ordered.filter _

/-- A declaration has the range of its block. -/
theorem start_of_mem_declaration? {source : Text} {path : Option Text} {block : Block}
    {declaration : Outline.Declaration}
    (declared : declaration ∈ Outline.declaration? source path block) :
    declaration.start = block.start := by
  unfold Outline.declaration? at declared
  split at declared
  · obtain ⟨name, -, rfl⟩ := Option.map_eq_some_iff.mp declared
    rfl
  · exact absurd declared nofun

/-- The declarations of a source are in the order of its offsets. -/
theorem declarations_pairwise (source : Text) (limit : Nat) (path : Option Text) :
    (Outline.declarations (parse source limit).children source path).Pairwise
      (·.start < ·.start) := by
  rw [Outline.declarations, List.pairwise_filterMap]
  refine (parse_tiled source limit).starts_increase.imp ?_
  intro earlier later before first declared second declaredToo
  rw [start_of_mem_declaration? declared, start_of_mem_declaration? declaredToo]
  exact before

/-- What starts one behind the other has no duplicates. -/
theorem nodup_of_starts {Entry : Type} {entries : List Entry} {start : Entry → Int}
    (ordered : entries.Pairwise (start · < start ·)) : entries.Nodup :=
  ordered.imp fun before same => absurd (same ▸ before) (Int.lt_irrefl _)

/--
The ranges of a source's blocks form a laminar family in the order of the source. Every block has
a range of its own inside the source that its consecutive tokens spell, later blocks of the walk
start later, and two blocks overlap only where one is inside the other. So the folds and the
declarations are in order and without duplicates, and folds never overlap in part.
-/
theorem parse_ranges_laminar (source : Text) (limit : Nat) :
    let forest := (parse source limit).children
    let blocks := Forest.walk forest
    let folds := Outline.foldRegions forest source
    (∀ block ∈ blocks,
      0 ≤ block.start ∧ block.start < block.stop ∧ block.stop ≤ source.length ∧
      Forest.leaves block.children <:+: Token.tokenize source ∧
      Forest.text block.children source = block.slice source) ∧
    blocks.Pairwise (·.start < ·.start) ∧
    (∀ outer ∈ blocks, ∀ inner ∈ Forest.walk outer.children,
      outer.start < inner.start ∧ inner.stop ≤ outer.stop) ∧
    blocks.Pairwise (fun earlier later =>
      Overlap earlier later → later ∈ Forest.walk earlier.children) ∧
    folds.Pairwise (fun earlier later =>
      earlier.start < later.start ∧ (later.stop ≤ earlier.stop ∨ earlier.stop ≤ later.start)) ∧
    folds.Nodup ∧
    ∀ path, (Outline.declarations forest source path).Pairwise (·.start < ·.start) ∧
      (Outline.declarations forest source path).Nodup := by
  intro forest blocks folds
  have tiled : Tiled 0 source.length forest := parse_tiled source limit
  have folded := foldRegions_pairwise source limit
  refine ⟨?_, tiled.starts_increase, fun outer member inner inside => tiled.nested member inside,
    (Tiled.pairwise forest tiled).imp Nests.mem_of_overlap, folded,
    nodup_of_starts (folded.imp And.left), ?_⟩
  · intro block member
    obtain ⟨lower, wide, upper, own⟩ := tiled.of_mem_walk member
    refine ⟨lower, wide, upper, ?_, own.tiles.text_eq_slice source lower⟩
    have part := Forest.leaves_infix_of_mem_walk forest member
    rw [parse_leaves] at part
    exact part.trans (List.prefix_append _ _).isInfix
  · intro path
    have declared := declarations_pairwise source limit path
    exact ⟨declared, nodup_of_starts declared⟩

end Block

end BrightBlocks
