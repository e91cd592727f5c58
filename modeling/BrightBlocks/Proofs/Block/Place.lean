import BrightBlocks.Block.Tree

/-!
# Places in a tree

A place is where a node stands: behind the nodes in front of it in its block, and
inside the blocks around it. `Forest.sites` lists all nodes of a forest with their
places, every block before what is inside it. Its blocks are those of `walk`, its
leaves those of `leaves` (`filterMap_block?_sites`, `filterMap_leaf?_sites`), so a
statement about all sites is one about every block and every leaf of a tree,
each with everything on its left.

What stands on the right of a place is no part of it.
-/

namespace BrightBlocks

/-- A block around a place, with the nodes that stand in front of the block itself. -/
structure Level where
  kind : Block.Kind
  front : List Node
  deriving DecidableEq

/-- The left side of a place. -/
structure Place where
  /-- The nodes in front, in the innermost block around the place or in the file. -/
  front : List Node
  /-- The blocks around, the innermost first. -/
  around : List Level
  deriving DecidableEq

/-- The leaf that a node is, if it is one. -/
def Node.leaf? : Node → Option Token
  | .leaf token => some token
  | .block .. => none

namespace Place

/-- The place of the first node of a file. -/
def start : Place := ⟨[], []⟩

/-- The place behind further nodes. -/
def past (place : Place) (nodes : List Node) : Place :=
  { place with front := place.front ++ nodes }

/-- The place of the first node inside a block that stands at `place`. -/
def inside (place : Place) (kind : Block.Kind) : Place :=
  ⟨[], ⟨kind, place.front⟩ :: place.around⟩

/-- The kind of the innermost block around a place. -/
def kind? (place : Place) : Option Block.Kind :=
  place.around.head?.map (·.kind)

/-- All tokens in front of the blocks around a place, from left to right. -/
def tokensAround : List Level → List Token
  | [] => []
  | level :: outer => tokensAround outer ++ Forest.leaves level.front

/-- All tokens in front of a place, from left to right. -/
def before (place : Place) : List Token :=
  tokensAround place.around ++ Forest.leaves place.front

@[simp]
theorem before_start : start.before = [] := rfl

@[simp]
theorem before_past (place : Place) (nodes : List Node) :
    (place.past nodes).before = place.before ++ Forest.leaves nodes := by
  simp [before, past]

@[simp]
theorem before_inside (place : Place) (kind : Block.Kind) :
    (place.inside kind).before = place.before := by
  simp [before, inside, tokensAround, Forest.leaves]

@[simp]
theorem past_nil (place : Place) : place.past [] = place := by
  simp [past]

@[simp]
theorem past_past (place : Place) (front back : List Node) :
    (place.past front).past back = place.past (front ++ back) := by
  simp [past]

end Place

/-- A node of a tree, with its place. -/
structure Site where
  place : Place
  node : Node
  deriving DecidableEq

mutual

/-- A node that stands at a place, and all nodes inside it. -/
def Node.sites (place : Place) : Node → List Site
  | .leaf token => [⟨place, .leaf token⟩]
  | .block kind children closed singleLine =>
    ⟨place, .block kind children closed singleLine⟩ ::
      Forest.sites (place.inside kind) children

/-- All nodes of a forest that starts at a place, every block before the nodes inside it. -/
def Forest.sites (place : Place) : List Node → List Site
  | [] => []
  | node :: rest => node.sites place ++ Forest.sites (place.past [node]) rest

end

namespace Forest

@[simp]
theorem sites_append (place : Place) (left right : List Node) :
    sites place (left ++ right) = sites place left ++ sites (place.past left) right := by
  induction left generalizing place with
  | nil => simp [sites]
  | cons node rest inductionHypothesis => simp [sites, inductionHypothesis]

@[simp]
theorem sites_nil (place : Place) : sites place [] = [] := rfl

@[simp]
theorem sites_leaf_cons (place : Place) (token : Token) (rest : List Node) :
    sites place (.leaf token :: rest) =
      ⟨place, .leaf token⟩ :: sites (place.past [.leaf token]) rest := by
  simp [sites, Node.sites]

end Forest

/-! ## The blocks and the leaves among the sites -/

mutual

theorem Node.filterMap_block?_sites (place : Place) :
    (node : Node) → (node.sites place).filterMap (·.node.block?) = node.walk
  | .leaf _ => rfl
  | .block kind children closed singleLine => by
    rw [Node.sites, List.filterMap_cons, Node.walk, Forest.filterMap_block?_sites _ children]
    rfl

/-- The blocks among the sites of a forest are those that walking it meets, in the same order. -/
theorem Forest.filterMap_block?_sites (place : Place) :
    (forest : List Node) → (Forest.sites place forest).filterMap (·.node.block?) =
      Forest.walk forest
  | [] => rfl
  | node :: rest => by
    simp [Forest.sites, Forest.walk, Node.filterMap_block?_sites _ node,
      Forest.filterMap_block?_sites _ rest]

end

mutual

theorem Node.filterMap_leaf?_sites (place : Place) :
    (node : Node) → (node.sites place).filterMap (·.node.leaf?) = node.leaves
  | .leaf _ => rfl
  | .block kind children closed singleLine => by
    rw [Node.sites, List.filterMap_cons, Node.leaves, Forest.filterMap_leaf?_sites _ children]
    rfl

/-- The leaves among the sites of a forest are its tokens, in the same order. -/
theorem Forest.filterMap_leaf?_sites (place : Place) :
    (forest : List Node) → (Forest.sites place forest).filterMap (·.node.leaf?) =
      Forest.leaves forest
  | [] => rfl
  | node :: rest => by
    simp [Forest.sites, Forest.leaves, Node.filterMap_leaf?_sites _ node,
      Forest.filterMap_leaf?_sites _ rest]

end

/-! ## What stands on both sides of a node -/

mutual

theorem Node.split_of_mem_sites {site : Site} {place : Place} :
    (node : Node) → site ∈ node.sites place →
      ∃ behind, place.before ++ node.leaves = site.place.before ++ site.node.leaves ++ behind
  | .leaf token, member => by
    obtain rfl := List.mem_singleton.mp member
    exact ⟨[], by simp⟩
  | .block kind children closed singleLine, member => by
    rcases List.mem_cons.mp member with rfl | member
    · exact ⟨[], by simp⟩
    · simpa [Node.leaves] using Forest.split_of_mem_sites children member

/-- The tokens in front of a node, its own and those behind it are all tokens up to the end. -/
theorem Forest.split_of_mem_sites {site : Site} {place : Place} :
    (forest : List Node) → site ∈ Forest.sites place forest →
      ∃ behind, place.before ++ Forest.leaves forest =
        site.place.before ++ site.node.leaves ++ behind
  | [], member => nomatch member
  | node :: rest, member => by
    rcases List.mem_append.mp member with member | member
    · obtain ⟨behind, split⟩ := Node.split_of_mem_sites node member
      exact ⟨behind ++ Forest.leaves rest, by simp [Forest.leaves, ← List.append_assoc, split]⟩
    · obtain ⟨behind, split⟩ := Forest.split_of_mem_sites rest member
      exact ⟨behind, by simpa [Forest.leaves, Node.leaves] using split⟩

end

/-! ## The blocks around a node -/

mutual

theorem Node.around_suffix_of_mem_sites {site : Site} {place : Place} :
    (node : Node) → site ∈ node.sites place → place.around <:+ site.place.around
  | .leaf token, member => by
    obtain rfl := List.mem_singleton.mp member
    exact List.suffix_rfl
  | .block kind children closed singleLine, member => by
    rcases List.mem_cons.mp member with rfl | member
    · exact List.suffix_rfl
    · exact (List.suffix_cons _ _).trans (Forest.around_suffix_of_mem_sites children member)

/-- Around every node of a forest are the blocks that are around the forest. -/
theorem Forest.around_suffix_of_mem_sites {site : Site} {place : Place} :
    (forest : List Node) → site ∈ Forest.sites place forest → place.around <:+ site.place.around
  | [], member => nomatch member
  | node :: rest, member => by
    rcases List.mem_append.mp member with member | member
    · exact Node.around_suffix_of_mem_sites node member
    · exact @Forest.around_suffix_of_mem_sites site (place.past [node]) rest member

end

mutual

theorem Node.block_of_around {site : Site} {place : Place} {level : Level} {outer : List Level}
    (around : level :: outer <:+ site.place.around) (within : place.around.length ≤ outer.length) :
    (node : Node) → site ∈ node.sites place → ∃ children closed singleLine,
      ⟨⟨level.front, outer⟩, .block level.kind children closed singleLine⟩ ∈ node.sites place
  | .leaf token, member => by
    obtain rfl := List.mem_singleton.mp member
    have deeper : outer.length + 1 ≤ place.around.length := around.length_le
    omega
  | .block kind children closed singleLine, member => by
    rcases List.mem_cons.mp member with rfl | member
    · have deeper : outer.length + 1 ≤ place.around.length := around.length_le
      omega
    have inside := Forest.around_suffix_of_mem_sites children member
    by_cases further : place.around.length + 1 ≤ outer.length
    · obtain ⟨inner, closed', singleLine', found⟩ :=
        @Forest.block_of_around site (place.inside kind) _ _ around further children member
      exact ⟨inner, closed', singleLine', List.mem_cons_of_mem _ found⟩
    · -- the block itself is the one that is asked for
      have length : (level :: outer).length = (place.inside kind).around.length := by
        show outer.length + 1 = place.around.length + 1
        omega
      have same :=
        (List.suffix_of_suffix_length_le around inside (Nat.le_of_eq length)).eq_of_length length
      obtain ⟨rfl, rfl⟩ := List.cons.inj same
      exact ⟨children, closed, singleLine, List.mem_cons_self⟩

/-- Around a node of a forest are blocks of the forest, apart from those around the forest. -/
theorem Forest.block_of_around {site : Site} {place : Place} {level : Level} {outer : List Level}
    (around : level :: outer <:+ site.place.around) (within : place.around.length ≤ outer.length) :
    (forest : List Node) → site ∈ Forest.sites place forest → ∃ children closed singleLine,
      ⟨⟨level.front, outer⟩, .block level.kind children closed singleLine⟩ ∈
        Forest.sites place forest
  | [], member => nomatch member
  | node :: rest, member => by
    rcases List.mem_append.mp member with member | member
    · obtain ⟨children, closed, singleLine, found⟩ := Node.block_of_around around within node member
      exact ⟨children, closed, singleLine, List.mem_append_left _ found⟩
    · obtain ⟨children, closed, singleLine, found⟩ :=
        @Forest.block_of_around site (place.past [node]) _ _ around within rest member
      exact ⟨children, closed, singleLine, List.mem_append_right _ found⟩

end

end BrightBlocks
