import BrightBlocks.Proofs.Report.Listing

/-!
# Outlines can be read back

An outline has no offsets of leaves, and shows nesting by nothing but margins.
`outline` says what its lines show: a level each, and a leaf with its text or a
block with its range and flags. A line shows nothing else and nothing less
(`Line.render_inj`), though a text may look like anything, also like the line of
a block.

The levels put the lines together again: what is nested in a block are the lines
behind its own up to the next that stands no further in. So forests over the
same leaves with equal outlines are equal (`eq_of_outline_eq`). That the leaves
are the same is not seen from the outline alone; it shows only their texts.
-/

namespace BrightBlocks

/-- What holds of a forest when it holds inside and behind its first node holds of all forests. -/
@[elab_as_elim]
theorem Forest.induction {motive : List Node → Prop} (nil : motive [])
    (leaf : ∀ token rest, motive rest → motive (.leaf token :: rest))
    (block : ∀ kind children closed singleLine rest, motive children → motive rest →
      motive (.block kind children closed singleLine :: rest)) :
    (forest : List Node) → motive forest
  | [] => nil
  | .leaf token :: rest => leaf token rest (Forest.induction nil leaf block rest)
  | .block kind children closed singleLine :: rest =>
    block kind children closed singleLine rest (Forest.induction nil leaf block children)
      (Forest.induction nil leaf block rest)

namespace Report

/-- What a line of an outline shows. -/
inductive Entry
  | leaf (kind : Token.Kind) (text : Text)
  | block (kind : Block.Kind) (start stop : Int) (closed singleLine : Bool)

/-- What a line of an outline shows, and where. -/
structure Line where
  level : Nat
  entry : Entry

mutual

/-- What the lines of a node show that stands at `level`. -/
def nodeOutline (source : Text) (level : Nat) : Node → List Line
  | .leaf token => [⟨level, .leaf token.kind (token.text source)⟩]
  | .block kind children closed singleLine =>
    ⟨level, .block kind (Forest.start children) (Forest.stop children) closed singleLine⟩ ::
      outline source (level + 1) children

/-- What the lines of a forest show that stands at `level`. -/
def outline (source : Text) (level : Nat) : List Node → List Line
  | [] => []
  | node :: rest => nodeOutline source level node ++ outline source level rest

end

/-! ## Lines -/

/-- The remarks behind the range of a block. -/
def remarks (closed singleLine : Bool) : Text :=
  (if closed then [] else " (unclosed)".toList) ++
    (if singleLine then " (single-line)".toList else [])

/-- The text of a line behind its margin. -/
def Entry.render : Entry → Text
  | .leaf kind text => kind.name.toList ++ ([' '] ++ Text.quoted text)
  | .block kind start stop closed singleLine =>
    kind.name.toList ++ (rangeText start stop ++ remarks closed singleLine)

/-- The text of a line. -/
def Line.render (line : Line) : Text :=
  List.replicate (2 * line.level) ' ' ++ line.entry.render

theorem blockLine_eq (level : Nat) (block : Block) :
    blockLine level block = Line.render
      ⟨level, .block block.kind block.start block.stop block.closed block.singleLine⟩ := by
  simp only [blockLine, Line.render, Entry.render, remarks, margin, Int.toNat_natCast,
    List.append_assoc]

theorem leafLine_eq (source : Text) (level : Nat) (token : Token) :
    leafLine source level token =
      Line.render ⟨level + 1, .leaf token.kind (token.text source)⟩ := by
  have margins : margin level ++ "  ".toList = List.replicate (2 * (level + 1)) ' ' := by
    rw [margin, Int.toNat_natCast, Nat.mul_add, List.replicate_add]
    rfl
  rw [leafLine, margins, Line.render, Entry.render, List.append_assoc, List.append_assoc]

mutual

theorem nodeLines_eq (source : Text) (level : Nat) :
    (node : Node) → nodeLines source level node =
      (nodeOutline source (level + 1) node).map Line.render
  | .leaf token => congrArg ([·]) (leafLine_eq source level token)
  | .block kind children closed singleLine => by
    rw [nodeLines, nodeOutline, List.map_cons]
    exact congrArg₂ List.cons (blockLine_eq (level + 1) _)
      (forestLines_eq source (level + 1) children)

/-- The lines of an outline are made from what they show. -/
theorem forestLines_eq (source : Text) (level : Nat) :
    (forest : List Node) → forestLines source level forest =
      (outline source (level + 1) forest).map Line.render
  | [] => rfl
  | node :: rest => by
    rw [forestLines, outline, List.map_append, nodeLines_eq source level node,
      forestLines_eq source level rest]

end

theorem remarks_inj {closed singleLine closed' singleLine' : Bool}
    (same : remarks closed singleLine = remarks closed' singleLine') :
    closed = closed' ∧ singleLine = singleLine' := by
  revert closed singleLine closed' singleLine'
  decide

/-- Behind the name, a blank and a quote of a leaf are no blank and bracket of a block. -/
theorem quoted_ne_rangeText (text rest : Text) (start stop : Int) :
    [' '] ++ Text.quoted text ≠ rangeText start stop ++ rest := by
  intro same
  have quote : Text.quoteFor text = '[' := (List.cons.inj (List.cons.inj same).2).1
  rcases Text.isQuote_quoteFor text with single | double
  · exact absurd (single.symm.trans quote) (by decide)
  · exact absurd (double.symm.trans quote) (by decide)

/-- No two entries are written alike. -/
theorem Entry.render_inj {first second : Entry} (same : first.render = second.render) :
    first = second := by
  have blank (rest : Text) : Text.Stops isNameChar ([' '] ++ rest) := .cons rfl _
  have range := stops_rangeText
  cases first with
  | leaf kind text =>
    cases second with
    | leaf kind' text' =>
      obtain ⟨names, texts⟩ := Text.eq_of_sort kind.isName_name kind'.isName_name (blank _)
        (blank _) same
      rw [Token.Kind.name_inj names, Text.quoted_inj (List.append_cancel_left texts)]
    | block kind' start stop closed singleLine =>
      obtain ⟨-, behind⟩ := Text.eq_of_sort kind.isName_name kind'.isName_name (blank _)
        (range _ _ _) same
      exact absurd behind (quoted_ne_rangeText _ _ _ _)
  | block kind start stop closed singleLine =>
    cases second with
    | leaf kind' text =>
      obtain ⟨-, behind⟩ := Text.eq_of_sort kind.isName_name kind'.isName_name (range _ _ _)
        (blank _) same
      exact absurd behind.symm (quoted_ne_rangeText _ _ _ _)
    | block kind' start' stop' closed' singleLine' =>
      obtain ⟨names, behind⟩ := Text.eq_of_sort kind.isName_name kind'.isName_name (range _ _ _)
        (range _ _ _) same
      obtain ⟨rfl, rfl, flags⟩ := rangeText_inj behind
      obtain ⟨rfl, rfl⟩ := remarks_inj flags
      rw [Block.Kind.name_inj names]

/-- Whether a character is a blank of a margin. -/
def isMargin (char : Char) : Bool :=
  char = ' '

theorem stops_name {name : Text} (isName : IsName name) (filled : name ≠ []) (rest : Text) :
    Text.Stops isMargin (name ++ rest) := by
  cases name with
  | nil => exact absurd rfl filled
  | cons char name =>
    have letter : ' ' ∉ char :: name := isName.notMem (by decide)
    have other : char ≠ ' ' := fun blank => letter (blank ▸ List.mem_cons_self)
    exact .cons (decide_eq_false other) _

/-- The margin ends where the name of a kind starts. -/
theorem Entry.stops_render (entry : Entry) : Text.Stops isMargin entry.render := by
  cases entry with
  | leaf kind text => exact stops_name kind.isName_name (by cases kind <;> decide) _
  | block kind start stop closed singleLine =>
    exact stops_name kind.isName_name (by cases kind <;> decide) _

/-- No two lines are written alike. -/
theorem Line.render_inj {first second : Line} (same : first.render = second.render) :
    first = second := by
  have blanks (count : Nat) : ∀ char ∈ List.replicate count ' ', isMargin char = true :=
    fun char member => decide_eq_true (List.eq_of_mem_replicate member)
  obtain ⟨margins, entries⟩ := Text.eq_of_sort (blanks _) (blanks _) first.entry.stops_render
    second.entry.stops_render same
  obtain ⟨level, entry⟩ := first
  obtain ⟨level', entry'⟩ := second
  have levels : 2 * level = 2 * level' := by simpa using congrArg List.length margins
  obtain rfl : level = level' := by omega
  exact congrArg (Line.mk level) (Entry.render_inj entries)

theorem newline_notMem_remarks (closed singleLine : Bool) : '\n' ∉ remarks closed singleLine := by
  cases closed <;> cases singleLine <;> decide

/-- A line is a single line. -/
theorem Line.newline_notMem_render (line : Line) : '\n' ∉ line.render := by
  obtain ⟨level, entry⟩ := line
  have name {name : Text} (isName : IsName name) : '\n' ∉ name := isName.notMem (by decide)
  cases entry with
  | leaf kind text =>
    simp [Line.render, Entry.render, name kind.isName_name, Text.newline_notMem_quoted]
  | block kind start stop closed singleLine =>
    simp [Line.render, Entry.render, name kind.isName_name, newline_notMem_rangeText,
      newline_notMem_remarks]

/-! ## Forests -/

/-- The texts that an outline shows. -/
def Entry.text : Entry → Text
  | .leaf _ text => text
  | .block .. => []

mutual

theorem nodeOutline_text (source : Text) (level : Nat) :
    (node : Node) → (nodeOutline source level node).flatMap (·.entry.text) =
      node.leaves.flatMap (·.text source)
  | .leaf token => by simp [nodeOutline, Node.leaves, Entry.text]
  | .block kind children closed singleLine => by
    rw [nodeOutline, List.flatMap_cons, outline_text source (level + 1) children]
    rfl

/-- The texts of the leaves all stand in the outline, and nothing else of the source does. -/
theorem outline_text (source : Text) (level : Nat) :
    (forest : List Node) → (outline source level forest).flatMap (·.entry.text) =
      Forest.text forest source
  | [] => rfl
  | node :: rest => by
    rw [outline, List.flatMap_append, nodeOutline_text source level node,
      outline_text source level rest, Forest.text, Forest.text, Forest.leaves, List.flatMap_append]

end

/-- Lines of which the first, if there is one, stands further out than `level`. -/
def Outside (level : Nat) (lines : List Line) : Prop :=
  ∀ line ∈ lines.head?, line.level < level

theorem Outside.nil (level : Nat) : Outside level [] :=
  nofun

/-- What is outside a forest is outside its nodes, and so are the other nodes. -/
theorem Outside.outline {source : Text} {level : Nat} {rest : List Line}
    (outside : Outside level rest) (forest : List Node) :
    Outside (level + 1) (outline source level forest ++ rest) := by
  cases forest with
  | nil => exact fun line found => Nat.lt_succ_of_lt (outside line found)
  | cons node forest =>
    intro line found
    cases node <;> (obtain rfl := Option.some.inj found; exact Nat.lt_succ_self _)

theorem Outside.ne_outline_cons {source : Text} {level : Nat} {node : Node} {forest : List Node}
    {rest rest' : List Line} (outside : Outside level rest) :
    rest ≠ Report.outline source level (node :: forest) ++ rest' := by
  rintro rfl
  cases node <;> exact absurd (outside _ rfl) (Nat.lt_irrefl level)

/--
Forests over the same leaves that have the same outline are the same, whatever lines and leaves
follow, as long as the lines stand further out.
-/
theorem eq_of_outline_append_eq {source source' : Text} {level : Nat} {forest forest' : List Node}
    {rest rest' : List Line} {behind behind' : List Token} (outside : Outside level rest)
    (outside' : Outside level rest')
    (lines : outline source level forest ++ rest = outline source' level forest' ++ rest')
    (tokens : Forest.leaves forest ++ behind = Forest.leaves forest' ++ behind') :
    forest = forest' ∧ rest = rest' ∧ behind = behind' := by
  induction forest using Forest.induction generalizing forest' level rest rest' behind behind' with
  | nil =>
    cases forest' with
    | nil => exact ⟨rfl, lines, tokens⟩
    | cons node' forest' => exact absurd lines outside.ne_outline_cons
  | leaf token forest further =>
    rcases forest' with _ | ⟨token' | _, forest'⟩
    · exact absurd lines.symm outside'.ne_outline_cons
    · simp only [Forest.leaves, Node.leaves, List.cons_append, List.nil_append, List.cons.injEq]
        at tokens
      obtain ⟨rfl, tokens⟩ := tokens
      obtain ⟨rfl, same⟩ := further outside outside' (List.cons.inj lines).2 tokens
      exact ⟨rfl, same⟩
    · exact absurd (List.cons.inj lines).1 nofun
  | block kind children closed singleLine forest within further =>
    rcases forest' with _ | ⟨_ | ⟨kind', children', closed', singleLine'⟩, forest'⟩
    · exact absurd lines.symm outside'.ne_outline_cons
    · exact absurd (List.cons.inj lines).1 nofun
    · simp only [outline, nodeOutline, List.cons_append, List.cons.injEq, List.append_assoc,
        Line.mk.injEq, Entry.block.injEq, true_and] at lines
      simp only [Forest.leaves, Node.leaves, List.append_assoc] at tokens
      obtain ⟨⟨rfl, -, -, rfl, rfl⟩, lines⟩ := lines
      -- the lines behind the block stand further out than those inside it
      obtain ⟨rfl, lines, tokens⟩ := within (outside.outline forest) (outside'.outline forest')
        lines tokens
      obtain ⟨rfl, same⟩ := further outside outside' lines tokens
      exact ⟨rfl, same⟩

/-- Over the same leaves, no two forests have the same outline. -/
theorem eq_of_outline_eq {source source' : Text} {level : Nat} {forest forest' : List Node}
    (lines : outline source level forest = outline source' level forest')
    (tokens : Forest.leaves forest = Forest.leaves forest') : forest = forest' :=
  (eq_of_outline_append_eq (Outside.nil level) (Outside.nil level)
    (congrArg (· ++ []) lines) (congrArg (· ++ []) tokens)).1

/-! ## Files -/

theorem rootLine_file (file : File) :
    rootLine 0 (.file file) = "FILE".toList ++ rangeText 0 file.length :=
  rfl

/-- The outline of a file shows its length and the outline of its children. -/
theorem dump_inj {source source' : Text} {file file' : File}
    (same : dump source 0 (.file file) = dump source' 0 (.file file')) :
    file.length = file'.length ∧
      outline source 1 file.children = outline source' 1 file'.children := by
  have single (source : Text) (file : File) :
      ∀ line ∈ rootLine 0 (.file file) :: forestLines source 0 file.children, '\n' ∉ line := by
    intro line member
    rcases List.mem_cons.mp member with rfl | below
    · simp [rootLine_file, newline_notMem_rangeText]
    · rw [show (0 : Int) = (0 : Nat) from rfl, forestLines_eq] at below
      obtain ⟨line, -, rfl⟩ := List.mem_map.mp below
      exact line.newline_notMem_render
  have lines := Text.joined_lines_inj (List.cons_ne_nil _ _) (List.cons_ne_nil _ _)
    (single source file) (single source' file') same
  obtain ⟨roots, below⟩ := List.cons.inj lines
  obtain ⟨-, lengths, -⟩ := rangeText_inj (congrArg (· ++ []) (List.append_cancel_left roots))
  have children : (outline source 1 file.children).map Line.render =
      (outline source' 1 file'.children).map Line.render := by
    rw [← forestLines_eq source 0, ← forestLines_eq source' 0]
    exact below
  exact ⟨lengths, List.map_injective_iff.mpr (fun _ _ => Line.render_inj) children⟩

end Report

end BrightBlocks
