import BrightBlocks.Proofs.Block.Calls

/-!
# The blocks of the tree are answers of calls

The tree has its blocks where the calls are: each one is the answer of a call of
`Call.block` at its place (`block_called`).
-/

namespace BrightBlocks.Block

section

variable {source : Text} {limit : Nat} {tokens : List Token} {call : Call} {place : Place}
  {cursor : Cursor}

/-- A block of the tree is the answer of a call at its place. -/
def Answered (source : Text) (limit : Nat) (tokens : List Token) (site : Site) : Prop :=
  ∀ found : Block, site.node = found.node → ∃ cursor,
    Called source limit tokens (.block found.kind) site.place cursor ∧
      (block source limit found.kind cursor).1 = found

theorem node_injective : Function.Injective Block.node := by
  rintro ⟨kind, children, closed, singleLine⟩ ⟨kind', children', closed', singleLine'⟩ same
  obtain ⟨rfl, rfl, rfl, rfl⟩ := Node.block.inj same
  rfl

theorem answered_of_leafNodes (place : Place) (leaves : List Token) :
    ∀ site ∈ Forest.sites place (leafNodes leaves), Answered source limit tokens site := by
  induction leaves generalizing place with
  | nil => exact List.forall_mem_nil _
  | cons token rest inductionHypothesis =>
    rw [leafNodes, List.map_cons, Forest.sites_leaf_cons, List.forall_mem_cons]
    refine ⟨?_, inductionHypothesis _⟩
    rintro block ⟨⟩

/-- What a statement places is answered, if that is so of the body that it may read. -/
theorem answered_of_statement {word : Option String} {after : Cursor} {token : Token}
    (called : Called source limit tokens (.statement word) place cursor)
    (taken : cursor.advance? source = some (token, after))
    (bodies : ∀ {kind : Kind} {place : Place} {next : Cursor},
      next.ahead.length < cursor.ahead.length → Called source limit tokens (.body kind) place next →
        ∀ site ∈ Forest.sites place (body source limit kind next).children,
          Answered source limit tokens site) :
    ∀ site ∈ Forest.sites place (statement source limit word cursor).1,
      Answered source limit tokens site := by
  have leaf : ∀ site ∈ Forest.sites place [.leaf token], Answered source limit tokens site :=
    answered_of_leafNodes place [token]
  cases opens : word.bind Kind.ofOpener? with
  | none =>
    rw [statement_of_not_opener opens, Cursor.take_eq taken]
    exact leaf
  | some kind =>
    obtain ⟨small, rfl, opens⟩ := Option.bind_eq_some_iff.mp opens
    by_cases room : cursor.depth < limit
    · have opener := Cursor.take_enter_eq taken
      have blocked := called.block opens room
      have inner := blocked.bodyOfBlock opener
      have shorter : (header source kind .opening after.enter).cursor.ahead.length <
          cursor.ahead.length := by
        have within := header_ahead_le source kind .opening after.enter
        rw [Cursor.ahead_enter] at within
        rw [Cursor.ahead_of_advance? taken, List.length_cons]
        omega
      have node : (block source limit kind cursor).1.node = .block kind
          (leafNodes ([token] ++ (header source kind .opening after.enter).leaves) ++
            (body source limit kind (header source kind .opening after.enter).cursor).children)
          (body source limit kind (header source kind .opening after.enter).cursor).closed
          (header source kind .opening after.enter).singleLine := by
        simp only [block, opener, Block.node]
      have itself : Answered source limit tokens
          ⟨place, (block source limit kind cursor).1.node⟩ := by
        intro found same
        obtain rfl := node_injective same
        exact ⟨cursor, blocked, rfl⟩
      rw [node] at itself
      rw [statement_of_opener opens room, Forest.sites, Forest.sites_nil, List.append_nil, node,
        Node.sites, List.forall_mem_cons, Forest.sites_append, List.forall_mem_append]
      exact ⟨itself, answered_of_leafNodes _ _, bodies shorter inner⟩
    · rw [statement_of_full opens room taken]
      exact leaf

/-- All that a body places is answered. -/
theorem answered_of_body {kind : Kind}
    (called : Called source limit tokens (.body kind) place cursor) :
    ∀ site ∈ Forest.sites place (body source limit kind cursor).children,
      Answered source limit tokens site := by
  induction size : cursor.ahead.length using Nat.strongRecOn generalizing kind place cursor with
  | ind size inductionHypothesis =>
    subst size
    have bodies {kind : Kind} {place : Place} {next : Cursor}
        (shorter : next.ahead.length < cursor.ahead.length)
        (called : Called source limit tokens (.body kind) place next) :
        ∀ site ∈ Forest.sites place (body source limit kind next).children,
          Answered source limit tokens site :=
      inductionHypothesis _ shorter called rfl
    rw [body_eq]
    cases taken : cursor.advance? source with
    | none => exact List.forall_mem_nil _
    | some pair =>
      obtain ⟨token, after⟩ := pair
      have some_ahead : cursor.ahead ≠ [] := by
        rw [Cursor.ahead_of_advance? taken]
        exact List.cons_ne_nil _ _
      have statement_first {word : Option String}
          (found : (role source token).structural cursor.previous = word)
          (stays : (turn kind word).isStatement = true) :
          ∀ site ∈ Forest.sites place ((body source limit kind
            (statement source limit word cursor).2).prepend
              (statement source limit word cursor).1).children,
            Answered source limit tokens site := by
        rw [Body.prepend, Forest.sites_append, List.forall_mem_append]
        exact ⟨answered_of_statement (called.statementOfBody taken found stays) taken bodies,
          bodies (statement_ahead_lt some_ahead) (called.restOfBody taken found stays rfl)⟩
      dsimp only
      cases found : turn kind ((role source token).structural cursor.previous) with
      | branch word =>
        dsimp only
        rw [Body.prepend, Forest.sites_append, List.forall_mem_append]
        exact ⟨answered_of_leafNodes _ _,
          bodies (branch_ahead_lt taken) (called.bodyOfBranch taken found)⟩
      | tryEnd => exact answered_of_leafNodes _ _
      | close => exact answered_of_leafNodes _ [token]
      | defer word => exact List.forall_mem_nil _
      | nest word inner => exact statement_first rfl (by rw [found]; rfl)
      | plain => exact statement_first rfl (by rw [found]; rfl)

/-- All that is placed in the file is answered. -/
theorem answered_of_file (called : Called source limit tokens .file place cursor) :
    ∀ site ∈ Forest.sites place (forest source limit cursor).1,
      Answered source limit tokens site := by
  induction size : cursor.ahead.length using Nat.strongRecOn generalizing place cursor with
  | ind size inductionHypothesis =>
    subst size
    rw [forest]
    split
    · exact List.forall_mem_nil _
    rename_i more
    cases taken : cursor.advance? source with
    | none => exact absurd (Cursor.advance?_eq_none_iff.mp taken) more
    | some pair =>
      obtain ⟨token, after⟩ := pair
      have looked : (cursor.structuralWord source).2 = cursor.fill 1 := by
        rw [structuralWord_eq taken]
      have same : (cursor.structuralWord source).2.ahead = cursor.ahead := by
        rw [looked, Cursor.ahead_fill]
      have drawn : (cursor.structuralWord source).2.advance? source = some (token, after) := by
        rw [looked, Cursor.advance?_fill, taken]
      have shorter := @statement_ahead_lt source limit (cursor.structuralWord source).1 _
        (same.symm ▸ more)
      rw [same] at shorter
      dsimp only
      rw [Forest.sites_append, List.forall_mem_append]
      exact ⟨answered_of_statement (called.statementOfFile more) drawn
          fun _ called => answered_of_body called,
        inductionHypothesis _ shorter (called.restOfFile more rfl) rfl⟩

/-- Every block of the tree is the answer of a call that was made where the block stands. -/
theorem block_called (source : Text) (limit : Nat) (tokens : List Token) :
    ∀ site ∈ Forest.sites .start (recover source limit tokens).1.children,
      Answered source limit tokens site :=
  answered_of_file .file

end

end BrightBlocks.Block
