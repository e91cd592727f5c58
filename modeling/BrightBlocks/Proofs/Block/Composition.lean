import BrightBlocks.Proofs.Block.Likeness
import BrightBlocks.Proofs.Block.Neighbours

/-!
# Sources one behind the other

Where a source ends at the end of a line and all its blocks are closed, a second
source behind it is parsed as if it stood alone, only at other offsets
(`parse_append`). No token is cut otherwise, nothing is looked for across the end
of a line, and with no block open the machine stands where it stands at the start
of a file.

A block that is left open would take the second source in.
-/

namespace BrightBlocks

mutual

/-- A node whose tokens stand `offset` characters later. -/
def Node.shift (offset : Nat) : Node → Node
  | .leaf token => .leaf (token.shift offset)
  | .block kind children closed singleLine =>
    .block kind (Forest.shift offset children) closed singleLine

/-- A forest whose tokens stand `offset` characters later. -/
def Forest.shift (offset : Nat) : List Node → List Node
  | [] => []
  | node :: rest => node.shift offset :: Forest.shift offset rest

end

/-! ## Forests that look the same -/

mutual

theorem Node.shape_shift {α : Type} (view : Token → Option α) (offset : Nat) :
    (node : Node) → (node.shift offset).shape view = node.shape fun token =>
      view (token.shift offset)
  | .leaf token => rfl
  | .block kind children closed singleLine => by
    simp only [Node.shift, Node.shape, Forest.shape_shift view offset children]

/-- A forest at another place looks as if its tokens were seen there. -/
theorem Forest.shape_shift {α : Type} (view : Token → Option α) (offset : Nat) :
    (forest : List Node) → Forest.shape view (Forest.shift offset forest) =
      Forest.shape (fun token => view (token.shift offset)) forest
  | [] => rfl
  | node :: rest => by
    simp only [Forest.shift, Forest.shape, Node.shape_shift view offset node,
      Forest.shape_shift view offset rest]

end

mutual

theorem Node.eq_of_shape_eq :
    (left right : Node) → left.shape some = right.shape some → left = right
  | .leaf token, .leaf token', same => by simpa [Node.shape] using same
  | .leaf token, .block .., same => by simp [Node.shape] at same
  | .block .., .leaf token, same => by simp [Node.shape] at same
  | .block kind children closed singleLine, .block kind' children' closed' singleLine', same => by
    simp only [Node.shape, List.cons.injEq, Shape.block.injEq, and_true] at same
    obtain ⟨rfl, inner, rfl, rfl⟩ := same
    rw [Forest.eq_of_shape_eq children children' inner]

/-- Forests that look the same when every token is seen in full are the same. -/
theorem Forest.eq_of_shape_eq :
    (left right : List Node) → Forest.shape some left = Forest.shape some right → left = right
  | [], [], _ => rfl
  | [], node :: rest, same => by cases node <;> simp [Forest.shape, Node.shape] at same
  | node :: rest, [], same => by cases node <;> simp [Forest.shape, Node.shape] at same
  | node :: rest, node' :: rest', same => by
    have single (node : Node) : (node.shape some).length = 1 := by cases node <;> rfl
    obtain ⟨first, others⟩ := List.append_inj same ((single node).trans (single node').symm)
    rw [Node.eq_of_shape_eq node node' first, Forest.eq_of_shape_eq rest rest' others]

end

namespace Block

open Token (Piece)

/-- A token breaks the line where it is white space with a line break in it. -/
theorem role_eq_lineBreak_iff {source : Text} {token : Token} :
    role source token = .lineBreak ↔ token.breaksLine source = true := by
  obtain ⟨kind, start, stop⟩ := token
  cases kind <;> simp [role, Token.breaksLine, Token.Kind.isWord, Token.Kind.isComment]

theorem kind_of_breaksLine {source : Text} {token : Token}
    (breaks : token.breaksLine source = true) : token.kind = .whitespace := by
  unfold Token.breaksLine at breaks
  simpa using (Bool.and_eq_true_iff.mp breaks).1

section

variable (first second : Text)

/-- What the tokens of the first text mean does not change with what is behind them. -/
theorem role_of_first {token : Token} (member : token ∈ Token.tokensFrom 0 first) :
    role (first ++ second) token = role first token := by
  have stands : first <+: (first ++ second).drop 0 := List.prefix_append first second
  have same :=
    (Token.map_piece_tokensFrom stands).trans (Token.map_piece_tokensFrom_zero first).symm
  rw [role_eq_role_piece, role_eq_role_piece, List.map_inj_left.mp same token member]

end

/-- What the tokens of a part of a text mean does not change with what is around the part. -/
theorem role_of_stretch (front text back : Text) {token : Token}
    (member : token ∈ Token.tokensFrom 0 text) :
    role (front ++ (text ++ back)) (token.shift front.length) = role text token := by
  have stands : text <+: (front ++ (text ++ back)).drop front.length := by simp
  have later := Token.tokensFrom_shift front.length 0 text
  rw [Nat.zero_add] at later
  have same := (Token.map_piece_tokensFrom stands).trans
    (Token.map_piece_tokensFrom_zero text).symm
  rw [later, List.map_map] at same
  rw [role_eq_role_piece, role_eq_role_piece]
  exact congrArg Piece.role (List.map_inj_left.mp same token member)

/-- What the tokens of the second text mean does not change with what is in front of them. -/
theorem role_of_second (first second : Text) {token : Token}
    (member : token ∈ Token.tokensFrom 0 second) :
    role (first ++ second) (token.shift first.length) = role second token := by
  have same := role_of_stretch first second [] member
  rwa [List.append_nil] at same

/-- The machine stands as at the start of a file: in the file, at the start of a line. -/
structure Machine.Fresh (machine : Machine) : Prop where
  stage : machine.stage = .body
  stack : machine.stack = []
  previous : machine.previous = none

/-- A machine that stands as at the start of a file goes on as from there. -/
theorem Machine.Fresh.alike {machine : Machine} (fresh : machine.Fresh) {α : Type}
    (view view' : Token → Option α) :
    Alike view view' (Forest.shape view machine.root) machine .start where
  stage := fresh.stage
  stack := by rw [fresh.stack]; exact .nil
  root := (List.append_nil _).symm
  previous := fresh.previous

/-- Behind a last line break, and with all blocks closed, the machine stands as at the start. -/
theorem fresh_of_closed {source : Text} {limit : Nat} {tokens : List Token}
    (ended : ∀ last ∈ tokens.getLast?, role source last = .lineBreak)
    (closed : ∀ block ∈ Forest.blocks (Machine.start.run source limit tokens).root,
      block.closed = true) :
    (Machine.start.feed source limit [] tokens).Fresh := by
  rw [Machine.run_eq_unwind] at closed
  have stack : (Machine.start.feed source limit [] tokens).stack = [] := by
    by_contra opened
    obtain ⟨block, member, still_open⟩ := Machine.exists_open_of_unwind opened
    rw [closed block member] at still_open
    contradiction
  refine ⟨?_, stack, ?_⟩
  · by_contra outside
    have anchored : Machine.start.Anchored := Machine.anchored_of_body rfl
    exact anchored.feed [] tokens outside stack
  · rcases List.eq_nil_or_concat tokens with rfl | ⟨front, last, rfl⟩
    · rfl
    · rw [List.concat_eq_append] at ended ⊢
      have meaning := ended last (List.getLast?_concat ..)
      rw [Machine.feed_append, Machine.feed, Machine.feed, Machine.previous_read, meaning]
      rfl

/-- The tokens of two sources, one behind the other, are those of both, the second ones later. -/
theorem tokensFrom_zero_append {first second : Text}
    (ended : ∀ last ∈ (Token.tokensFrom 0 first).getLast?, last.kind = .whitespace)
    (fresh : ∀ char ∈ second.head?, Text.isBlank char = false) :
    Token.tokensFrom 0 (first ++ second) = Token.tokensFrom 0 first ++
      (Token.tokensFrom 0 second).map (Token.shift first.length) := by
  have white : ∀ last ∈ (Token.pieces first).getLast?, last.kind = .whitespace := by
    rw [← Token.map_piece_tokensFrom_zero, List.getLast?_map]
    intro last found
    obtain ⟨token, member, rfl⟩ := Option.map_eq_some_iff.mp found
    exact ended token member
  rw [Token.tokensFrom_append white fresh, ← Token.tokensFrom_shift]

/-- A parsed source ends where the source does. -/
theorem parse_length (source : Text) (limit : Nat) :
    (parse source limit).length = source.length := by
  show (recover source limit (Token.tokenize source)).1.length = source.length
  rw [recover_length, finishOf_tokenize]
  rfl

section

variable {first : Text} {limit : Nat}

/-- In front of a second source the machine stands as at the start, with the first one placed. -/
theorem fresh_between
    (ended : ∀ last ∈ (Token.tokensFrom 0 first).getLast?, role first last = .lineBreak)
    (closed : ∀ block ∈ Forest.blocks (parse first limit).children, block.closed = true)
    (second : Text) (behind : List Token) :
    let machine := Machine.start.feed (first ++ second) limit behind (Token.tokensFrom 0 first)
    machine.Fresh ∧ machine.root = (parse first limit).children := by
  rw [parse_children] at closed ⊢
  have stands := fresh_of_closed ended closed
  have reads : ReadsAlike some some (first ++ second) first behind [] (Token.tokensFrom 0 first)
      (Token.tokensFrom 0 first) := by
    refine .of_lineBreak (fun token member => role_of_first first second member) ?_ behind []
    intro last found
    rw [role_of_first first second (List.mem_of_getLast? found), ended last found]
  have alike := Machine.Alike.start.feed limit reads
  refine ⟨⟨?_, ?_, ?_⟩, ?_⟩
  · rw [alike.stage, stands.stage]
  · rw [alike.stack_eq_nil, stands.stack]
  · rw [alike.previous, stands.previous]
  · rw [Machine.run_eq_unwind, Machine.unwind_of_nothing_open stands.stack]
    exact Forest.eq_of_shape_eq _ _ alike.root

/--
Where a source ends with the end of a line, or is empty, and its blocks are all closed, a second
source behind it that does not start with white space is parsed on its own, at the offsets where it
stands.
-/
theorem parse_append {second : Text}
    (ended : ∀ last ∈ (significantTokens (Token.tokenize first)).getLast?,
      last.breaksLine first = true)
    (fresh : ∀ char ∈ second.head?, Text.isBlank char = false)
    (closed : ∀ block ∈ Forest.blocks (parse first limit).children, block.closed = true) :
    parse (first ++ second) limit =
      ⟨(parse first limit).children ++
          Forest.shift first.length (parse second limit).children,
        first.length + second.length⟩ := by
  rw [significantTokens_tokenize] at ended
  have breaks : ∀ last ∈ (Token.tokensFrom 0 first).getLast?, role first last = .lineBreak :=
    fun last found => role_eq_lineBreak_iff.mpr (ended last found)
  have white : ∀ last ∈ (Token.tokensFrom 0 first).getLast?, last.kind = .whitespace :=
    fun last found => kind_of_breaksLine (ended last found)
  let later := (Token.tokensFrom 0 second).map (Token.shift first.length)
  obtain ⟨stands, placed⟩ := fresh_between breaks closed second later
  have reads : ReadsAlike some (fun token => some (token.shift first.length)) (first ++ second)
      second [] [] later (Token.tokensFrom 0 second) := by
    apply ReadsAlike.of_forall₂
    rw [List.forall₂_map_left_iff, List.forall₂_same]
    exact fun token member => ⟨role_of_second first second member, rfl⟩
  have alike := (stands.alike some fun token => some (token.shift first.length)).run limit reads
  have children : (parse (first ++ second) limit).children = (parse first limit).children ++
      Forest.shift first.length (parse second limit).children := by
    rw [parse_children, tokensFrom_zero_append white fresh, Machine.run_append]
    apply Forest.eq_of_shape_eq
    rw [alike.root, placed, Forest.shape_append, Forest.shape_shift, parse_children second]
  have length : (parse (first ++ second) limit).length = first.length + second.length := by
    rw [parse_length, List.length_append, Int.natCast_add]
  exact congrArg₂ File.mk children length

/-- Behind a closed conditional a subroutine is parsed as it is on its own. -/
theorem parse_append_conditional :
    let first : Text := "if a\nend if\n".toList
    let second : Text := "sub f".toList
    ((∀ last ∈ (significantTokens (Token.tokenize first)).getLast?,
        last.breaksLine first = true) ∧
      (∀ char ∈ second.head?, Text.isBlank char = false) ∧
      ∀ block ∈ Forest.blocks (parse first 1).children, block.closed = true) ∧
    parse (first ++ second) 1 =
      ⟨(parse first 1).children ++ Forest.shift first.length (parse second 1).children,
        first.length + second.length⟩ := by
  intro first second
  have ended : ∀ last ∈ (significantTokens (Token.tokenize first)).getLast?,
      last.breaksLine first = true := by
    decide +kernel
  have fresh : ∀ char ∈ second.head?, Text.isBlank char = false := by
    intro char found
    obtain rfl : 's' = char := Option.some.inj found
    decide
  have closed : ∀ block ∈ Forest.blocks (parse first 1).children, block.closed = true := by
    decide +kernel
  exact ⟨⟨ended, fresh, closed⟩, parse_append ended fresh closed⟩

end

end Block

end BrightBlocks
