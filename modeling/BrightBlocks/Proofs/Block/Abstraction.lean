import BrightBlocks.Proofs.Block.Likeness

/-!
# What shapes blocks

Of a token the recovery sees no more than its `abstraction`: its class, whether it is
white space that breaks the line, and the small form of a word. Two lists of tokens with
the same abstractions have the same blocks, and the leaf of any number stands in the same
place of both trees (`recover_congr_of_abstraction`). So it makes no difference how a word
is classified, what a literal or a comment says, which operator is used, how wide a gap is,
and where in its source a token stands.

The notices that are taken down carry offsets and are not compared.
-/

namespace BrightBlocks

namespace Token

/-- The classes of tokens that the structure of blocks tells apart. -/
inductive Class
  | word
  | comment
  | whitespace
  | dot
  | endOfInput
  | other
  deriving DecidableEq, Repr

/-- The class that tokens of a kind belong to. -/
def Kind.toClass : Kind → Class
  | .keyword | .typeKeyword | .builtinFunction | .identifier | .booleanLiteral => .word
  | .lineComment | .remComment => .comment
  | .whitespace => .whitespace
  | .dot => .dot
  | .endOfInput => .endOfInput
  | .stringLiteral | .numberLiteral | .operator | .leftParen | .rightParen | .leftBrace
  | .rightBrace | .leftBracket | .rightBracket | .comma | .colon | .badCharacter => .other

/-- What is known of a token when its kind, its text and its place are forgotten. -/
structure Abstraction where
  toClass : Class
  /-- Whether the token is white space with a line break in it. -/
  breaksLine : Bool
  /-- The small form of a word, nothing for any other token. -/
  word? : Option String
  deriving DecidableEq, Repr

/-- What is known of a token that is read against `source`. -/
def abstraction (source : Text) (token : Token) : Abstraction where
  toClass := token.kind.toClass
  breaksLine := token.breaksLine source
  word? := if token.kind.toClass = .word then some (smallWord (token.text source)) else none

end Token

/-! ## Numbered trees -/

mutual

/-- A node with numbers for its leaves, where as many leaves as `first` are in front of it. -/
def Node.numbered (first : Nat) : Node → Shape Nat
  | .leaf _ => .leaf first
  | .block kind children closed singleLine =>
    .block kind (Forest.numberedFrom first children) closed singleLine

/-- A forest with numbers for its leaves, the first of which gets the number `first`. -/
def Forest.numberedFrom (first : Nat) : List Node → List (Shape Nat)
  | [] => []
  | node :: rest => node.numbered first :: Forest.numberedFrom (first + node.leaves.length) rest

end

/-- The blocks of a forest, with the numbers of the leaves in place of the leaves. -/
def Forest.numbered (forest : List Node) : List (Shape Nat) :=
  Forest.numberedFrom 0 forest

/-- What is seen of a forest when all leaves look the same. -/
def Forest.bare (forest : List Node) : List (Shape Unit) :=
  Forest.shape (fun _ => some ()) forest

mutual

theorem Node.numbered_congr (first : Nat) :
    (left right : Node) → Forest.bare [left] = Forest.bare [right] →
      left.numbered first = right.numbered first ∧ left.leaves.length = right.leaves.length
  | .leaf token, .leaf token', _ => ⟨rfl, rfl⟩
  | .leaf token, .block .., same => by simp [Forest.bare, Forest.shape, Node.shape] at same
  | .block .., .leaf token, same => by simp [Forest.bare, Forest.shape, Node.shape] at same
  | .block kind children closed singleLine, .block kind' children' closed' singleLine', same => by
    simp only [Forest.bare, Forest.shape, Node.shape, List.append_nil, List.cons.injEq,
      Shape.block.injEq, and_true] at same
    obtain ⟨rfl, inner, rfl, rfl⟩ := same
    obtain ⟨numbers, count⟩ := Forest.numberedFrom_congr first children children' inner
    exact ⟨by rw [Node.numbered, Node.numbered, numbers], count⟩

/-- Forests that look the same have leaves with the same numbers in the same places. -/
theorem Forest.numberedFrom_congr (first : Nat) :
    (left right : List Node) → Forest.bare left = Forest.bare right →
      Forest.numberedFrom first left = Forest.numberedFrom first right ∧
        (Forest.leaves left).length = (Forest.leaves right).length
  | [], [], _ => ⟨rfl, rfl⟩
  | [], node :: rest, same => by
    cases node <;> simp [Forest.bare, Forest.shape, Node.shape] at same
  | node :: rest, [], same => by
    cases node <;> simp [Forest.bare, Forest.shape, Node.shape] at same
  | node :: rest, node' :: rest', same => by
    have single (node : Node) : (node.shape fun _ => some ()).length = 1 := by cases node <;> rfl
    obtain ⟨head, others⟩ := List.append_inj same ((single node).trans (single node').symm)
    obtain ⟨number, count⟩ := Node.numbered_congr first node node'
      (by simp [Forest.bare, Forest.shape, head])
    obtain ⟨numbers, counts⟩ :=
      Forest.numberedFrom_congr (first + node.leaves.length) rest rest' others
    constructor
    · rw [Forest.numberedFrom, Forest.numberedFrom, number, numbers, count]
    · rw [Forest.leaves, Forest.leaves, List.length_append, List.length_append, count, counts]

end

namespace Block

/-! ## What a token means -/

/-- What a token with a given abstraction means. -/
def Role.ofAbstraction (seen : Token.Abstraction) : Role :=
  match seen.toClass with
  | .word => .word (seen.word?.getD "")
  | .comment => .comment
  | .whitespace => if seen.breaksLine then .lineBreak else .gap
  | .dot => .dot
  | .endOfInput => .endOfInput
  | .other => .other

/-- What a token means is known from its abstraction. -/
theorem role_eq_ofAbstraction (source : Text) (token : Token) :
    role source token = .ofAbstraction (token.abstraction source) := by
  obtain ⟨kind, start, stop⟩ := token
  cases kind <;> rfl

/-- Which token ends the stream is known from the abstractions. -/
theorem map_abstraction_significantTokens (source : Text) (tokens : List Token) :
    (significantTokens tokens).map (Token.abstraction source) =
      (tokens.map (Token.abstraction source)).takeWhile (·.toClass ≠ .endOfInput) := by
  have ends (token : Token) : (decide (token.kind ≠ .endOfInput)) =
      decide ((token.abstraction source).toClass ≠ .endOfInput) := by
    obtain ⟨kind, start, stop⟩ := token
    cases kind <;> rfl
  rw [List.takeWhile_map, significantTokens]
  congr 2
  exact funext ends

/-! ## Trees of tokens with the same abstractions -/

section

variable {source source' : Text} {tokens tokens' : List Token}

/-- As many tokens are placed as leaves are in the tree. -/
theorem recover_consumed (source : Text) (limit : Nat) (tokens : List Token) :
    (recover source limit tokens).2.consumed =
      (Forest.leaves (recover source limit tokens).1.children).length := by
  have counted := (recover_moves source limit tokens).1.consumed
  rwa [Cursor.ofTokens, Nat.zero_add] at counted

/-- Tokens with the same abstractions end up in trees that look the same. -/
theorem bare_recover_congr (limit : Nat)
    (same : tokens.map (Token.abstraction source) = tokens'.map (Token.abstraction source')) :
    Forest.bare (recover source limit tokens).1.children =
      Forest.bare (recover source' limit tokens').1.children := by
  have known : (significantTokens tokens).map (Token.abstraction source) =
      (significantTokens tokens').map (Token.abstraction source') := by
    rw [map_abstraction_significantTokens, map_abstraction_significantTokens, same]
  have alike : ReadsAlike (fun _ => some ()) (fun _ => some ()) source source' [] []
      (significantTokens tokens) (significantTokens tokens') := by
    refine .of_map_eq known fun token token' equal => ⟨?_, rfl⟩
    rw [role_eq_ofAbstraction, role_eq_ofAbstraction, equal]
  have ended := (Machine.Alike.start.run limit alike).root
  rwa [run_start, run_start] at ended

/--
The tree of a list of tokens is known from the abstractions of the tokens, apart from the tokens in
it: two lists with the same abstractions have the same blocks, with their leaves in the same places,
and as many tokens are placed.
-/
theorem recover_congr_of_abstraction (limit : Nat)
    (same : tokens.map (Token.abstraction source) = tokens'.map (Token.abstraction source')) :
    Forest.numbered (recover source limit tokens).1.children =
        Forest.numbered (recover source' limit tokens').1.children ∧
      (recover source limit tokens).2.consumed = (recover source' limit tokens').2.consumed := by
  obtain ⟨numbers, count⟩ :=
    Forest.numberedFrom_congr 0 _ _ (bare_recover_congr limit same)
  refine ⟨numbers, ?_⟩
  rw [recover_consumed, recover_consumed, count]

end

/-- A loop against another source, with its words classified in another way. -/
theorem recover_congr_of_abstraction_in_loop :
    let source : Text := "for a=1\nnext".toList
    let tokens : List Token := [⟨.keyword, 0, 3⟩, ⟨.whitespace, 3, 4⟩, ⟨.identifier, 4, 5⟩,
      ⟨.operator, 5, 6⟩, ⟨.numberLiteral, 6, 7⟩, ⟨.whitespace, 7, 8⟩, ⟨.keyword, 8, 12⟩]
    let source' : Text := "FOR  A?\"b\"\n \nNEXT".toList
    let tokens' : List Token := [⟨.identifier, 0, 3⟩, ⟨.whitespace, 3, 5⟩, ⟨.keyword, 5, 6⟩,
      ⟨.badCharacter, 6, 7⟩, ⟨.stringLiteral, 7, 10⟩, ⟨.whitespace, 10, 13⟩,
      ⟨.builtinFunction, 13, 17⟩]
    tokens.map (Token.abstraction source) = tokens'.map (Token.abstraction source') ∧
      Forest.numbered (recover source 7 tokens).1.children =
        Forest.numbered (recover source' 7 tokens').1.children ∧
      (recover source 7 tokens).2.consumed = (recover source' 7 tokens').2.consumed := by
  intro source tokens source' tokens'
  have same : tokens.map (Token.abstraction source) = tokens'.map (Token.abstraction source') := by
    decide +kernel
  exact ⟨same, recover_congr_of_abstraction 7 same⟩

end Block

end BrightBlocks
