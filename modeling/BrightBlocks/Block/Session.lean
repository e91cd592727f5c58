import BrightBlocks.Block.Body

/-!
# Recovery step by step

A session applies single steps of the recovery to one cursor, in any order. It
keeps the children of a root, to which steps add what they have placed, and the
places that were marked on the way. Blocks are counted as placed once the step
that reads them has ended.

Coming back to a place returns what the root has got since, child by child. A
block among it is returned as one piece, which is no token of the stream.
-/

namespace BrightBlocks.Block

/-- A place to come back to: how much the root held, and where the cursor was. -/
structure Mark where
  size : Nat
  checkpoint : Cursor.Checkpoint
  deriving DecidableEq, Repr

/-- The state between two steps. -/
structure Session where
  source : Text
  limit : Nat
  cursor : Cursor
  /-- The children of the root so far. -/
  root : List Node
  /-- The marked places, the first one in front. -/
  marks : List Mark

/-- A single step of the recovery. -/
inductive Step
  | current
  /-- Looks ahead, or back from the end of the buffer when the offset is negative. -/
  | peek (offset : Int)
  | advance
  | mark
  /-- Returns to a marked place, counted from the last one when the index is negative. -/
  | rollBack (index : Int)
  | word
  | structuralWord
  | nextOnLine
  /-- Fails when no more has been placed than `before` tokens. -/
  | checkProgress (before : Int) (place : Text)
  | statement
  | file
  | block (kind : Kind)
  | header (kind : Kind)
  | condition (kind : Kind)
  | body (kind : Kind)
  | branch (kind : Kind)
  | closeWithEnd (kind : Kind)

/-- What a step answers. -/
inductive Answer
  | token (token : Token)
  | mark (mark : Mark)
  | word (word : Option String)
  | done
  | file (file : File)
  | block (block : Block)
  /-- A block that a step has placed leaves in, and whether the step closed it. -/
  | piece (closed : Option Bool) (block : Block)

/-- Less progress than was asked for: the place that noticed, and the token it stands at. -/
structure NoProgress where
  place : Text
  token : Token
  deriving DecidableEq, Repr

/-- The words for missing progress. -/
def NoProgress.message (fault : NoProgress) : Text :=
  "No progress in ".toList ++ fault.place ++ " at offset ".toList ++
    Text.ofInt fault.token.start ++ " (".toList ++ fault.token.kind.name.toList ++ ")".toList

/-- Why a step fails. -/
inductive Step.Fault
  | noProgress (fault : NoProgress)
  | outsideBuffer
  | unknownMark
  deriving DecidableEq, Repr

/-- The element at an index, counted from the end when the index is negative. -/
def fromEitherEnd? (items : List α) (index : Int) : Option α :=
  let position := if index < 0 then items.length + index else index
  if position < 0 then none else items[position.toNat]?

namespace Session

/-- A session over a list of tokens. -/
def ofTokens (source : Text) (limit : Nat) (tokens : List Token) : Session :=
  ⟨source, limit, Cursor.ofTokens tokens, [], []⟩

/-- Moves the cursor and adds children to the root. -/
def place (session : Session) (nodes : List Node) (cursor : Cursor) : Session :=
  { session with cursor := cursor, root := session.root ++ nodes }

/--
What stands in the stream for a child that is returned to it. A token stands for itself. A block
is met again as one piece that has no word and ends no line, so a token of this sort stands for
it, over the range of the block.
-/
def returned : Node → Token
  | .leaf token => token
  | .block _ children _ _ => ⟨.badCharacter, Forest.start children, Forest.stop children⟩

/-- Returns to a marked place: what the root has got since goes back to the stream. -/
def rollBack (session : Session) (mark : Mark) : Session :=
  { session with
    cursor := session.cursor.putBack mark.checkpoint
      ((session.root.drop mark.size).map returned)
    root := session.root.take mark.size }

/-- Adds a block to the root and answers it. -/
def placeBlock (session : Session) (closed : Option Bool) (block : Block) (cursor : Cursor) :
    Except Step.Fault Answer × Session :=
  (.ok (.piece closed block), session.place [block.node] cursor)

/-- Adds a block of leaves to the root and answers it. -/
def placeHeader (session : Session) (kind : Kind) (header : Header) :
    Except Step.Fault Answer × Session :=
  session.placeBlock none ⟨kind, leafNodes header.leaves, false, header.singleLine⟩ header.cursor

/-- Applies a step. A step that fails places nothing. -/
def run (session : Session) : Step → Except Step.Fault Answer × Session
  | .current =>
    let (token, cursor) := session.cursor.current
    (.ok (.token token), { session with cursor })
  | .peek offset =>
    if offset < 0 then
      match fromEitherEnd? session.cursor.buffer offset with
      | some token => (.ok (.token token), session)
      | none => (.error .outsideBuffer, session)
    else
      let (token, cursor) := session.cursor.peek offset.toNat
      (.ok (.token token), { session with cursor })
  | .advance =>
    let (token, _) := session.cursor.current
    let (leaves, cursor) := session.cursor.take session.source
    (.ok (.token token), session.place (leafNodes leaves) cursor)
  | .mark =>
    let mark : Mark := ⟨session.root.length, session.cursor.checkpoint⟩
    (.ok (.mark mark), { session with marks := session.marks ++ [mark] })
  | .rollBack index =>
    match fromEitherEnd? session.marks index with
    | some mark => (.ok .done, session.rollBack mark)
    | none => (.error .unknownMark, session)
  | .word =>
    let (token, cursor) := session.cursor.current
    (.ok (.word (role session.source token).word?), { session with cursor })
  | .structuralWord =>
    let (word, cursor) := session.cursor.structuralWord session.source
    (.ok (.word word), { session with cursor })
  | .nextOnLine =>
    let (token, cursor) := session.cursor.nextOnLine session.source
    (.ok (.token token), { session with cursor })
  | .checkProgress before place =>
    if session.cursor.consumed = before then
      let (token, cursor) := session.cursor.current
      (.error (.noProgress ⟨place, token⟩), { session with cursor })
    else
      (.ok .done, session)
  | .statement =>
    let (word, cursor) := session.cursor.structuralWord session.source
    let (nodes, after) := Block.statement session.source session.limit word cursor
    (.ok .done, session.place nodes after)
  | .file =>
    let (file, cursor) := Block.file session.source session.limit session.cursor
    (.ok (.file file), { session with cursor })
  | .block kind =>
    let (block, cursor) := Block.block session.source session.limit kind session.cursor
    (.ok (.block block), session.place [block.node] cursor)
  | .header kind =>
    session.placeHeader kind (Block.header session.source kind .opening session.cursor)
  | .condition kind =>
    session.placeHeader kind (Block.header session.source kind .condition session.cursor)
  | .body kind =>
    let body := Block.body session.source session.limit kind session.cursor
    session.placeBlock none ⟨kind, body.children, body.closed, false⟩ body.cursor
  | .branch kind =>
    let (word, cursor) := session.cursor.structuralWord session.source
    session.placeHeader kind (Block.branch session.source kind word cursor)
  | .closeWithEnd kind =>
    let (leaves, cursor) := Block.closeWithEnd session.source kind session.cursor
    session.placeBlock (some leaves.isSome) ⟨kind, leafNodes (leaves.getD []), false, false⟩ cursor

/-- How many children the root has. -/
def size (session : Session) : Nat :=
  session.root.length

end Session

end BrightBlocks.Block
