import BrightBlocks.Command.Disk

/-!
# Stores

A store is a disk that is a plain value: places, named by the directories on the
way to them, with a file or a directory at each. One place is the home, from which
paths are walked that do not start with a slash; all others are walked from the
root, one name after the other. What has no entry does not exist.
-/

namespace BrightBlocks.Command

/-- The names on the way from the root to a place. -/
abbrev Place := List Text

/-- The place that a name leads to. What lies above the root is the root itself. -/
def Place.enter (place : Place) (name : Text) : Place :=
  if name = [] ∨ name = ['.'] then place
  else if name = ['.', '.'] then place.dropLast
  else place ++ [name]

/-- What stands at a place. -/
inductive Entry
  | file (content : List UInt8)
  | directory
  deriving DecidableEq, Repr

/-- A disk as a value. What lies on the way to the home or to an entry is a directory. -/
structure Store where
  home : Place
  entries : List (Place × Entry)
  deriving DecidableEq, Repr

namespace Store

/-- The most bytes that a name may have. -/
def maxNameBytes : Nat := 255

/-- The most bytes that a path may have. -/
def maxPathBytes : Nat := 4095

/-- The bytes that a text takes on the disk. -/
def byteLength (text : Text) : Nat :=
  (String.ofList text).utf8ByteSize

/-- Whether a place lies on the way to the home or to an entry. -/
def onTheWay (store : Store) (place : Place) : Bool :=
  place.isPrefixOf store.home ||
    store.entries.any fun (other, _) => place.isPrefixOf other && place ≠ other

/-- What stands at a place. -/
def entry? (store : Store) (place : Place) : Option Entry :=
  if store.onTheWay place then some .directory else store.entries.lookup place

/-- Puts an entry at a place, over the one that is there. -/
def put (store : Store) (place : Place) (entry : Entry) : Store :=
  { store with entries := (place, entry) :: store.entries.filter (·.1 ≠ place) }

/-- The names of a path, with an empty name where two slashes meet. -/
def names (path : Text) : List Text :=
  path.foldr
    (fun char names =>
      match char, names with
      | '/', names => [] :: names
      | char, name :: rest => (char :: name) :: rest
      | char, [] => [[char]])
    [[]]

/-- The place that a path means, whether or not the way to it exists. -/
def placeOf (store : Store) (path : Text) : Place :=
  (names path).foldl Place.enter store.home

/-- One step of a walk from a directory. -/
def step (directory : Place) (name : Text) : Except DiskCause Place :=
  if maxNameBytes < byteLength name then .error .nameTooLong else .ok (directory.enter name)

/-- Walks all but the last of the names, and answers the directory reached and the last name. -/
def walk (store : Store) (directory : Place) : List Text → Except DiskCause (Place × Text)
  | [] => .ok (directory, [])
  | [last] => .ok (directory, last)
  | name :: rest => do
    let next ← step directory name
    match store.entry? next with
    | some .directory => walk store next rest
    | some (.file _) => .error .notADirectory
    | none => .error .missing

/-- Whether a path asks for a directory by a slash at its end. -/
def asksForDirectory (path : Text) : Bool :=
  Text.endsWith path ['/']

/-- A path without the slashes at its end. -/
def withoutSlashes (path : Text) : Text :=
  (path.reverse.dropWhile (· = '/')).reverse

/-- The directory in which a path ends, and the name that it ends with. -/
def locate (store : Store) (path : Text) : Except DiskCause (Place × Text) :=
  if '\x00' ∈ path then .error .nullInPath
  else if path = [] then .error .missing
  else if maxPathBytes < byteLength path then .error .nameTooLong
  else
    walk store (if Text.startsWith path ['/'] then [] else store.home)
      (names (withoutSlashes path))

/-- The content of the file at a path. -/
def contentAt (store : Store) (path : Text) : Except DiskCause (List UInt8) := do
  let (directory, last) ← locate store path
  match store.entry? (← step directory last) with
  | none => .error .missing
  | some .directory => .error .isADirectory
  | some (.file content) => if asksForDirectory path then .error .notADirectory else .ok content

/--
Where a file can be written at a path. A path that asks for a directory is refused
before its last name is looked at.
-/
def writable (store : Store) (path : Text) : Except DiskCause Place := do
  let (directory, last) ← locate store path
  if asksForDirectory path then .error .isADirectory
  else
    let place ← step directory last
    if store.entry? place = some .directory then .error .isADirectory else .ok place

/-- Reads a file of a store. -/
def read (store : Store) (path : Text) : Except DiskFault (List UInt8) :=
  (contentAt store path).mapError (⟨·, path⟩)

/-- Writes a file of a store. A write that fails changes nothing. -/
def write (store : Store) (path : Text) (content : List UInt8) : Except DiskFault Unit × Store :=
  match writable store path with
  | .ok place => (.ok (), store.put place (.file content))
  | .error cause => (.error ⟨cause, path⟩, store)

/-- A store as a disk. -/
def disk : Disk (StateM Store) where
  read path := fun store => (read store path, store)
  write path content := fun store => write store path content

end Store

end BrightBlocks.Command
