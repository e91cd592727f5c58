import BrightBlocks.Command.Execution

/-!
# The command

The command works on the files of the machine, prints what the run leaves
behind, and ends with its exit code.
-/

namespace BrightBlocks

open Command

/-- The cause of a failure that the machine reports. -/
def diskCause : IO.Error → DiskCause
  | .noFileOrDirectory .. => .missing
  | .inappropriateType _ 20 _ => .notADirectory
  | .inappropriateType _ _ _ => .isADirectory
  | .permissionDenied _ code words => .other code.toNat words
  | .resourceExhausted _ code words => .other code.toNat words
  | .invalidArgument _ code words => .other code.toNat words
  | .otherError code words => .other code.toNat words
  | error => .other 5 error.toString

/-- The outcome of an action on a file. -/
def attempt (path : Text) (action : IO α) : IO (Except DiskFault α) := do
  match ← action.toBaseIO with
  | .ok value => return .ok value
  | .error error => return .error ⟨diskCause error, path⟩

/-- The files of the machine. -/
def machine : Disk IO where
  read path := attempt path do
    return (← IO.FS.readBinFile (String.ofList path)).toList
  write path content := attempt path do
    IO.FS.writeBinFile (String.ofList path) (ByteArray.mk content.toArray)

end BrightBlocks

/-- Runs the command with the arguments of the process. -/
def main (arguments : List String) : IO UInt32 := do
  let exit ← BrightBlocks.Command.execute BrightBlocks.machine (arguments.map String.toList)
  IO.print (String.ofList exit.stdout)
  IO.eprint (String.ofList exit.stderr)
  return exit.code
