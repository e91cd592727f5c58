import BrightBlocks.Text.Quoted

/-!
# Disks

The command reads at most one file and writes at most one. A disk is whatever
can do these two things: the files of a machine, or a store that is a plain
value. Failures are answers of the disk; they name a cause and a path.
-/

namespace BrightBlocks.Command

/-- Why a file cannot be read or written. -/
inductive DiskCause
  | missing
  | notADirectory
  | isADirectory
  | nameTooLong
  | nullInPath
  | other (code : Nat) (words : String)
  deriving DecidableEq, Repr

/-- A file that cannot be read or written. -/
structure DiskFault where
  cause : DiskCause
  path : Text
  deriving DecidableEq, Repr

namespace DiskFault

/-- A message with the number of its cause. -/
def numbered (code : Nat) (words : String) (path : Text) : Text :=
  "[Errno ".toList ++ Text.ofInt code ++ "] ".toList ++ words.toList ++ ": ".toList ++
    Text.quoted path

/-- The words for a file that cannot be read or written. -/
def message (fault : DiskFault) : Text :=
  match fault.cause with
  | .missing => numbered 2 "No such file or directory" fault.path
  | .notADirectory => numbered 20 "Not a directory" fault.path
  | .isADirectory => numbered 21 "Is a directory" fault.path
  | .nameTooLong => numbered 36 "File name too long" fault.path
  | .nullInPath => "embedded null byte".toList
  | .other code words => numbered code words fault.path

end DiskFault

/-- The files that the command works on. -/
structure Disk (m : Type → Type) where
  read : Text → m (Except DiskFault (List UInt8))
  /-- Replaces the content of a file, which is made if there is none. -/
  write : Text → List UInt8 → m (Except DiskFault Unit)

end BrightBlocks.Command
