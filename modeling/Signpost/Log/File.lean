import Signpost.Files.Tree
import Signpost.Settings.Basic

/-!
# Log files

A log file is one for each day: the date is put after its name. The directories on the way to it are
made if they are not there.
-/

namespace Signpost.Log

open Signpost.Files (Tree Path Identity Name)

/-- The name of the log file where a path has none. -/
def defaultName : Name :=
  Text.Utf8.encode "reverse_proxy_discovery.log"

/-- A log file: its directory and its name without the date. -/
structure LogFile where
  directory : Identity
  name : Name
  deriving DecidableEq, Repr

/-- How many bytes the date takes, with the dot before it. -/
def dateSize : Nat := ".2000-01-01".length

/-- Opens the log file for an output, if its directory is there or can be made and its name with the
date is not too long. -/
def LogFile.open? (t : Tree) (path : String) : Option (Tree × LogFile) :=
  let path : Path := .ofString path
  let name := path.fileName?.getD defaultName
  let size := (path.directory.join name).length + dateSize
  if 0 ∈ name ∨ Files.longestName < name.length + dateSize ∨ Files.longestPath < size then none
  else
    match t.makeDirectories path.directory with
    | (made, .ok directory) => some (made, ⟨directory, name⟩)
    | (_, .error _) => none

/-- The name of the file, with the date of a day. -/
def LogFile.dated (f : LogFile) (date : String) : String :=
  Path.shown f.name ++ "." ++ date

end Signpost.Log
