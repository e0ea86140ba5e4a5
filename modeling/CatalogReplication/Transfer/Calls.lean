import CatalogReplication.Files.Disk
import CatalogReplication.Program

/-!
# What carrying data does to the world

Carrying data is a program of file calls. Between these it announces the parts of its work that it
begins, so that each of them can be kept from happening as a whole.
-/

namespace CatalogReplication.Transfer

/-- A part of carrying data. -/
inductive Step where
  /-- Finding the disk and the path of a location. -/
  | resolve
  /-- Listing the files below a location. -/
  | list
  /-- Choosing where a copy is written first. -/
  | chooseScratch
  /-- Renaming a tree into the place of another. -/
  | replace
deriving DecidableEq, Repr

/-- The name of a part. -/
def Step.name : Step → String
  | resolve => "_fs"
  | list => "_listing"
  | chooseScratch => "_tmp_path"
  | replace => "_replace_directory"

/-- The names of all parts. -/
def Step.names : List String := [resolve, list, chooseScratch, replace].map Step.name

/-- A call of whoever carries data. -/
inductive Call where
  | begin (s : Step)
  | file (c : Files.Call)

/-- What answers a call. -/
abbrev Call.Answer : Call → Type
  | .begin _ => Unit
  | .file c => c.Answer

/-- A procedure for carrying data. -/
abbrev Procedure := Program Call Call.Answer Empty Failure

namespace Procedure

/-- Begins a part of the work. -/
def begin (s : Step) : Procedure Unit := Program.perform (Call.begin s)

/-- Makes a file call. -/
def file (c : Files.Call) : Procedure c.Answer := Program.perform (Call.file c)

end Procedure

end CatalogReplication.Transfer
