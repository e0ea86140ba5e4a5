/-!
# Transfer errors

Why a directory tree could not be copied or moved.
-/

namespace CatalogReplication.Transfer

/-- What goes wrong with a copy or a move. -/
inductive Error where
  | sourceMissing (source : String)
  | copyFailed (source destination : String)
  | moveFailed (source destination : String)
  /-- A rename can't leave its disk. -/
  | acrossDisks (source destination : String)
  | scratchElsewhere (root : String)
  /-- A fault reported in words. -/
  | reported (text : String)
deriving DecidableEq, Repr

/-- The wording of an error. -/
def Error.message : Error → String
  | .sourceMissing source => s!"Source directory '{source}' doesn't exist"
  | .copyFailed source destination => s!"Failed copying '{source}' to '{destination}'"
  | .moveFailed source destination => s!"Failed moving '{source}' to '{destination}'"
  | .acrossDisks source destination =>
    s!"Can't move '{source}' to '{destination}': paths are on different filesystems"
  | .scratchElsewhere root => s!"tmp_root '{root}' isn't on the destination filesystem"
  | .reported text => text

end CatalogReplication.Transfer
