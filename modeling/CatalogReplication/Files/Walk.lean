import CatalogReplication.Failure
import CatalogReplication.Files.Disk

/-!
# Going along paths

A path can be read in two ways. `follow` only looks at its names: `.` stays and `..` goes up.
`walk` goes along them on a disk, where every name but the last has to be that of a folder.
-/

namespace CatalogReplication.Files

/-- Goes along names from a path without looking at what is there. -/
def follow : Path → Path → Path
  | [], done => done
  | "." :: rest, done => follow rest done
  | ".." :: rest, done => follow rest done.dropLast
  | name :: rest, done => follow rest (done ++ [name])

/-- The names from the root to where a text leads from a folder; a text that begins with a slash
begins at the root. -/
def goFrom (folder : Path) (s : String) : Path :=
  let names := (namesOf s.toList).filter (· != ".")
  match s.toList with
  | '/' :: _ => names
  | _ => folder ++ names

/-- The text of a path from the root. -/
def pathText (p : Path) : String := "/" ++ Tree.pathText p

/-- Why a path leads nowhere. -/
inductive WalkError where
  /-- There is nothing. -/
  | missing
  /-- It goes through a file. -/
  | throughFile
deriving DecidableEq, Repr

/-- Goes along names on a disk. -/
def walk (t : Tree) (done : Path) : Path → Except WalkError Path
  | [] => .ok done
  | name :: rest =>
    match t.node? done with
    | none => .error .missing
    | some .folder =>
      walk t (if name == "." then done else if name == ".." then done.dropLast else done ++ [name])
        rest
    | some _ => .error .throughFile

/-- The content of the file at a path, which has to be written without a slash at its end. -/
def readFile (t : Tree) (path : String) : Except Failure String :=
  let names := (Text.segments '/' path.toList).map String.ofList
  let isFolderText := names.getLast? == some "" || names.getLast? == some "."
  match walk t [] (names.filter fun name => !name.isEmpty) with
  | .error .throughFile => .error (.other "NotADirectoryError")
  | .error .missing => .error (.fileMissing path)
  | .ok p =>
    if path.isEmpty then .error (.fileMissing path)
    else
      match t.node? p with
      | none => .error (.fileMissing path)
      | some .folder => .error (.other "IsADirectoryError")
      | some node =>
        if isFolderText then .error (.other "NotADirectoryError")
        else
          match node with
          | .file content => .ok content
          | _ => .error (.other "UnicodeDecodeError")

/-! ### Reading without and with a disk -/

/-- Where there is a way, it leads to where the names alone lead. -/
theorem walk_eq_follow {t : Tree} {p done q : Path} (h : walk t done p = .ok q) :
    follow p done = q := by
  induction p generalizing done with
  | nil => simpa [walk, follow] using h
  | cons name rest ih =>
    unfold walk at h
    split at h
    · simp at h
    · have := ih h
      by_cases h₁ : name = "."
      · subst h₁; simpa [follow] using this
      · by_cases h₂ : name = ".."
        · subst h₂; simpa [follow] using this
        · simpa [follow, h₁, h₂] using this
    · simp at h

end CatalogReplication.Files
