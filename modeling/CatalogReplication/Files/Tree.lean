import CatalogReplication.Assoc

/-!
# File trees

A file tree is the list of its entries, files and folders, by their paths; the root is always a
folder. The operations are those of a disk: they fail where a disk would, and a failing operation
leaves no trace.
-/

namespace CatalogReplication.Files

/-- A path, as the names on the way from the root. -/
abbrev Path := List String

/-- What is at a path. -/
inductive Node where
  | file (content : String)
  /-- A file that holds a database, by the number of that. -/
  | database (id : Nat)
  | folder
deriving DecidableEq, Repr

/-- The size of a file in bytes; databases have seven pages while they are small. -/
def Node.size? : Node → Option Nat
  | file content => some content.utf8ByteSize
  | database _ => some (7 * 4096)
  | folder => none

/-- A file tree. -/
abbrev Tree := Assoc Path Node

namespace Tree

/-- What is at a path. -/
def node? (p : Path) (t : Tree) : Option Node :=
  if p = [] then some .folder else t.lookup p

/-- Whether there is a folder. -/
def isFolder (p : Path) (t : Tree) : Bool := t.node? p == some .folder

/-- Whether there is anything. -/
def holds (p : Path) (t : Tree) : Bool := (t.node? p).isSome

/-- The rest of a path at or below another. -/
def below? : Path → Path → Option Path
  | [], q => some q
  | a :: p, b :: q => if a = b then below? p q else none
  | _ :: _, [] => none

theorem below?_eq_some_iff {p q r : Path} : below? p q = some r ↔ q = p ++ r := by
  induction p generalizing q with
  | nil => simp [below?]
  | cons a p ih =>
    cases q with
    | nil => simp [below?]
    | cons b q =>
      by_cases h : a = b
      · subst h; simp [below?, ih]
      · simp [below?, h, Ne.symm h]

/-- The text of a path relative to a folder. -/
def pathText (p : Path) : String := "/".intercalate p

/-- The files below a folder, with their sizes in bytes, in the order of their texts. -/
def files (p : Path) (t : Tree) : List (Path × Nat) :=
  let found := t.filterMap fun e =>
    match below? p e.1, e.2.size? with
    | some rest, some size => some (rest, size)
    | _, _ => none
  found.mergeSort fun a b => !decide (pathText b.1 < pathText a.1)

/-- Makes one folder after the other on the way down a path. -/
def makeFoldersFrom (done : Path) : Path → Tree → Option Tree
  | [], t => some t
  | name :: rest, t =>
    let p := done ++ [name]
    match t.node? p with
    | some .folder => makeFoldersFrom p rest t
    | some _ => none
    | none => makeFoldersFrom p rest (Assoc.put p .folder t)

/-- Makes a folder with all those above it; none if a file is in the way. -/
def makeFolders (p : Path) (t : Tree) : Option Tree := makeFoldersFrom [] p t

/-- The content of a file. -/
def content? (p : Path) (t : Tree) : Option String :=
  match t.node? p with
  | some (.file content) => some content
  | _ => none

/-- Whether there is a file. -/
def isFile (p : Path) (t : Tree) : Bool :=
  match t.node? p with
  | none | some .folder => false
  | some _ => true

/-- Writes a file into a folder that is there. -/
def write (p : Path) (content : String) (t : Tree) : Option Tree :=
  if t.isFolder p.dropLast && !t.isFolder p then some (Assoc.put p (.file content) t) else none

/-- Everything but what is at or below a path. -/
def without (p : Path) (t : Tree) : Tree := t.filter fun e => (below? p e.1).isNone

/-- Removes what is at and below a path. -/
def remove (p : Path) (t : Tree) : Option Tree :=
  if t.holds p then some (t.without p) else none

/-- Renames what is at and below a path; it can't go below itself or where something is. -/
def rename (p q : Path) (t : Tree) : Option Tree :=
  if t.holds p && !t.holds q && t.isFolder q.dropLast && (below? p q).isNone then
    some (t.map fun e =>
      match below? p e.1 with
      | some rest => (q ++ rest, e.2)
      | none => e)
  else none

end Tree

end CatalogReplication.Files
