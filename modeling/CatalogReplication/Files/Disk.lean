import CatalogReplication.Failure
import CatalogReplication.Files.Tree
import CatalogReplication.Text.Cut

/-!
# Disks and file calls

There are two disks, one in memory and that of the host. A place is a path on one of them; locations
name places. The calls are those that carrying data makes; `Disks.serve` answers them.
-/

namespace CatalogReplication.Files

/-- A disk. -/
inductive Disk where
  | memory
  | host
deriving DecidableEq, Repr

/-- A path on a disk. -/
structure Place where
  disk : Disk
  path : Path
deriving DecidableEq, Repr

/-- The names in a path; empty ones don't count. -/
def namesOf (s : List Char) : Path :=
  ((Text.segments '/' s).filter fun name => !name.isEmpty).map String.ofList

/-- Cuts a location at its first `://`. -/
def cutScheme : List Char → Option (List Char × List Char)
  | [] => none
  | c :: rest =>
    match Text.stripHead? "://".toList (c :: rest) with
    | some path => some ([], path)
    | none => (cutScheme rest).map fun r => (c :: r.1, r.2)

/-- The place that a location names; a scheme has at least two letters. -/
def Place.ofLocation? (location : String) : Option Place :=
  match cutScheme location.toList with
  | some (scheme, path) =>
    if scheme.length < 2 then some ⟨.host, namesOf location.toList⟩
    else if scheme = "memory".toList then some ⟨.memory, namesOf path⟩
    else if scheme = "file".toList || scheme = "local".toList then some ⟨.host, namesOf path⟩
    else none
  | none => some ⟨.host, namesOf location.toList⟩

/-- The location of a place. -/
def Place.location (p : Place) : String :=
  match p.disk with
  | .memory => "memory://" ++ Tree.pathText p.path
  | .host => "/" ++ Tree.pathText p.path

/-- A call to a disk. -/
inductive Call where
  | isFolder (p : Place)
  | find (p : Place)
  | holds (p : Place)
  | makeFolders (p : Place)
  | openRead (p : Place)
  /-- Opening a file for writing empties it. -/
  | openWrite (p : Place)
  /-- Copies the content of a file in blocks, if these have a size. -/
  | copyContent (source destination : Place) (hasBlocks : Bool)
  | rename (disk : Disk) (source destination : Path)
  | remove (p : Place)
  /-- A number that was never given out before. -/
  | freshTag
deriving DecidableEq, Repr

/-- What answers a call. -/
abbrev Call.Answer : Call → Type
  | .isFolder _ => Bool
  | .find _ => List (Path × Nat)
  | .holds _ => Bool
  | .makeFolders _ => Unit
  | .openRead _ => Unit
  | .openWrite _ => Unit
  | .copyContent _ _ _ => Unit
  | .rename _ _ _ => Unit
  | .remove _ => Unit
  | .freshTag => Nat

/-- The name of a call to a disk. -/
def Call.name? : Call → Option String
  | .isFolder _ => some "isdir"
  | .find _ => some "find"
  | .holds _ => some "exists"
  | .makeFolders _ => some "makedirs"
  | .openRead _ => some "open"
  | .openWrite _ => some "open"
  | .copyContent _ _ _ => some "copyfileobj"
  | .rename _ _ _ => some "mv"
  | .remove _ => some "rm"
  | .freshTag => none

/-- The disks, and the last tag that was given out. -/
structure Disks where
  memory : Tree := []
  host : Tree := []
  lastTag : Nat := 0

namespace Disks

/-- The tree of a disk. -/
def tree (disk : Disk) (s : Disks) : Tree :=
  match disk with
  | .memory => s.memory
  | .host => s.host

/-- Replaces the tree of a disk. -/
def withTree (disk : Disk) (t : Tree) (s : Disks) : Disks :=
  match disk with
  | .memory => { s with memory := t }
  | .host => { s with host := t }

/-- Changes the tree of a disk; what can't be done is a failure and changes nothing. -/
def change (disk : Disk) (f : Tree → Option Tree) (s : Disks) : Except Failure Unit × Disks :=
  match f (s.tree disk) with
  | some t => (.ok (), s.withTree disk t)
  | none => (.error .storage, s)

/-- Answers a call. -/
def serve : (c : Call) → Disks → Except Failure c.Answer × Disks
  | .isFolder p, s => (.ok ((s.tree p.disk).isFolder p.path), s)
  | .find p, s => (.ok ((s.tree p.disk).files p.path), s)
  | .holds p, s => (.ok ((s.tree p.disk).holds p.path), s)
  | .makeFolders p, s => s.change p.disk (Tree.makeFolders p.path)
  | .openRead p, s =>
    (if ((s.tree p.disk).content? p.path).isSome then .ok () else .error .storage, s)
  | .openWrite p, s => s.change p.disk (Tree.write p.path "")
  | .copyContent _ _ false, s => (.error .arguments, s)
  | .copyContent source destination true, s =>
    match (s.tree source.disk).content? source.path with
    | some content => s.change destination.disk (Tree.write destination.path content)
    | none => (.error .storage, s)
  | .rename disk source destination, s => s.change disk (Tree.rename source destination)
  | .remove p, s => s.change p.disk (Tree.remove p.path)
  | .freshTag, s => (.ok (s.lastTag + 1), { s with lastTag := s.lastTag + 1 })

end Disks

end CatalogReplication.Files
