import CatalogReplication.Transfer.Calls
import CatalogReplication.Transfer.Options
import CatalogReplication.Transfer.Request

/-!
# Carrying directory trees

Copies and moves between disks as programs of file calls. A copy is written to a scratch folder on
the disk of the destination and renamed into place. What was there is renamed aside first, put back
if the rename fails, and removed only when the new tree is in place.
-/

namespace CatalogReplication

namespace Transfer

open Files (Disk Path Place)
open Procedure

/-- Finds the place that a location names. -/
def resolve (o : Options) (location : Value) : Procedure Place := do
  begin .resolve
  if o.canAccess then
    match location with
    | .text location =>
      match Place.ofLocation? location with
      | some p => return p
      | none => .fail .scheme
    | .list _ | .map _ => .fail .member
    | _ => .fail .arguments
  else .fail .arguments

/-- The files below a location, with their sizes, if it is a folder. -/
def listing (o : Options) (location : String) : Procedure (Option (List (Path × Nat))) := do
  begin .list
  let p ← resolve o (.text location)
  if ← file (.isFolder p) then
    let files ← file (.find p)
    return some files
  else return none

/-- Whether a location is a folder. -/
def present (o : Options) (location : String) : Procedure Bool := do
  let p ← resolve o (.text location)
  file (.isFolder p)

/-- Whether two folders hold the same files, of the same sizes. -/
def equal (o : Options) (a b : String) : Procedure Bool := do
  match ← listing o a with
  | none => return false
  | some filesA =>
    let filesB ← listing o b
    return filesB == some filesA

/-- Whether two disks count as one. -/
def isSameDisk (o : Options) (a b : Disk) : Bool := !o.accessesAnew && a == b

/-- The text of a tag. -/
def tagText (tag : Nat) : String :=
  let digits := Nat.toDigits 16 tag
  String.ofList (List.replicate (32 - digits.length) '0' ++ digits)

/-- A name for a folder on its way. -/
def scratchName (tag : Nat) : String := "_replication_tmp_" ++ tagText tag

/-- A name for a folder that is put aside. -/
def asideName (tag : Nat) : String := "_replication_old_" ++ tagText tag

/-- Chooses where a copy to a place is written first. -/
def scratchPlace (o : Options) (destination : Place) : Procedure Place := do
  begin .chooseScratch
  let tag ← file .freshTag
  match o.scratchRoot with
  | .null => return { destination with path := destination.path.dropLast ++ [scratchName tag] }
  | root =>
    let p ← resolve o root
    if isSameDisk o p.disk destination.disk then
      return { p with path := p.path ++ [scratchName tag] }
    else .fail (.transfer (.scratchElsewhere root.display))

/-- Copies files one by one. -/
def copyFiles (o : Options) (source target : Place) : List Path → Procedure Unit
  | [] => .done ()
  | p :: rest => do
    let origin : Place := { source with path := source.path ++ p }
    let copied : Place := { target with path := target.path ++ p }
    file (.makeFolders { copied with path := copied.path.dropLast })
    file (.openRead origin)
    file (.openWrite copied)
    file (.copyContent origin copied o.canRead)
    copyFiles o source target rest

/-- Puts aside what is at a path, or makes the folder above it; answers where it was put. -/
def putAside (disk : Disk) (p : Path) : Procedure (Option Path) := do
  if ← file (.holds ⟨disk, p⟩) then
    let tag ← file .freshTag
    let aside := p.dropLast ++ [asideName tag]
    file (.rename disk p aside)
    return some aside
  else if p.isEmpty then return none
  else
    file (.makeFolders ⟨disk, p.dropLast⟩)
    return none

/-- Puts back what was put aside. -/
def putBack (disk : Disk) (p : Path) : Option Path → Procedure Unit
  | none => .done ()
  | some aside => do
    if ← file (.holds ⟨disk, p⟩) then file (.remove ⟨disk, p⟩)
    file (.rename disk aside p)

/-- Renames a tree, replacing any tree that is there. -/
def replace (disk : Disk) (source destination : Path) : Procedure Unit := do
  begin .replace
  let aside ← putAside disk destination
  (file (.rename disk source destination)).recover fun e => do
    if e.isStorage then putBack disk destination aside
    .fail e
  match aside with
  | none => pure ()
  | some a => file (.remove ⟨disk, a⟩)

/-- Removes what is left of a copy. -/
def discard (p : Place) : Procedure Unit := do
  if ← file (.holds p) then file (.remove p)

/-- Replaces a tree by a copy of another; answers the number of bytes. -/
def copy (o : Options) (source destination : String) : Procedure Int := do
  let s ← resolve o (.text source)
  let d ← resolve o (.text destination)
  match ← listing o source with
  | none => .fail (.transfer (.sourceMissing source))
  | some files =>
    let scratch ← scratchPlace o d
    let work : Procedure Unit := do
      file (.makeFolders scratch)
      copyFiles o s scratch (files.map Prod.fst)
      replace d.disk scratch.path d.path
    work.recover fun e => do
      if e.isStorage then
        discard scratch
        .fail (.transfer (.copyFailed source destination))
      else .fail e
    return (files.foldl (fun n f => n + f.2) 0 : Nat)

/-- Replaces a tree by renaming another. -/
def move (o : Options) (source destination : String) : Procedure Unit := do
  let s ← resolve o (.text source)
  let d ← resolve o (.text destination)
  if isSameDisk o s.disk d.disk then
    (replace d.disk s.path d.path).recover fun e =>
      if e.isStorage then .fail (.transfer (.moveFailed source destination)) else .fail e
  else .fail (.transfer (.acrossDisks source destination))

/-- What a request does to the disks. -/
def program (o : Options) : (r : Request) → Procedure r.Answer
  | .exists path => present o path
  | .equal a b => equal o a b
  | .copy source destination _ => copy o source destination
  | .move source destination => move o source destination

end Transfer

end CatalogReplication
