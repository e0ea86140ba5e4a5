import CatalogReplication.Location.Url

/-!
# Rebasing locations

Where the data of an object lies on the other cluster, and where a copy of it may have been staged.
A location at or below the root of its cluster keeps its place below the other root; of any other
location only the path counts.
-/

namespace CatalogReplication.Location

/-- A root without the slashes at its end. -/
def trimRoot (root : String) : List Char := Text.dropTrailing (· == '/') root.toList

/-- What follows a root in a location at or below it: nothing, or a text that begins with `/`. -/
def below? (root location : List Char) : Option (List Char) :=
  match Text.stripHead? root location with
  | some [] => some []
  | some ('/' :: rest) => some ('/' :: rest)
  | _ => none

/-- A path below a root. -/
def attach (root path : List Char) : List Char := root ++ '/' :: path.dropWhile (· == '/')

/-- The location on the cluster with root `dest` for one on the cluster with root `source`. -/
def rebase (source dest location : String) : Except Url.Error String :=
  match below? (trimRoot source) location.toList with
  | some rest => .ok (String.ofList (trimRoot dest ++ rest))
  | none =>
    match Url.path location.toList with
    | .ok path => .ok (String.ofList (attach (trimRoot dest) path))
    | .error e => .error e

/-- Where a copy of `location` may have been staged below `root`. -/
def staged (root location : String) : Except Url.Error String :=
  match Url.path location.toList with
  | .ok path => .ok (String.ofList (attach (trimRoot root) path))
  | .error e => .error e

end CatalogReplication.Location
