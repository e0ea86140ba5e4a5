import CatalogReplication.Text.Cut

/-!
# Partition names

The name of a partition lists its keys and values, `ds=1/hr=2`. `values?` reads the values: every
segment between slashes has a key, the first `=` ends it, and the rest is the value.
-/

namespace CatalogReplication.PartitionName

/-- A segment of a partition name. -/
def segment (key value : List Char) : List Char := key ++ '=' :: value

/-- The name made of keys and values. -/
def render (entries : List (List Char × List Char)) : List Char :=
  Text.join '/' (entries.map fun e => segment e.1 e.2)

/-- The values of segments; none if one has no key. -/
def segmentValues? : List (List Char) → Option (List (List Char))
  | [] => some []
  | s :: rest =>
    match (Text.cut '=' s).2, segmentValues? rest with
    | some v, some vs => some (v :: vs)
    | _, _ => none

/-- The values of a partition name; none if a segment has no key. -/
def values? (name : String) : Option (List String) :=
  (segmentValues? (Text.segments '/' name.toList)).map fun vs => vs.map String.ofList

/-- The wording for a name that has no values. -/
def invalidMessage (name : String) : String := s!"Invalid partition name '{name}'"

end CatalogReplication.PartitionName
