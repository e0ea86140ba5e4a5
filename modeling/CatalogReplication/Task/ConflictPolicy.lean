import CatalogReplication.Task.Builder

/-!
# Conflicts

What happens if the object that a task is about to write is on the destination already without
having been replicated from the source: it is overwritten with a warning, or not at all.
-/

namespace CatalogReplication

/-- A warning that an object of other origin is overwritten. -/
structure Overwrite where
  spec : Spec
  source : Value
  destination : Value
  /-- The cluster that the overwritten record says it came from. -/
  existingSource : Option String
deriving Repr

/-- The wording of the warning. -/
def Overwrite.text : String := "Overwriting object that wasn't replicated from the source cluster"

/-- What to do about an object of other origin. -/
inductive ConflictPolicy where
  | logging
  | raising
deriving DecidableEq, Repr

/-- What a policy says to overwriting an existing record: nothing, a warning, or a conflict. -/
def ConflictPolicy.check (policy : ConflictPolicy) (source destination : Cluster) (spec : Spec)
    (existing : Parameters) : Except Conflict (Option Overwrite) :=
  if existing.isReplicaOf source then .ok none
  else
    match policy with
    | .logging =>
      .ok (some {
        spec
        source := source.name
        destination := destination.name
        existingSource := existing.get? sourceClusterKey })
    | .raising =>
      .error { spec, destination := destination.name.display, source := source.name.display }

end CatalogReplication
