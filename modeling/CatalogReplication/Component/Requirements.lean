import CatalogReplication.Failure
import CatalogReplication.Value.Basic

/-!
# Components with requirements

A component may need others that aren't always there. Without them it keeps its name, but none of
its attributes can be read and it can't be instantiated.
-/

namespace CatalogReplication.Component

/-- Whether requirements are met: every one of a list, or the one that is given. -/
def requirementsMet : Value → Bool
  | .list requirements => requirements.all Value.truthy
  | requirement => requirement.truthy

/-- A component with requirements. -/
structure Guarded where
  name : String
  attributes : List (String × Value)
  isAvailable : Bool

namespace Guarded

/-- A component that is only there if its requirements are met. -/
def make (name : String) (attributes : List (String × Value)) (requirements : Value) : Guarded :=
  { name, attributes, isAvailable := requirementsMet requirements }

/-- An attribute of a component. -/
def read (name : String) (g : Guarded) : Except Failure Value :=
  if !g.isAvailable then .error .requirement
  else
    match g.attributes.lookup name with
    | some v => .ok v
    | none => .error .member

end Guarded

end CatalogReplication.Component
