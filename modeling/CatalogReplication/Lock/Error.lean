import CatalogReplication.Lock.Requirement

/-!
# Lock errors

Why a lock could not be taken or given back.
-/

namespace CatalogReplication.Lock

/-- What goes wrong with a lock. -/
inductive Error where
  | alreadyAcquired (r : Requirement)
  | notFound (r : Requirement)
  | timedOut (r : Requirement)
  | refused (r : Requirement)
  /-- A fault reported in words. -/
  | reported (text : String)
deriving DecidableEq, Repr

/-- The wording of an error. -/
def Error.message : Error → String
  | .alreadyAcquired r => s!"Lock '{r.text}' already acquired."
  | .notFound r => s!"No lock '{r.text}' found."
  | .timedOut r => s!"Timed out waiting for lock '{r.text}'"
  | .refused r => s!"Failed to acquire lock '{r.text}'"
  | .reported text => text

end CatalogReplication.Lock
