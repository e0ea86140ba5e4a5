import CatalogReplication.Assoc
import CatalogReplication.Lock.Requirement

/-!
# Lock states

What a manager knows about its locks. Listeners hear of every change of a state, and of nothing
else.
-/

namespace CatalogReplication.Lock

/-- The state of a lock. -/
inductive LockState where
  | unlocked
  | locked
  /-- The connection to whoever keeps the lock is interrupted. -/
  | uncertain
  /-- The lock was lost. -/
  | invalid
deriving DecidableEq, Repr, Inhabited

namespace LockState

/-- The name of a state. -/
def name : LockState → String
  | unlocked => "UNLOCKED"
  | locked => "LOCKED"
  | uncertain => "UNCERTAIN"
  | invalid => "INVALID"

/-- The state of a name. -/
def ofName? : String → Option LockState
  | "UNLOCKED" => some unlocked
  | "LOCKED" => some locked
  | "UNCERTAIN" => some uncertain
  | "INVALID" => some invalid
  | _ => none

end LockState

/-- The states of the locks that aren't unlocked. -/
abbrev States := Assoc Requirement LockState

namespace States

/-- The state of a lock. -/
def state (r : Requirement) (s : States) : LockState := (s.lookup r).getD .unlocked

/-- Sets the state of a lock. -/
def update (r : Requirement) (new : LockState) (s : States) : States :=
  if new = .unlocked then Assoc.erase r s else Assoc.put r new s

theorem state_update_self (r : Requirement) (new : LockState) (s : States) :
    (s.update r new).state r = new := by
  unfold update state
  split
  · rename_i h
    rw [Assoc.lookup_erase_self, h]
    rfl
  · rw [Assoc.lookup_put_self]
    rfl

theorem state_update_of_ne {r r' : Requirement} (h : r' ≠ r) (new : LockState) (s : States) :
    (s.update r new).state r' = s.state r' := by
  unfold update state
  split
  · rw [Assoc.lookup_erase_of_ne h]
  · rw [Assoc.lookup_put_of_ne h]

/-- Which locks have a state after the state of one was set. -/
theorem isSome_lookup_update (r r' : Requirement) (new : LockState) (s : States) :
    ((s.update r new).lookup r').isSome = true ↔
      if r' = r then new ≠ .unlocked else (s.lookup r').isSome = true := by
  unfold update
  by_cases hr : r' = r
  · subst hr
    by_cases hnew : new = .unlocked
    · simp [hnew, Assoc.lookup_erase_self]
    · simp [hnew, Assoc.lookup_put_self]
  · by_cases hnew : new = .unlocked
    · simp [hr, hnew, Assoc.lookup_erase_of_ne hr]
    · simp [hr, hnew, Assoc.lookup_put_of_ne hr]

end States

end CatalogReplication.Lock
