import CatalogReplication.Assoc
import CatalogReplication.Lock.Requirement

/-!
# The lock registry

All lock managers of one process share a registry: for each key how many hold it shared, which keys
are held exclusively, and how many exclusive requests wait for a key. While one waits, no new shared
lock on its key is granted, so partitions can't keep a table waiting for ever.
-/

namespace CatalogReplication.Lock

/-- Who holds and who waits for the locks of a process. -/
structure Registry where
  /-- The number of holders of each key that is held shared. -/
  shared : Assoc String Nat := []
  exclusive : List String := []
  /-- The number of exclusive requests that wait for each key. -/
  waiting : Assoc String Nat := []
deriving Repr, Inhabited

namespace Registry

/-- One more at a key. -/
def increment (k : String) (m : Assoc String Nat) : Assoc String Nat :=
  Assoc.put k ((m.lookup k).getD 0 + 1) m

/-- One less at a key; the last one takes the key away. -/
def decrement (k : String) (m : Assoc String Nat) : Assoc String Nat :=
  match m.lookup k with
  | some (n + 2) => Assoc.put k (n + 1) m
  | _ => Assoc.erase k m

/-- Whether a lock can be granted. -/
def grants (r : Requirement) (g : Registry) : Bool :=
  !g.exclusive.contains r.key &&
    match r.kind with
    | .shared => !Assoc.hasKey r.key g.waiting
    | .exclusive => !Assoc.hasKey r.key g.shared

/-- Notes that a lock is held. -/
def grant (r : Requirement) (g : Registry) : Registry :=
  match r.kind with
  | .shared => { g with shared := increment r.key g.shared }
  | .exclusive => { g with exclusive := g.exclusive ++ [r.key] }

/-- Notes that a lock is given back. -/
def giveBack (r : Requirement) (g : Registry) : Registry :=
  match r.kind with
  | .shared => { g with shared := decrement r.key g.shared }
  | .exclusive => { g with exclusive := g.exclusive.filter fun k => k != r.key }

/-- Notes that a request waits. -/
def startWaiting (r : Requirement) (g : Registry) : Registry :=
  match r.kind with
  | .shared => g
  | .exclusive => { g with waiting := increment r.key g.waiting }

/-- Notes that a request waits no longer. -/
def stopWaiting (r : Requirement) (g : Registry) : Registry :=
  match r.kind with
  | .shared => g
  | .exclusive => { g with waiting := decrement r.key g.waiting }

end Registry

end CatalogReplication.Lock
