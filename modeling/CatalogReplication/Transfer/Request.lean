import CatalogReplication.Value.Basic

/-!
# Transfer requests

What a task asks of whoever carries data between directory trees.
-/

namespace CatalogReplication.Transfer

/-- A request concerning directory trees. -/
inductive Request where
  /-- Whether there is a directory. -/
  | exists (path : String)
  /-- Whether two trees hold the same files, of the same sizes. -/
  | equal (a b : String)
  /-- Replaces a tree by a copy of another; the answer is the number of bytes. -/
  | copy (source destination : String) (tags : List Value)
  /-- Replaces a tree by renaming another. -/
  | move (source destination : String)
deriving Repr

namespace Request

/-- What answers a request. -/
abbrev Answer : Request → Type
  | .exists _ => Bool
  | .equal _ _ => Bool
  | .copy _ _ _ => Int
  | .move _ _ => Unit

/-- The names of all requests. -/
def names : List String := ["exists", "equal", "copy", "move"]

/-- The name of a request. -/
def name : Request → String
  | .exists _ => "exists"
  | .equal _ _ => "equal"
  | .copy _ _ _ => "copy"
  | .move _ _ => "move"

end Request

end CatalogReplication.Transfer
