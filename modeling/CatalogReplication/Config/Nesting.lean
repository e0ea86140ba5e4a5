import CatalogReplication.Assoc

/-!
# Nested blocks

Contexts are entered and left in blocks, by any number of threads. The context of a thread is that
of the last block that it entered and hasn't left. When a block is left, what was current before it is
current again, and a context is closed when no thread has a block of it any more.
-/

namespace CatalogReplication.Config

/-- The number of a context. -/
abbrev ContextId := Nat

/-- The number of a thread. -/
abbrev Thread := Nat

/-- The open blocks of all contexts. -/
structure Nesting where
  /-- The current context of each thread that has one. -/
  current : Assoc Thread ContextId := []
  /-- For a context and a thread, what was current before each of its open blocks, the latest
  first. -/
  outer : Assoc (ContextId × Thread) (List (Option ContextId)) := []
  /-- How many blocks of a context are open. -/
  blocks : Assoc ContextId Nat := []
deriving Repr

namespace Nesting

/-- The current context of a thread. -/
def current? (t : Thread) (n : Nesting) : Option ContextId := n.current.lookup t

/-- Sets what is current in a thread. -/
def withCurrent (t : Thread) (c : Option ContextId) (n : Nesting) : Nesting :=
  match c with
  | some c => { n with current := Assoc.put t c n.current }
  | none => { n with current := Assoc.erase t n.current }

/-- How many blocks of a context are open. -/
def openBlocks (c : ContextId) (n : Nesting) : Nat := (n.blocks.lookup c).getD 0

/-- Enters a block of a context. -/
def enter (c : ContextId) (t : Thread) (n : Nesting) : Nesting :=
  let before := (n.outer.lookup (c, t)).getD []
  { n with
    outer := Assoc.put (c, t) (n.current? t :: before) n.outer
    blocks := Assoc.put c (n.openBlocks c + 1) n.blocks }.withCurrent t (some c)

/-- Leaves the last block of a context that a thread entered; answers whether it was the last one of
the context. -/
def leave? (c : ContextId) (t : Thread) (n : Nesting) : Option (Bool × Nesting) :=
  match n.outer.lookup (c, t) with
  | none | some [] => none
  | some (before :: rest) =>
    let outer :=
      if rest.isEmpty then Assoc.erase (c, t) n.outer else Assoc.put (c, t) rest n.outer
    let left := n.openBlocks c - 1
    let blocks := if left = 0 then Assoc.erase c n.blocks else Assoc.put c left n.blocks
    some (left = 0, { n with outer, blocks }.withCurrent t before)

/-! ### Entering -/

theorem current?_enter (c : ContextId) (t : Thread) (n : Nesting) :
    (n.enter c t).current? t = some c := by
  unfold enter withCurrent current?
  exact Assoc.lookup_put_self t c _

theorem current?_enter_of_ne (c : ContextId) {t u : Thread} (h : u ≠ t) (n : Nesting) :
    (n.enter c t).current? u = n.current? u := by
  unfold enter withCurrent current?
  exact Assoc.lookup_put_of_ne h c _

theorem openBlocks_enter (c : ContextId) (t : Thread) (n : Nesting) :
    (n.enter c t).openBlocks c = n.openBlocks c + 1 := by
  unfold enter withCurrent openBlocks
  simp [Assoc.lookup_put_self]

end Nesting

end CatalogReplication.Config
