import CatalogReplication.Proofs.Transfer.Replace
import Mathlib.Algebra.GroupWithZero.Nat

/-!
# How copying a tree ends

`copy` writes the files of a tree one by one below a new scratch folder and renames that into place.
`FilesCopied` says what the first half leaves, by induction on the files; together with `Replaced`
this gives how the work ends (`Worked`), and with the removal of what is left over, how the whole
procedure ends (`CopyEnd`). Nothing is assumed here about where the scratch folder lies.
-/

namespace CatalogReplication.Transfer

open Files (Disk Node Path Place Disks)
open Files.Disks (SameTree Bare Within FoldersMade Written Renamed)
open Procedure

/-- There is a folder with the files that there were below a place. -/
structure IsCopy (a : Place) (s : Disks) (d : Place) (s' : Disks) : Prop where
  folder : s'.node? d = some .folder
  files : ∀ r, s'.file? (d.down r) = s.file? (a.down r)

theorem IsCopy.trans {a w d : Place} {s s₁ s' : Disks} (h : IsCopy a s w s₁)
    (h' : SameTree w s₁ d s') : IsCopy a s d s' where
  folder := by
    have hroot := h' []
    rw [Place.down_nil, Place.down_nil] at hroot
    exact hroot.trans h.folder
  files r := (h'.file? r).trans (h.files r)

/-! ### Files one by one -/

section

variable {a w : Place} {p : Path} {ps : List Path} {s s₁ s₂ s₃ : Disks} {k : Nat} {o : Options}

/-- Some files below `a` were copied to below `w`. -/
structure FilesCopied (a w : Place) (ps : List Path) (s s' : Disks) : Prop where
  files : ∀ r, s'.file? (w.down r) = if r ∈ ps then s.file? (a.down r) else s.file? (w.down r)
  names : ∀ r, s'.node? (w.down r) ≠ none → s.node? (w.down r) ≠ none ∨ ∃ p ∈ ps, r <+: p
  folder : s.node? w = some .folder → s'.node? w = some .folder
  rest : Within w.Covers w s s'

theorem FilesCopied.nil (a w : Place) (s : Disks) : FilesCopied a w [] s s where
  files r := by simp
  names r h := .inl h
  folder h := h
  rest := .refl _ _ _

theorem FilesCopied.cons (hps : ∀ q ∈ ps, ¬ w.Covers (a.down q)) (h : FilesCopied a w [p] s s₁)
    (h' : FilesCopied a w ps s₁ s₂) : FilesCopied a w (p :: ps) s s₂ := by
  refine ⟨fun r => ?_, fun r hr => ?_, fun hw => h'.folder (h.folder hw), h.rest.trans h'.rest⟩
  · rw [h'.files]
    by_cases hr : r ∈ ps
    · rw [if_pos hr, if_pos (List.mem_cons_of_mem p hr), h.rest.file? (hps r hr)]
    · rw [if_neg hr, h.files]
      simp [hr]
  · rcases h'.names r hr with hr | ⟨q, hq, hrq⟩
    · rcases h.names r hr with hr | ⟨q, hq, hrq⟩
      · exact .inl hr
      · exact .inr ⟨q, List.mem_cons.2 (.inl (List.mem_singleton.1 hq)), hrq⟩
    · exact .inr ⟨q, List.mem_cons_of_mem p hq, hrq⟩

namespace Trial

end Trial

end

/-! ### The work of a copy -/

section

variable {a w d : Place} {s s₁ s₂ : Disks} {k : Nat} {o : Options}

namespace Trial

/-- The work of a copy, once it is known where it is written first. -/
def work (o : Options) (a w d : Place) (files : List (Path × Nat)) : Procedure Unit := do
  file (.makeFolders w)
  copyFiles o a w (files.map Prod.fst)
  replace d.disk w.path d.path

/-- What removing the rest of a copy leaves. -/
structure Discarded (w : Place) (s : Disks) (k : Nat) (t : Trial) : Prop where
  failures : k ≤ t.failures
  rest : ∀ x, ¬ w.Covers x → t.disks.node? x = s.node? x
  gone : t.failures = k → Bare w t.disks

end Trial

end

/-! ### The whole copy -/

/-- The folder to which a copy is written first. -/
def scratchOf (folder : Place) (s : Disks) : Place := folder.down [scratchName (s.lastTag + 1)]

section

variable {a d folder x : Place} {s : Disks} {o : Options} {source destination : String} {n : Nat}

/-- No name on its way is taken. -/
def Tidy (n : Nat) (s : Disks) : Prop := ∀ x, s.node? x ≠ none → Unused n x.path

namespace Trial

end Trial

end

end CatalogReplication.Transfer
