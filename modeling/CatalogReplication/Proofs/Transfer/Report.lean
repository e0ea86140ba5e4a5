import CatalogReplication.Proofs.Task.Decision
import CatalogReplication.Proofs.Transfer.CrashSafety
import CatalogReplication.Proofs.Transfer.Watch

/-!
# How failures of copies and moves are reported

A single call of a copy or a move raises. A failure of storage is reported as one of the transfer,
unless it was raised by a look at the source, and any other failure stays what it is
(`reportOf`). An old tree at the destination is where it was, or the new one is there; but the old
one is left aside if putting it aside took effect and raised nevertheless, or if something other
than a failure of storage was raised when the new tree was to be renamed (`Whereabouts`).
-/

namespace CatalogReplication.Transfer

open Files (Disk Path Place Disks)
open Files.Disks (SameTree Within Renamed FoldersMade)
open Procedure

/-- Whether a call looks at what is to be copied. -/
def looksAtSource : Files.Call → Bool
  | .isFolder _ | .find _ => true
  | _ => false

/-- What a transfer ends with if a call raises. -/
def reportOf (failed : Error) (c : Files.Call) (e : Failure) : Failure :=
  if e.isStorage && !looksAtSource c then .transfer failed else e

/-- Where the tree at `d` is after a call raised. -/
inductive Whereabouts (New : Disks → Prop) (d : Place) (s : Disks) (c : Files.Call) (e : Failure)
    (s' : Disks) : Prop where
  | old (same : SameTree d s d s')
  | new (new : New s')
  | aside {tag : Nat} (new : s.lastTag < tag) (put : SameTree d s (asidePlace d tag) s')
      (cause : c = .rename d.disk d.path (asidePlace d tag).path ∨
        (∃ p, c = .rename d.disk p d.path) ∧ e.isStorage = false)

/-- What a transfer ends with after a call raised, and where the tree at its destination is. -/
structure Reported {α : Type} (failed : Error) (New : Disks → Prop) (d : Place) (s : Disks)
    (c : Files.Call) (e : Failure) (r : Except Failure α) (s' : Disks) : Prop where
  report : r = .error (reportOf failed c e)
  tree : s.node? d ≠ none → Whereabouts New d s c e s'

/-- More calls raised, or a single one raised what work is broken off with. -/
def Watch.Broke (P : Files.Call → Failure → Disks → Prop) (e : Failure) (t : Watch) : Prop :=
  2 ≤ t.raised.length ∨ ∃ c, t.raised = [(c, e)] ∧ P c e t.disks

section

variable {α : Type} {New New' : Disks → Prop} {a d w : Place} {s s' s₁ s₂ : Disks}
  {c : Files.Call} {e : Failure} {disk : Disk} {p q : Path} {tag : Nat} {o : Options}
  {x : Files.Call × Failure}

theorem Whereabouts.mono (h : Whereabouts New d s c e s') (hnew : ∀ {s'}, New s' → New' s') :
    Whereabouts New' d s c e s' := by
  cases h with
  | old hsame => exact .old hsame
  | new h => exact .new (hnew h)
  | aside htag hput hcause => exact .aside htag hput hcause

/-- Elsewhere things changed. -/
theorem Whereabouts.congr (h : Whereabouts New d s c e s₁)
    (haside : ∀ tag, s.lastTag < tag → SameTree (asidePlace d tag) s₁ (asidePlace d tag) s₂)
    (hd : SameTree d s₁ d s₂) (hnew : New s₁ → New s₂) : Whereabouts New d s c e s₂ := by
  cases h with
  | old hsame => exact .old (hsame.trans hd)
  | new h => exact .new (hnew h)
  | @aside tag htag hput hcause => exact .aside htag (hput.trans (haside tag htag)) hcause

namespace Watch

theorem Broke.mono {P Q : Files.Call → Failure → Disks → Prop} {t : Watch} (h : t.Broke P e)
    (hPQ : ∀ c s', P c e s' → Q c e s') : t.Broke Q e :=
  h.imp_right fun ⟨c, hraised, hP⟩ => ⟨c, hraised, hPQ c _ hP⟩

/-- Where the tree at `q` is when it was put aside, if there was one. -/
inductive Cleared (q : Place) (s : Disks) : Option Path → Disks → Prop where
  | nothing {s' : Disks} (bare : s.node? q = none) : Cleared q s none s'
  | moved {s' : Disks} {tag : Nat} (new : s.lastTag < tag)
      (put : Renamed q (asidePlace q tag) s s') : Cleared q s (some (asidePlace q tag).path) s'

end Watch

/-! ### What is reported -/

namespace Watch

end Watch

/-! ### What becomes of it -/

end

/-! ### A single call raises -/

end CatalogReplication.Transfer
