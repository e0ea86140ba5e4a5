import CatalogReplication.Proofs.Files.Disk
import CatalogReplication.Proofs.Program
import CatalogReplication.Transfer.Directory

/-!
# Carrying data with faults

Procedures are tried on disks where any file call may fail without effect, as often as one likes
(`Trial.Answers`). A trial keeps count of the failures. There is one rule for each kind of call; the
parts of the work that change no file go by the rules for their calls, whatever these are. Names for folders on their way are unused if no tag
that is still to be given out makes them (`Unused`).
-/

namespace CatalogReplication.Transfer

open Files (Disk Path Place Disks)
open Procedure

/-! ### Disks and faults -/

/-- Answers a call from the disks. -/
def serve : (c : Call) → Disks → Except Failure c.Answer × Disks
  | .begin _, s => (.ok (), s)
  | .file c, s => s.serve c

/-- Runs a procedure on disks that don't fail. -/
def run {α : Type} (p : Procedure α) (s : Disks) : Except Failure α × Disks :=
  Program.run serve (fun _ s => s) p s

/-- Disks in the course of a trial, and the number of calls that failed so far. -/
structure Trial where
  disks : Disks
  failures : Nat := 0

/-- How many failures there are in an answer. -/
def failuresIn {α : Type} : Except Failure α → Nat
  | .ok _ => 0
  | .error e => if e.isStorage then 1 else 0

namespace Trial

/-- Answers a call from the disks. -/
def serve (c : Call) (t : Trial) : Except Failure c.Answer × Trial :=
  let x := Transfer.serve c t.disks
  (x.1, ⟨x.2, t.failures + failuresIn x.1⟩)

/-- Whether a call goes to a disk. -/
def CanFail : Call → Prop
  | .begin _ => False
  | .file c => c.name? ≠ none

/-- How a call may be answered: from the disks, or by a failure without effect. -/
def Answers (c : Call) (t : Trial) (a : Except Failure c.Answer) (t' : Trial) : Prop :=
  (a = (t.serve c).1 ∧ t' = (t.serve c).2) ∨
    (CanFail c ∧ a = .error .storage ∧ t' = { t with failures := t.failures + 1 })

/-- Whatever fails, the state is as it should be at each call of a procedure, and the result and the
state are as they should be at its end. -/
abbrev Ensures {α : Type} (I : Trial → Prop) (after : Except Failure α → Trial → Prop)
    (p : Procedure α) (t : Trial) : Prop :=
  Program.Ensures Answers (fun _ t => t) (fun _ t => I t) after p t

section

variable {α : Type} {I : Trial → Prop} {after : Except Failure α → Trial → Prop}
  {s : Disks} {k : Nat} {t : Trial}

theorem ensures_begin {part : Step} {f : Unit → Procedure α} (hI : I t)
    (h : Ensures I after (f ()) t) : Ensures I after ((begin part).bind f) t := by
  refine Program.ensures_perform_bind hI (fun a t' ha => ?_) fun e t' ha => ?_
  · obtain ⟨-, rfl⟩ | ⟨hfail, -, -⟩ := ha
    · exact h
    · exact hfail.elim
  · obtain ⟨he, -⟩ | ⟨hfail, -, -⟩ := ha
    · cases he
    · exact hfail.elim

/-- A file call is answered from the disks, or it fails. -/
theorem ensures_file_or {c : Files.Call} {f : c.Answer → Procedure α} (hI : I ⟨s, k⟩)
    (hok : ∀ a s', s.serve c = (.ok a, s') → Ensures I after (f a) ⟨s', k⟩)
    (herr : after (.error .storage) ⟨s, k + 1⟩)
    (hother : ∀ e, (s.serve c).1 = .error e → (∃ p q, c = .copyContent p q false) →
      after (.error e) ⟨s, k + failuresIn (.error e : Except Failure Unit)⟩) :
    Ensures I after ((file c).bind f) ⟨s, k⟩ := by
  refine Program.ensures_perform_bind hI (fun a t' ha => ?_) fun e t' ha => ?_
  · obtain ⟨ha, rfl⟩ | ⟨-, ha, -⟩ := ha
    · have hserve : s.serve c = (.ok a, (s.serve c).2) := Prod.ext ha.symm rfl
      show Ensures I after (f a) ⟨(s.serve c).2, k + failuresIn (s.serve c).1⟩
      rw [hserve]
      exact hok a _ hserve
    · cases ha
  · obtain ⟨ha, rfl⟩ | ⟨-, ha, rfl⟩ := ha
    · have hfailed : (s.serve c).1 = .error e := ha.symm
      obtain ⟨hs, he⟩ := Disks.serve_error hfailed
      show after (.error e) ⟨(s.serve c).2, k + failuresIn (s.serve c).1⟩
      rw [hs, hfailed]
      rcases he with rfl | hc
      · exact herr
      · exact hother e hfailed hc
    · cases ha
      exact herr

/-- A file call other than copying is answered from the disks, or there is one more failure. -/
theorem ensures_file {c : Files.Call} {f : c.Answer → Procedure α} (hI : I ⟨s, k⟩)
    (hok : ∀ a s', s.serve c = (.ok a, s') → Ensures I after (f a) ⟨s', k⟩)
    (herr : after (.error .storage) ⟨s, k + 1⟩)
    (hc : ∀ p q, c ≠ .copyContent p q false := by nofun) :
    Ensures I after ((file c).bind f) ⟨s, k⟩ :=
  ensures_file_or hI hok herr fun _ _ ⟨p, q, h⟩ => absurd h (hc p q)

/-- A tag can always be given out. -/
theorem ensures_freshTag {f : Nat → Procedure α} (hI : I ⟨s, k⟩)
    (h : Ensures I after (f s.tagged.lastTag) ⟨s.tagged, k⟩) :
    Ensures I after ((file .freshTag).bind f) ⟨s, k⟩ := by
  refine Program.ensures_perform_bind hI (fun a t' ha => ?_) fun e t' ha => ?_
  · obtain ⟨ha, rfl⟩ | ⟨hfail, -, -⟩ := ha
    · cases ha
      exact h
    · exact absurd rfl hfail
  · obtain ⟨ha, -⟩ | ⟨hfail, -, -⟩ := ha
    · cases ha
    · exact absurd rfl hfail

end

end Trial

/-! ### Names of folders on their way -/

/-- The place that a setting names. -/
def place? : Value → Option Place
  | .text location => Place.ofLocation? location
  | _ => none

/-- The folder in which a copy to a place is written first. -/
def scratchFolder? (o : Options) (d : Place) : Option Place :=
  match o.scratchRoot with
  | .null => some d.above
  | root => (place? root).filter fun p => isSameDisk o p.disk d.disk

/-- No tag after a number makes one of the names in a path. -/
def Unused (n : Nat) (p : Path) : Prop := ∀ tag, n < tag → scratchName tag ∉ p ∧ asideName tag ∉ p

theorem scratchFolder?_disk {o : Options} {d folder : Place}
    (h : scratchFolder? o d = some folder) : folder.disk = d.disk := by
  unfold scratchFolder? at h
  split at h
  · cases h
    rfl
  · obtain ⟨-, hsame⟩ := Option.filter_eq_some_iff.1 h
    exact eq_of_beq (Bool.and_eq_true_iff.1 hsame).2

namespace Procedure

section

variable {α S : Type} {answers : (c : Call) → S → Except Failure c.Answer → S → Prop}
  {record : Empty → S → S} {before : Call → S → Prop} {after : Except Failure α → S → Prop}
  {s : Disks} {t t' : S} {o : Options}

/-- Finding a place, where a part of the work can be begun. -/
theorem ensures_resolve {location : Value} {f : Place → Procedure α}
    (hbegin : ∀ part (f : Unit → Procedure α), (f ()).Ensures answers record before after t →
      ((begin part).bind f).Ensures answers record before after t)
    (hok : ∀ p, place? location = some p → (f p).Ensures answers record before after t)
    (herr : ∀ e, after (.error e) t) :
    ((resolve o location).bind f).Ensures answers record before after t := by
  unfold resolve
  rw [Program.bind_eq_bind, Program.bind_assoc]
  refine hbegin _ _ ?_
  split
  · split
    · rename_i location
      cases hp : Place.ofLocation? location with
      | none => exact herr _
      | some p => exact hok p hp
    all_goals exact herr _
  · exact herr _

/-- Listing files, where in addition the disks can be looked at. -/
theorem ensures_listing {location : String} {f : Option (List (Path × Nat)) → Procedure α}
    (hbegin : ∀ part (f : Unit → Procedure α), (f ()).Ensures answers record before after t →
      ((begin part).bind f).Ensures answers record before after t)
    (hfolder : ∀ p (f : Bool → Procedure α),
      (f (s.node? p == some .folder)).Ensures answers record before after t →
        ((file (.isFolder p)).bind f).Ensures answers record before after t)
    (hfind : ∀ p (f : List (Path × Nat) → Procedure α),
      (f (s.files p)).Ensures answers record before after t →
        ((file (.find p)).bind f).Ensures answers record before after t)
    (hok : ∀ p, Place.ofLocation? location = some p →
      (f (if s.node? p = some .folder then some (s.files p) else none)).Ensures answers record
        before after t)
    (herr : ∀ e, after (.error e) t) :
    ((listing o location).bind f).Ensures answers record before after t := by
  unfold listing
  simp only [Program.bind_eq_bind, Program.bind_assoc]
  refine hbegin _ _ (ensures_resolve hbegin (fun p hp => hfolder p _ ?_) herr)
  have hnext := hok p hp
  by_cases hisFolder : s.node? p = some .folder
  · rw [if_pos hisFolder] at hnext
    rw [if_pos (beq_iff_eq.2 hisFolder), Program.bind_assoc]
    exact hfind p _ hnext
  · rw [if_neg hisFolder] at hnext
    rw [if_neg fun h => hisFolder (beq_iff_eq.1 h)]
    exact hnext

/-- Choosing where a copy is written first, where in addition a tag can be given out. -/
theorem ensures_scratchPlace {d : Place} {f : Place → Procedure α}
    (hbegin : ∀ part (f : Unit → Procedure α), (f ()).Ensures answers record before after t →
      ((begin part).bind f).Ensures answers record before after t)
    (hbegin' : ∀ part (f : Unit → Procedure α), (f ()).Ensures answers record before after t' →
      ((begin part).bind f).Ensures answers record before after t')
    (htag : ∀ f : Nat → Procedure α,
      (f s.tagged.lastTag).Ensures answers record before after t' →
        ((file .freshTag).bind f).Ensures answers record before after t)
    (hok : ∀ folder, scratchFolder? o d = some folder →
      (f (folder.down [scratchName s.tagged.lastTag])).Ensures answers record before after t')
    (herr : ∀ e, after (.error e) t') :
    ((scratchPlace o d).bind f).Ensures answers record before after t := by
  unfold scratchPlace
  simp only [Program.bind_eq_bind, Program.bind_assoc]
  refine hbegin _ _ (htag _ ?_)
  unfold scratchFolder? at hok
  split
  · rename_i hroot
    rw [hroot] at hok
    exact hok _ rfl
  · rename_i hroot
    rw [Program.bind_assoc]
    refine ensures_resolve hbegin' (fun p hp => ?_) herr
    split
    · rename_i hsame
      refine hok p ?_
      split
      · exact absurd ‹_› hroot
      · rw [hp]
        exact Option.filter_eq_some_iff.2 ⟨rfl, hsame⟩
    · exact herr _

end

end Procedure

namespace Trial

section

variable {α : Type} {I : Trial → Prop} {after : Except Failure α → Trial → Prop}
  {s : Disks} {k : Nat} {t : Trial} {o : Options}

theorem ensures_resolve {location : Value} {f : Place → Procedure α} (hI : I t)
    (hok : ∀ p, place? location = some p → Ensures I after (f p) t)
    (herr : ∀ e, after (.error e) t) :
    Ensures I after ((resolve o location).bind f) t :=
  Procedure.ensures_resolve (fun _ _ => ensures_begin hI) hok herr

theorem ensures_listing {location : String} {f : Option (List (Path × Nat)) → Procedure α}
    (hI : I ⟨s, k⟩)
    (hok : ∀ p, Place.ofLocation? location = some p →
      Ensures I after (f (if s.node? p = some .folder then some (s.files p) else none)) ⟨s, k⟩)
    (herr : ∀ e, after (.error e) ⟨s, k⟩) (hfail : after (.error .storage) ⟨s, k + 1⟩) :
    Ensures I after ((listing o location).bind f) ⟨s, k⟩ := by
  refine Procedure.ensures_listing (fun _ _ => ensures_begin hI) (fun p f hf => ?_)
    (fun p f hf => ?_) hok herr
  · refine ensures_file hI (fun a s' ha => ?_) hfail
    cases ha
    exact hf
  · refine ensures_file hI (fun a s' ha => ?_) hfail
    cases ha
    exact hf

/-- A copy is written first to a folder that is not there yet, unless there is no place for it. -/
theorem ensures_scratchPlace {d : Place} {f : Place → Procedure α} (hI : I ⟨s, k⟩)
    (hI' : I ⟨s.tagged, k⟩)
    (hok : ∀ folder, scratchFolder? o d = some folder →
      Ensures I after (f (folder.down [scratchName s.tagged.lastTag])) ⟨s.tagged, k⟩)
    (herr : ∀ e, after (.error e) ⟨s.tagged, k⟩) :
    Ensures I after ((scratchPlace o d).bind f) ⟨s, k⟩ :=
  Procedure.ensures_scratchPlace (fun _ _ => ensures_begin hI) (fun _ _ => ensures_begin hI')
    (fun _ => ensures_freshTag hI) hok herr

end

end Trial

end CatalogReplication.Transfer
