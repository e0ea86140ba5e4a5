import CatalogReplication.Proofs.Transfer.Copy

/-!
# Carrying data while calls raise

Procedures on disks where any file call may raise any failure, after it did nothing, all or a part
of its work (`Leaves`); only trees are renamed as a whole. What was raised is put down (`Watch`), so
that one can speak of the runs in which a single call raises (`Once`). There is one rule for each
kind of call.
-/

namespace CatalogReplication.Transfer

open Files (Disk Path Place Disks)
open Files.Disks (SameTree Within Renamed FoldersMade)
open Procedure

/-- What a call may leave that raises. -/
def Leaves (s s' : Disks) : Files.Call → Prop
  | .makeFolders p => Within (fun _ => False) p s s'
  | .openWrite p | .copyContent _ p _ | .remove p => ∀ x, ¬ p.Covers x → s'.node? x = s.node? x
  | .rename disk p q => s' = s ∨ s.serve (.rename disk p q) = (.ok (), s')
  | .isFolder _ | .find _ | .holds _ | .openRead _ | .freshTag => s' = s

/-- Disks in the course of a procedure, and what the calls raised so far. -/
structure Watch where
  disks : Disks
  raised : List (Files.Call × Failure) := []

namespace Watch

/-- How a call may be answered. -/
inductive Answers : (c : Call) → Watch → Except Failure c.Answer → Watch → Prop where
  | begun {part : Step} {t : Watch} : Answers (.begin part) t (.ok ()) t
  | served {c : Files.Call} {v : c.Answer} {t : Watch} {s' : Disks}
      (h : t.disks.serve c = (.ok v, s')) : Answers (.file c) t (.ok v) { t with disks := s' }
  | raised {c : Files.Call} {e : Failure} {t : Watch} {s' : Disks} (hc : c ≠ .freshTag)
      (h : Leaves t.disks s' c) : Answers (.file c) t (.error e) ⟨s', t.raised ++ [(c, e)]⟩

/-- Whatever is raised, the result and the state at the end of a procedure are as they should be. -/
abbrev Ensures {α : Type} (after : Except Failure α → Watch → Prop) (p : Procedure α)
    (t : Watch) : Prop :=
  Program.Ensures Answers (fun _ t => t) (fun _ _ => True) after p t

/-- What is left when a call raises without doing anything. -/
def raise (c : Files.Call) (e : Failure) (t : Watch) : Watch :=
  { t with raised := t.raised ++ [(c, e)] }

/-- Answers a file call from the disks, unless it is to raise. -/
def serveFile (raises : Files.Call → Option Failure) (c : Files.Call) (t : Watch) :
    Except Failure c.Answer × Watch :=
  match raises c with
  | some e => (.error e, t.raise c e)
  | none =>
    match t.disks.serve c with
    | (.ok v, s') => (.ok v, { t with disks := s' })
    | (.error e, _) => (.error e, t.raise c e)

/-- Answers a call from the disks, unless it is to raise. -/
def serve (raises : Files.Call → Option Failure) :
    (c : Call) → Watch → Except Failure c.Answer × Watch
  | .begin _, t => (.ok (), t)
  | .file c, t => t.serveFile raises c

/-- Runs a procedure on disks where some calls raise. -/
def run {α : Type} (raises : Files.Call → Option Failure) (p : Procedure α) (s : Disks) :
    Except Failure α × Watch :=
  p.run (serve raises) (fun _ t => t) { disks := s }

section

variable {α : Type} {after : Except Failure α → Watch → Prop} {s : Disks}
  {l : List (Files.Call × Failure)} {t : Watch} {o : Options}

theorem ensures_begin {part : Step} {f : Unit → Procedure α} (h : Ensures after (f ()) t) :
    Ensures after ((begin part).bind f) t := by
  refine Program.ensures_perform_bind trivial (fun a t' ha => ?_) fun e t' ha => ?_
  · cases ha
    exact h
  · cases ha

/-- A call that is served or raises. -/
theorem ensures_file {c : Files.Call} {f : c.Answer → Procedure α}
    (hok : ∀ a s', s.serve c = (.ok a, s') → Ensures after (f a) ⟨s', l⟩)
    (herr : ∀ e s', Leaves s s' c → after (.error e) ⟨s', l ++ [(c, e)]⟩) :
    Ensures after ((file c).bind f) ⟨s, l⟩ := by
  refine Program.ensures_perform_bind trivial (fun a t' ha => ?_) fun e t' ha => ?_
  · cases ha with
    | served h => exact hok a _ h
  · cases ha with
    | raised _ h => exact herr e _ h

/-- Giving out a tag never raises. -/
theorem ensures_freshTag {f : Nat → Procedure α}
    (h : Ensures after (f s.tagged.lastTag) ⟨s.tagged, l⟩) :
    Ensures after ((file .freshTag).bind f) ⟨s, l⟩ := by
  refine Program.ensures_perform_bind trivial (fun a t' ha => ?_) fun e t' ha => ?_
  · cases ha with
    | served hserve =>
      cases hserve
      exact h
  · cases ha with
    | raised hc _ => exact absurd rfl hc

theorem ensures_resolve {location : Value} {f : Place → Procedure α}
    (hok : ∀ p, place? location = some p → Ensures after (f p) t)
    (herr : ∀ e, after (.error e) t) : Ensures after ((resolve o location).bind f) t :=
  Procedure.ensures_resolve (fun _ _ => ensures_begin) hok herr

theorem ensures_listing {location : String} {f : Option (List (Path × Nat)) → Procedure α}
    (hok : ∀ p, Place.ofLocation? location = some p →
      Ensures after (f (if s.node? p = some .folder then some (s.files p) else none)) ⟨s, l⟩)
    (herr : ∀ e, after (.error e) ⟨s, l⟩)
    (hfolder : ∀ p e, after (.error e) ⟨s, l ++ [(.isFolder p, e)]⟩)
    (hfind : ∀ p e, after (.error e) ⟨s, l ++ [(.find p, e)]⟩) :
    Ensures after ((listing o location).bind f) ⟨s, l⟩ := by
  refine Procedure.ensures_listing (fun _ _ => ensures_begin) (fun p f hf => ?_)
    (fun p f hf => ?_) hok herr
  · refine ensures_file (fun a s' ha => ?_) fun e s' hs' => ?_
    · cases ha
      exact hf
    · obtain rfl : s' = s := hs'
      exact hfolder p e
  · refine ensures_file (fun a s' ha => ?_) fun e s' hs' => ?_
    · cases ha
      exact hf
    · obtain rfl : s' = s := hs'
      exact hfind p e

theorem ensures_scratchPlace {d : Place} {f : Place → Procedure α}
    (hok : ∀ folder, scratchFolder? o d = some folder →
      Ensures after (f (scratchOf folder s)) ⟨s.tagged, l⟩)
    (herr : ∀ e, after (.error e) ⟨s.tagged, l⟩) :
    Ensures after ((scratchPlace o d).bind f) ⟨s, l⟩ :=
  Procedure.ensures_scratchPlace (fun _ _ => ensures_begin) (fun _ _ => ensures_begin)
    (fun _ => ensures_freshTag) hok herr

end

end Watch

end CatalogReplication.Transfer
