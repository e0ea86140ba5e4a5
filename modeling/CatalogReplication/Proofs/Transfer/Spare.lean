import CatalogReplication.Proofs.Transfer.Replace

/-!
# Trees that are never touched

A file call spares a place if it writes, moves and removes nothing at or below it (`Call.Spares`). A
procedure spares a place if, wherever it is cut off, the tree there is as it was (`Spares`). Copies
spare what is apart from their destination, unless the scratch folder is chosen inside; moves spare
what is apart from both ends.
-/

namespace CatalogReplication

namespace Files

variable {L p q : Place} {s : Disks}

/-- A call writes, moves and removes nothing at or below a place. -/
def Call.Spares (L : Place) : Call → Prop
  | .makeFolders p | .openWrite p | .copyContent _ p _ => ¬ L.Covers p
  | .rename disk p q => L.Apart ⟨disk, p⟩ ∧ L.Apart ⟨disk, q⟩
  | .remove p => L.Apart p
  | .isFolder _ | .find _ | .holds _ | .openRead _ | .freshTag => True

namespace Disks

theorem sameTree_of_written {c : String} {s' : Disks} (h : Written p c s s')
    (hp : ¬ L.Covers p) : SameTree L s L s' := by
  intro r
  rw [h.node, if_neg]
  rintro rfl
  exact hp (L.covers_down r)

theorem sameTree_of_foldersMade {s' : Disks} (h : FoldersMade p s s') (hp : ¬ L.Covers p) :
    SameTree L s L s' := by
  intro r
  rw [h.node, if_neg]
  exact fun hr => hp ((L.covers_down r).trans hr)

theorem sameTree_of_remove {s' : Disks} (hp : L.Apart p) (h : s.serve (.remove p) = (.ok (), s')) :
    SameTree L s L s' := by
  intro r
  by_cases hnil : p.path = []
  · -- The root of another disk.
    have hdisk : L.disk ≠ p.disk := fun h => hp.2 ⟨h.symm, hnil ▸ List.nil_prefix⟩
    obtain ⟨t, -, rfl⟩ := change_eq_ok_iff.1 h
    exact (node?_withTree t).trans (if_neg hdisk)
  · rw [(serve_remove hnil h).node, if_neg (hp.not_covers (L.covers_down r))]

theorem sameTree_of_renamed {s' : Disks} (h : Renamed p q s s') (hp : L.Apart p)
    (hq : L.Apart q) : SameTree L s L s' := fun r =>
  h.rest _ (hp.not_covers (L.covers_down r)) (hq.not_covers (L.covers_down r))

/-- A call that spares a place leaves its tree as it was. -/
theorem sameTree_serve (hs : s.Sound) {c : Call} (hc : c.Spares L) :
    SameTree L s L (s.serve c).2 := by
  cases hanswer : (s.serve c).1 with
  | error e =>
    rw [(serve_error hanswer).1]
    exact .rfl
  | ok a =>
    have hserve : s.serve c = (.ok a, (s.serve c).2) := Prod.ext hanswer rfl
    generalize (s.serve c).2 = s' at hserve
    cases c with
    | isFolder | find | holds | freshTag =>
      cases hserve
      exact .rfl
    | openRead => exact (serve_openRead hserve).1 ▸ .rfl
    | makeFolders => exact sameTree_of_foldersMade (serve_makeFolders hserve) hc
    | openWrite => exact sameTree_of_written (serve_openWrite hserve) hc
    | copyContent =>
      obtain ⟨_, -, hwritten⟩ := serve_copyContent hserve
      exact sameTree_of_written hwritten hc
    | rename => exact sameTree_of_renamed (serve_rename hs hserve) hc.1 hc.2
    | remove => exact sameTree_of_remove hc hserve

end Disks

end Files

namespace Transfer

open Files (Disk Path Place Disks)
open Files.Disks (SameTree)
open Procedure

/-- The disks came from others on which the tree at a place was the same. -/
structure Spared (L : Place) (s : Disks) (t : Trial) : Prop where
  sound : t.disks.Sound
  lastTag : s.lastTag ≤ t.disks.lastTag
  same : SameTree L s L t.disks

/-- Whatever fails, the tree at a place is as it was at each call of a procedure and at its end. -/
def Spares {α : Type} (L : Place) (s : Disks) (p : Procedure α) : Prop :=
  ∀ t, Spared L s t → Trial.Ensures (Spared L s) (fun _ => Spared L s) p t

section

variable {L d p w folder : Place} {s : Disks} {α β : Type} {o : Options}

/-! ### Rules -/

theorem Spares.bind {p : Procedure α} {f : α → Procedure β} (hp : Spares L s p)
    (hf : ∀ a, Spares L s (f a)) : Spares L s (p.bind f) := fun t ht =>
  Program.Ensures.bind (hp t ht) (fun a t' ht' => hf a t' ht') fun _ _ ht' => ht'

theorem Spares.recover {p : Procedure α} {f : Failure → Procedure α} (hp : Spares L s p)
    (hf : ∀ e, Spares L s (f e)) : Spares L s (p.recover f) := fun t ht =>
  Program.Ensures.recover (hp t ht) (fun _ _ ht' => ht') fun e t' ht' => hf e t' ht'

theorem spares_done (a : α) : Spares L s (.done a) := fun _ ht => ht

theorem spares_fail (e : Failure) : Spares L s (.fail e : Procedure α) := fun _ ht => ht

theorem spares_begin (part : Step) : Spares L s (begin part) := by
  intro t ht
  rw [← Program.bind_done (begin part)]
  exact Trial.ensures_begin ht ht

/-- What a call leaves that spares a place. -/
theorem Spared.serve {t : Trial} (ht : Spared L s t) {c : Files.Call} (hc : c.Spares L) (k : Nat) :
    Spared L s ⟨(t.disks.serve c).2, k⟩ where
  sound := ht.sound.serve c
  lastTag := ht.lastTag.trans (Disks.lastTag_le_serve c)
  same := ht.same.trans (Disks.sameTree_serve ht.sound hc)

theorem spares_file {c : Files.Call} (hc : c.Spares L) : Spares L s (file c) := by
  rintro ⟨disks, k⟩ ht
  have hfailed : ∀ k', Spared L s ⟨disks, k'⟩ := fun _ => ⟨ht.sound, ht.lastTag, ht.same⟩
  rw [← Program.bind_done (file c)]
  refine Trial.ensures_file_or ht (fun a s' hserve => ?_) (hfailed _) fun _ _ _ => hfailed _
  have hserved := ht.serve hc k
  rwa [show (disks.serve c).2 = s' from congrArg Prod.snd hserve] at hserved

/-- A tag that is given out was not in use. -/
theorem spares_freshTag {f : Nat → Procedure α} (hf : ∀ tag, s.lastTag < tag → Spares L s (f tag)) :
    Spares L s ((file .freshTag).bind f) := by
  rintro ⟨disks, k⟩ ht
  refine Trial.ensures_freshTag ht ?_
  exact hf _ (Nat.lt_succ_of_le ht.lastTag) _ (ht.serve (c := .freshTag) trivial k)

theorem spares_resolve (location : Value) {f : Place → Procedure α}
    (hf : ∀ p, place? location = some p → Spares L s (f p)) :
    Spares L s ((resolve o location).bind f) := fun t ht =>
  Trial.ensures_resolve ht (fun p hp => hf p hp t ht) fun _ => ht

theorem spares_listing (location : String) : Spares L s (listing o location) := by
  refine (spares_begin _).bind fun _ => spares_resolve _ fun p _ => ?_
  refine (spares_file (by exact trivial)).bind fun isFolder => ?_
  split
  · exact (spares_file (by exact trivial)).bind fun files => spares_done _
  · exact spares_done _

/-! ### Parts of the work -/

/-- Nothing is made at or below a place apart from where files go. -/
theorem not_covers_down (h : L.Apart w) (r : Path) : ¬ L.Covers (w.down r) := fun hL =>
  (hL.total (w.covers_down r)).elim h.1 h.2

theorem spares_copyFiles (a : Place) (h : L.Apart w) (ps : List Path) :
    Spares L s (copyFiles o a w ps) := by
  induction ps with
  | nil => exact spares_done ()
  | cons p ps ih =>
    have hnot := not_covers_down h p
    have hfolder : ¬ L.Covers (w.down p).above := fun hL => hnot (hL.trans (Place.above_covers _))
    refine (spares_file (c := .makeFolders (w.down p).above) hfolder).bind fun _ => ?_
    refine (spares_file (by exact trivial)).bind fun _ => ?_
    refine (spares_file (c := .openWrite (w.down p)) hnot).bind fun _ => ?_
    exact (spares_file (c := .copyContent _ (w.down p) _) hnot).bind fun _ => ih

variable {disk : Disk} {q : Path}

theorem spares_putAside {f : Option Path → Procedure α} (hq : L.Apart ⟨disk, q⟩)
    (hL : Unused s.lastTag L.path) (hnone : Spares L s (f none))
    (hsome : ∀ tag, L.Apart (asidePlace ⟨disk, q⟩ tag) →
      Spares L s (f (some (asidePlace ⟨disk, q⟩ tag).path))) :
    Spares L s ((putAside disk q).bind f) := by
  unfold putAside
  simp only [Program.bind_eq_bind, Program.bind_assoc]
  refine (spares_file (by exact trivial)).bind fun held => ?_
  split
  · simp only [Program.bind_assoc, Program.pure_eq_done, Program.done_bind]
    refine spares_freshTag fun tag htag => ?_
    have haside : L.Apart (asidePlace ⟨disk, q⟩ tag) := apart_asidePlace (hL tag htag).2 hq.1
    exact (spares_file (c := .rename disk q _) ⟨hq, haside⟩).bind fun _ => hsome tag haside
  · split
    · exact hnone
    · have hnot : ¬ L.Covers (Place.above ⟨disk, q⟩) := fun h =>
        hq.1 (h.trans (Place.above_covers _))
      simp only [Program.bind_assoc, Program.pure_eq_done, Program.done_bind]
      exact (spares_file (c := .makeFolders (Place.above ⟨disk, q⟩)) hnot).bind fun _ => hnone

theorem spares_putBack (hq : L.Apart ⟨disk, q⟩) {aside : Path} (ha : L.Apart ⟨disk, aside⟩) :
    Spares L s (putBack disk q (some aside)) := by
  unfold putBack
  have hback : Spares L s (file (.rename disk aside q)) := spares_file ⟨ha, hq⟩
  refine (spares_file (by exact trivial)).bind fun held => ?_
  split
  · exact (spares_file (c := .remove ⟨disk, q⟩) hq).bind fun _ => hback
  · exact hback

/-- Replacing a tree spares what is apart from both its places. -/
theorem spares_replace {p : Path} (hp : L.Apart ⟨disk, p⟩) (hq : L.Apart ⟨disk, q⟩)
    (hL : Unused s.lastTag L.path) : Spares L s (replace disk p q) := by
  have hmove : Spares L s (file (.rename disk p q)) := spares_file ⟨hp, hq⟩
  unfold replace
  refine (spares_begin _).bind fun _ => spares_putAside hq hL ?_ fun tag ha => ?_
  · refine (hmove.recover fun e => ?_).bind fun _ => spares_done ()
    split
    · exact (spares_done ()).bind fun _ => spares_fail e
    · exact spares_fail e
  · refine (hmove.recover fun e => ?_).bind fun _ => spares_file ha
    split
    · exact (spares_putBack hq ha).bind fun _ => spares_fail e
    · exact spares_fail e

theorem spares_discard (h : L.Apart w) : Spares L s (discard w) := by
  unfold discard
  refine (spares_file (by exact trivial)).bind fun held => ?_
  split
  · exact spares_file (c := .remove w) h
  · exact spares_done ()

theorem spares_scratchPlace {f : Place → Procedure α} (hL : Unused s.lastTag L.path)
    (hfolder : ∀ folder, scratchFolder? o d = some folder → ¬ L.Covers folder)
    (hf : ∀ w, w.disk = d.disk → L.Apart w → Spares L s (f w)) :
    Spares L s ((scratchPlace o d).bind f) := by
  rintro ⟨disks, k⟩ ht
  have ht' : Spared L s ⟨disks.tagged, k⟩ := ht.serve (c := .freshTag) trivial k
  refine Trial.ensures_scratchPlace ht ht' (fun folder hfound => ?_) fun _ => ht'
  have hname := (hL _ (Nat.lt_succ_of_le ht.lastTag)).1
  have hw := Place.apart_down_singleton hname (hfolder folder hfound)
  exact hf (folder.down _) (scratchFolder?_disk hfound : folder.disk = d.disk) hw _ ht'

end

/-! ### Whole procedures -/

section

variable {L : Place} {s : Disks} {o : Options} {source destination : String}

/-- A copy spares what is apart from its destination, if the scratch folder is not inside. -/
theorem spares_copy (hL : Unused s.lastTag L.path)
    (hd : ∀ d, Place.ofLocation? destination = some d → L.Apart d)
    (hfolder : ∀ d folder, Place.ofLocation? destination = some d →
      scratchFolder? o d = some folder → ¬ L.Covers folder) :
    Spares L s (copy o source destination) := by
  unfold copy
  refine spares_resolve _ fun a _ => spares_resolve _ fun d hd' => ?_
  refine (spares_listing source).bind fun files => ?_
  split
  · exact spares_fail _
  · refine spares_scratchPlace hL (hfolder d · hd') fun w hdisk hw => ?_
    have hreplace : Spares L s (replace d.disk w.path d.path) := by
      rw [← hdisk]
      have hd := hd d hd'
      obtain ⟨disk, path⟩ := d
      obtain rfl : w.disk = disk := hdisk
      exact spares_replace hw hd hL
    refine Spares.bind (Spares.recover ?_ fun e => ?_) fun _ => spares_done _
    · have hmade : ¬ L.Covers w := hw.1
      refine (spares_file (c := .makeFolders w) hmade).bind fun _ => ?_
      exact (spares_copyFiles a hw _).bind fun _ => hreplace
    · split
      · exact (spares_discard hw).bind fun _ => spares_fail _
      · exact spares_fail _

/-- A move spares what is apart from both its places. -/
theorem spares_move (hL : Unused s.lastTag L.path)
    (ha : ∀ a, Place.ofLocation? source = some a → L.Apart a)
    (hd : ∀ d, Place.ofLocation? destination = some d → L.Apart d) :
    Spares L s (move o source destination) := by
  unfold move
  refine spares_resolve _ fun a ha' => spares_resolve _ fun d hd' => ?_
  split
  · rename_i hsame
    have hdisk : a.disk = d.disk := eq_of_beq (Bool.and_eq_true_iff.1 hsame).2
    have ha := ha a ha'
    have hreplace : Spares L s (replace d.disk a.path d.path) := by
      obtain ⟨disk, path⟩ := a
      obtain rfl : disk = d.disk := hdisk
      exact spares_replace ha (hd d hd') hL
    refine hreplace.recover fun e => ?_
    split
    · exact spares_fail _
    · exact spares_fail _
  · exact spares_fail _

theorem spares_present (location : String) : Spares L s (present o location) := by
  unfold present
  exact spares_resolve _ fun p _ => spares_file (c := .isFolder p) trivial

theorem spares_equal (a b : String) : Spares L s (equal o a b) := by
  unfold equal
  refine (spares_listing a).bind fun files => ?_
  split
  · exact spares_done _
  · exact (spares_listing b).bind fun _ => spares_done _

end

end Transfer

end CatalogReplication
