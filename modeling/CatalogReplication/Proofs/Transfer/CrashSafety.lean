import CatalogReplication.Proofs.Transfer.Copy
import CatalogReplication.Proofs.Transfer.Spare

/-!
# Crash safety of copies and moves

Any file calls of a copy or a move may fail. Success means that the whole new tree is in place and
nothing is left over; otherwise the old tree is in place or aside, or the new one is in place; after
a single failure there is all of the old tree or all of the new one (`Outcome`). `crash_safe` says
this of both, and that a copy leaves its source alone throughout.

How a copy or a move ends is known from `CopyEnd` and `Replaced`. What is left to do is to follow
the destination through the removal of the scratch folder (`Standing`), and to see that nothing else
has one of the names of folders on their way.
-/

namespace CatalogReplication.Transfer

open Files (Disk Path Place Disks)
open Files.Disks (SameTree Bare Within)

/-! ### What is assumed and what is promised -/

/-- No copy is on its way. -/
def NoScratch (n : Nat) (s : Disks) : Prop :=
  ∀ x, s.node? x ≠ none → ∀ tag, n < tag → scratchName tag ∉ x.path

/-- How things stand with a destination `d` after a transfer that was to make `New` true. -/
structure Outcome {α : Type} (d : Place) (s : Disks) (New : Disks → Prop) (r : Except Failure α)
    (t : Trial) : Prop where
  /-- Success means that the new tree is in place and nothing is left over. -/
  complete : ∀ n, r = .ok n → New t.disks ∧ Tidy s.lastTag t.disks
  /-- An old tree is in place or aside, unless the new one is in place. -/
  retained : s.node? d ≠ none → SameTree d s d t.disks ∨
    (∃ tag, s.lastTag < tag ∧ SameTree d s (asidePlace d tag) t.disks) ∨ New t.disks
  /-- After a single failure there is all of the old tree or all of the new one. -/
  atomic : t.failures = 1 → (SameTree d s d t.disks ∧ Tidy s.lastTag t.disks) ∨
    (New t.disks ∧ NoScratch s.lastTag t.disks)

section

variable {o : Options} {source destination : String} {s s' s₂ : Disks} {a d w folder x : Place}
  {n k : Nat} {t t₁ : Trial} {touched : Place → Prop}

theorem Unused.append {p q : Path} (hp : Unused n p) (hq : Unused n q) : Unused n (p ++ q) := by
  intro tag htag
  simp only [List.mem_append, not_or]
  exact ⟨⟨(hp tag htag).1, (hq tag htag).1⟩, (hp tag htag).2, (hq tag htag).2⟩

/-- How things stand at the destination when the work of a copy is broken off. -/
inductive Standing (a w d : Place) (s : Disks) (t : Trial) : Prop where
  | old (failed : 0 < t.failures) (same : SameTree d s d t.disks)
      (tidy : ∀ x, ¬ w.Covers x → t.disks.node? x ≠ none → Unused s.lastTag x.path)
  | aside {tag : Nat} (failed : 1 < t.failures) (new : s.lastTag < tag)
      (apart : w.Apart (asidePlace d tag)) (put : SameTree d s (asidePlace d tag) t.disks)
  | new (failed : 0 < t.failures) (copied : IsCopy a s d t.disks)
      (noScratch : ∀ x, ¬ w.Covers x → t.disks.node? x ≠ none →
        ∀ tag, s.lastTag < tag → scratchName tag ∉ x.path)

/-- A place apart from the scratch folder doesn't change when that is removed. -/
theorem Trial.Discarded.sameTree {p : Place} (h : Trial.Discarded w s k t) (hp : w.Apart p)
    {q : Place} (hq : SameTree q s' p s) : SameTree q s' p t.disks := fun r =>
  (h.rest _ (hp.symm.not_covers (p.covers_down r))).trans (hq r)

/-- How things stand when the rest of a copy was removed. -/
theorem Standing.outcome {α : Type} {e : Failure} (hd : w.Apart d) (h : Standing a w d s t₁)
    (hdiscard : Trial.Discarded w t₁.disks t₁.failures t) :
    Outcome d s (IsCopy a s d) (.error e : Except Failure α) t := by
  have hle := hdiscard.failures
  -- What is held after the removal was held before, outside the scratch folder.
  have hheld : t.failures = t₁.failures → ∀ x, t.disks.node? x ≠ none →
      ¬ w.Covers x ∧ t₁.disks.node? x ≠ none := by
    intro hfailures x hx
    have hnot : ¬ w.Covers x := by
      intro hcovers
      obtain ⟨r, rfl⟩ := Place.covers_iff.1 hcovers
      exact hx (hdiscard.gone hfailures r)
    exact ⟨hnot, hdiscard.rest x hnot ▸ hx⟩
  cases h with
  | old hk hsame htidy =>
    have hold := hdiscard.sameTree hd hsame
    refine ⟨nofun, fun _ => .inl hold, fun hone => .inl ⟨hold, fun x hx => ?_⟩⟩
    obtain ⟨hnot, hx⟩ := hheld (by omega) x hx
    exact htidy x hnot hx
  | aside hk hnew hapart hput =>
    refine ⟨nofun, fun _ => .inr (.inl ⟨_, hnew, hdiscard.sameTree hapart hput⟩), fun hone => ?_⟩
    omega
  | new hk hcopied hnoScratch =>
    have hcopied' := hcopied.trans (hdiscard.sameTree hd .rfl)
    refine ⟨nofun, fun _ => .inr (.inr hcopied'), fun hone => .inr ⟨hcopied', fun x hx => ?_⟩⟩
    obtain ⟨hnot, hx⟩ := hheld (by omega) x hx
    exact hnoScratch x hnot hx

end

/-! ### A tree that replaces another -/

end CatalogReplication.Transfer
