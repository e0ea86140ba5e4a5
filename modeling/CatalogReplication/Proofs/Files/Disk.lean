import CatalogReplication.Files.Disk
import CatalogReplication.Proofs.Files.Tree

/-!
# What file calls do to the disks

The disks are told by what is at each place (`Disks.node?`). A place covers those at and below it,
and two places are apart if neither covers the other. Each call that changes the disks is told by
what is at the places afterwards (`FoldersMade`, `Written`, `Removed`, `Renamed`). A call that is
answered by an error changes nothing (`serve_error`), and none makes the disks unsound
(`Sound.serve`).
-/

namespace CatalogReplication.Files

/-! ### Places -/

namespace Place

/-- The place to which a path leads from another. -/
def down (p : Place) (r : Path) : Place := { p with path := p.path ++ r }

/-- The folder that a place is in; the root is in itself. -/
def above (p : Place) : Place := { p with path := p.path.dropLast }

/-- The second place is at or below the first. -/
def Covers (p q : Place) : Prop := p.disk = q.disk ∧ p.path <+: q.path

instance (p q : Place) : Decidable (p.Covers q) := inferInstanceAs (Decidable (_ ∧ _))

/-- Neither place is at or below the other. -/
def Apart (p q : Place) : Prop := ¬ p.Covers q ∧ ¬ q.Covers p

instance (p q : Place) : Decidable (p.Apart q) := inferInstanceAs (Decidable (_ ∧ _))

variable {p q x : Place} {r : Path}

@[simp] theorem path_down (p : Place) (r : Path) : (p.down r).path = p.path ++ r := rfl

@[simp] theorem path_above (p : Place) : p.above.path = p.path.dropLast := rfl

@[simp] theorem down_nil (p : Place) : p.down [] = p := by
  unfold down
  rw [List.append_nil]

theorem covers_iff : p.Covers q ↔ ∃ r, q = p.down r := by
  constructor
  · rintro ⟨hdisk, r, hr⟩
    exact ⟨r, by unfold down; rw [hr, hdisk]⟩
  · rintro ⟨r, rfl⟩
    exact ⟨rfl, List.prefix_append p.path r⟩

theorem covers_rfl : p.Covers p := ⟨rfl, List.prefix_rfl⟩

theorem covers_down (p : Place) (r : Path) : p.Covers (p.down r) := covers_iff.2 ⟨r, rfl⟩

theorem Covers.trans (h : p.Covers q) (h' : q.Covers x) : p.Covers x :=
  ⟨h.1.trans h'.1, h.2.trans h'.2⟩

/-- Of two places that cover a third, one covers the other. -/
theorem Covers.total (h : p.Covers x) (h' : q.Covers x) : p.Covers q ∨ q.Covers p :=
  (List.prefix_or_prefix_of_prefix h.2 h'.2).imp (⟨h.1.trans h'.1.symm, ·⟩)
    (⟨h'.1.trans h.1.symm, ·⟩)

/-- The places that cover a place in a folder are that place and those that cover the folder. -/
theorem covers_down_singleton_iff {name : String} :
    q.Covers (p.down [name]) ↔ q = p.down [name] ∨ q.Covers p := by
  constructor
  · rintro ⟨hdisk, hpath⟩
    rcases List.prefix_concat_iff.1 hpath with hpath | hpath
    · exact .inl (by obtain ⟨disk, path⟩ := q; obtain rfl := hdisk; obtain rfl := hpath; rfl)
    · exact .inr ⟨hdisk, hpath⟩
  · rintro (rfl | h)
    · exact covers_rfl
    · exact h.trans (covers_down p [name])

theorem above_covers (p : Place) : p.above.Covers p := ⟨rfl, List.dropLast_prefix _⟩

theorem Apart.symm (h : p.Apart q) : q.Apart p := ⟨h.2, h.1⟩

/-- A new name in a folder that is not inside a place is apart from it. -/
theorem apart_down_singleton {name : String} (hname : name ∉ p.path) (h : ¬ p.Covers q) :
    p.Apart (q.down [name]) := by
  refine ⟨fun hp => ?_, fun hp => hname (hp.2.subset (by simp [down]))⟩
  rcases covers_down_singleton_iff.1 hp with rfl | hp
  · exact hname (by simp [down])
  · exact h hp

/-- What one of two places apart covers is not covered by the other. -/
theorem Apart.not_covers (h : p.Apart q) (hx : p.Covers x) : ¬ q.Covers x := fun hq =>
  (hx.total hq).elim h.1 h.2

end Place

namespace Disks

variable {p q x : Place} {s s' : Disks} {disk : Disk}

/-- What is at a place. -/
def node? (p : Place) (s : Disks) : Option Node := (s.tree p.disk).node? p.path

/-- What is at a place, if that is a file. -/
def file? (p : Place) (s : Disks) : Option Node := (s.node? p).filter (· != .folder)

/-- The disks after a tag was given out. -/
def tagged (s : Disks) : Disks := { s with lastTag := s.lastTag + 1 }

@[simp] theorem node?_tagged (p : Place) (s : Disks) : s.tagged.node? p = s.node? p := rfl

@[simp] theorem lastTag_tagged (s : Disks) : s.tagged.lastTag = s.lastTag + 1 := rfl

/-- The trees of all disks are sound. -/
def Sound (s : Disks) : Prop := ∀ disk, (s.tree disk).Sound

theorem file?_congr (h : s'.node? q = s.node? p) : s'.file? q = s.file? p := by
  unfold file?
  rw [h]

theorem file?_of_none_or_folder (h : s.node? p = none ∨ s.node? p = some .folder) :
    s.file? p = none := by
  unfold file?
  rcases h with h | h <;> rw [h] <;> rfl

/-- Below nothing there is nothing. -/
theorem Sound.none_below (hs : s.Sound) (h : s.node? p = none) (hx : p.Covers x) :
    s.node? x = none := by
  unfold node? at h ⊢
  rw [← hx.1]
  exact (hs p.disk).none_below h hx.2

theorem Sound.tagged (hs : s.Sound) : s.tagged.Sound := hs

/-! ### Trees of disks -/

theorem tree_withTree (disk disk' : Disk) (t : Tree) (s : Disks) :
    (s.withTree disk t).tree disk' = if disk' = disk then t else s.tree disk' := by
  cases disk <;> cases disk' <;> rfl

theorem node?_withTree (t : Tree) :
    (s.withTree disk t).node? x = if x.disk = disk then t.node? x.path else s.node? x := by
  unfold node?
  rw [tree_withTree]
  split <;> rfl

@[simp] theorem lastTag_withTree (disk : Disk) (t : Tree) (s : Disks) :
    (s.withTree disk t).lastTag = s.lastTag := by
  cases disk <;> rfl

theorem Sound.withTree {t : Tree} (hs : s.Sound) (ht : t.Sound) : (s.withTree disk t).Sound := by
  intro disk'
  rw [tree_withTree]
  split
  · exact ht
  · exact hs disk'

theorem change_eq_ok_iff {f : Tree → Option Tree} :
    s.change disk f = (.ok (), s') ↔ ∃ t, f (s.tree disk) = some t ∧ s' = s.withTree disk t := by
  unfold change
  cases f (s.tree disk) <;> simp [eq_comm]

/-- What a change of a tree keeps in all sound trees, a change of a disk keeps. -/
theorem Sound.change {f : Tree → Option Tree} (hs : s.Sound)
    (hf : ∀ {t t'}, t.Sound → f t = some t' → t'.Sound) : (s.change disk f).2.Sound := by
  unfold Disks.change
  split
  · exact hs.withTree (hf (hs disk) ‹_›)
  · exact hs

theorem lastTag_change (f : Tree → Option Tree) : (s.change disk f).2.lastTag = s.lastTag := by
  unfold change
  split
  · exact lastTag_withTree _ _ _
  · rfl

theorem change_eq_error {f : Tree → Option Tree} {e : Failure}
    (h : (s.change disk f).1 = .error e) : (s.change disk f).2 = s ∧ e = .storage := by
  unfold change at h ⊢
  split at h
  · cases h
  · cases h
    exact ⟨rfl, rfl⟩

/-! ### Contents -/

/-- The content of the file at a place. -/
def content? (p : Place) (s : Disks) : Option String := (s.tree p.disk).content? p.path

theorem content?_eq_some_iff {c : String} :
    s.content? p = some c ↔ s.node? p = some (.file c) := by
  unfold content? Tree.content? node?
  split <;> simp_all

theorem serve_openRead_eq (p : Place) (s : Disks) : s.serve (.openRead p) =
    (if (s.content? p).isSome then .ok () else .error .storage, s) := rfl

theorem serve_copyContent_of_some {c : String} (h : s.content? p = some c) (q : Place) :
    s.serve (.copyContent p q true) = s.change q.disk (Tree.write q.path c) := by
  unfold content? at h
  simp only [serve, h]

theorem serve_copyContent_of_none (h : s.content? p = none) (q : Place) :
    s.serve (.copyContent p q true) = (.error .storage, s) := by
  unfold content? at h
  simp only [serve, h]

/-! ### All calls -/

/-- A call that is answered by an error changes nothing, and the error is one of storage, unless
a file should be copied in blocks without a size. -/
theorem serve_error {c : Call} {e : Failure} (h : (s.serve c).1 = .error e) :
    (s.serve c).2 = s ∧ (e = .storage ∨ ∃ p q, c = .copyContent p q false) := by
  cases c with
  | isFolder | find | holds | freshTag => cases h
  | makeFolders | openWrite | rename | remove =>
    obtain ⟨hs, he⟩ := change_eq_error h
    exact ⟨hs, .inl he⟩
  | openRead p =>
    rw [serve_openRead_eq] at h
    simp only at h
    split at h <;> cases h
    exact ⟨rfl, .inl rfl⟩
  | copyContent p q hasBlocks =>
    cases hasBlocks with
    | false => exact ⟨rfl, .inr ⟨p, q, rfl⟩⟩
    | true =>
      cases hc : s.content? p with
      | none =>
        rw [serve_copyContent_of_none hc] at h ⊢
        cases h
        exact ⟨rfl, .inl rfl⟩
      | some c =>
        rw [serve_copyContent_of_some hc] at h ⊢
        obtain ⟨hs, he⟩ := change_eq_error h
        exact ⟨hs, .inl he⟩

/-- No call makes the disks unsound. -/
theorem Sound.serve (hs : s.Sound) (c : Call) : (s.serve c).2.Sound := by
  cases c with
  | isFolder | find | holds | openRead | freshTag => exact hs
  | makeFolders => exact hs.change Tree.Sound.makeFolders
  | openWrite => exact hs.change Tree.Sound.write
  | rename => exact hs.change Tree.Sound.rename
  | remove => exact hs.change Tree.Sound.remove
  | copyContent p q hasBlocks =>
    cases hasBlocks with
    | false => exact hs
    | true =>
      cases hc : s.content? p with
      | none => rwa [serve_copyContent_of_none hc]
      | some c =>
        rw [serve_copyContent_of_some hc]
        exact hs.change Tree.Sound.write

/-- Tags are given out in order. -/
theorem lastTag_le_serve (c : Call) : s.lastTag ≤ (s.serve c).2.lastTag := by
  cases c with
  | isFolder | find | holds | openRead => exact le_rfl
  | freshTag => exact Nat.le_succ _
  | makeFolders | openWrite | rename | remove => exact (lastTag_change _).ge
  | copyContent p q hasBlocks =>
    cases hasBlocks with
    | false => exact le_rfl
    | true =>
      cases hc : s.content? p with
      | none => rw [serve_copyContent_of_none hc]
      | some c =>
        rw [serve_copyContent_of_some hc]
        exact (lastTag_change _).ge

theorem serve_isFolder {a : Bool} (h : s.serve (.isFolder p) = (.ok a, s')) :
    s' = s ∧ (a = true ↔ s.node? p = some .folder) := by
  cases h
  exact ⟨rfl, Tree.isFolder_iff⟩

/-- The files below a place, with their sizes. -/
def files (p : Place) (s : Disks) : List (Path × Nat) := (s.tree p.disk).files p.path

/-- All folders on the way to a place were made, where there were none. -/
structure FoldersMade (p : Place) (s s' : Disks) : Prop where
  way : ∀ x, x.Covers p → s.node? x = none ∨ s.node? x = some .folder
  node : ∀ x, s'.node? x = if x.Covers p then some .folder else s.node? x

/-- A file was written, but not over a folder. -/
structure Written (p : Place) (content : String) (s s' : Disks) : Prop where
  free : s.node? p ≠ some .folder
  node : ∀ x, s'.node? x = if x = p then some (.file content) else s.node? x

/-- What is at and below a place was removed. -/
structure Removed (p : Place) (s s' : Disks) : Prop where
  held : s.node? p ≠ none
  node : ∀ x, s'.node? x = if p.Covers x then none else s.node? x

/-- What is at and below a place was moved to a place where nothing was. -/
structure Renamed (p q : Place) (s s' : Disks) : Prop where
  apart : p.Apart q
  source : s.node? p ≠ none
  free : ∀ r, s.node? (q.down r) = none
  moved : ∀ r, s'.node? (q.down r) = s.node? (p.down r)
  gone : ∀ r, s'.node? (p.down r) = none
  rest : ∀ x, ¬ p.Covers x → ¬ q.Covers x → s'.node? x = s.node? x

theorem serve_makeFolders (h : s.serve (.makeFolders p) = (.ok (), s')) : FoldersMade p s s' := by
  obtain ⟨t, ht, rfl⟩ := change_eq_ok_iff.1 h
  refine ⟨?_, fun x => ?_⟩
  · rintro ⟨disk, path⟩ ⟨rfl, hpath⟩
    exact Tree.none_or_folder_of_makeFolders ht hpath
  · rw [node?_withTree]
    by_cases hdisk : x.disk = p.disk
    · rw [if_pos hdisk, Tree.node?_makeFolders ht]
      simp only [Place.Covers, hdisk, true_and, node?]
    · rw [if_neg hdisk, if_neg fun hx => hdisk hx.1]

theorem written_of_write {c : String} {t : Tree}
    (h : Tree.write p.path c (s.tree p.disk) = some t) : Written p c s (s.withTree p.disk t) := by
  obtain ⟨hfree, hnode⟩ := Tree.node?_write h
  refine ⟨hfree, fun x => ?_⟩
  obtain ⟨disk, path⟩ := x
  rw [node?_withTree]
  by_cases hdisk : disk = p.disk
  · subst hdisk
    rw [if_pos rfl, hnode]
    obtain ⟨disk, path'⟩ := p
    simp only [Place.mk.injEq, true_and, node?]
  · rw [if_neg hdisk, if_neg]
    rintro rfl
    exact hdisk rfl

theorem serve_openWrite (h : s.serve (.openWrite p) = (.ok (), s')) : Written p "" s s' := by
  obtain ⟨t, ht, rfl⟩ := change_eq_ok_iff.1 h
  exact written_of_write ht

theorem serve_openRead (h : s.serve (.openRead p) = (.ok (), s')) :
    s' = s ∧ ∃ c, s.node? p = some (.file c) := by
  rw [serve_openRead_eq, Prod.mk.injEq] at h
  obtain ⟨h, rfl⟩ := h
  split at h
  · rename_i hsome
    obtain ⟨c, hc⟩ := Option.isSome_iff_exists.1 hsome
    exact ⟨rfl, c, content?_eq_some_iff.1 hc⟩
  · cases h

theorem serve_copyContent {hasBlocks : Bool}
    (h : s.serve (.copyContent p q hasBlocks) = (.ok (), s')) :
    ∃ c, s.node? p = some (.file c) ∧ Written q c s s' := by
  cases hasBlocks with
  | false => cases h
  | true =>
    cases hc : s.content? p with
    | none =>
      rw [serve_copyContent_of_none hc] at h
      cases h
    | some c =>
      rw [serve_copyContent_of_some hc] at h
      obtain ⟨t, ht, rfl⟩ := change_eq_ok_iff.1 h
      exact ⟨c, content?_eq_some_iff.1 hc, written_of_write ht⟩

theorem serve_remove (hp : p.path ≠ []) (h : s.serve (.remove p) = (.ok (), s')) :
    Removed p s s' := by
  obtain ⟨t, ht, rfl⟩ := change_eq_ok_iff.1 h
  obtain ⟨hheld, hnode⟩ := Tree.node?_remove hp ht
  refine ⟨hheld, fun x => ?_⟩
  rw [node?_withTree]
  by_cases hdisk : x.disk = p.disk
  · rw [if_pos hdisk, hnode]
    simp only [Place.Covers, hdisk, true_and, node?]
  · rw [if_neg hdisk, if_neg fun hx => hdisk hx.1.symm]

theorem serve_rename {p q : Path} (hs : s.Sound)
    (h : s.serve (.rename disk p q) = (.ok (), s')) : Renamed ⟨disk, p⟩ ⟨disk, q⟩ s s' := by
  obtain ⟨t, ht, rfl⟩ := change_eq_ok_iff.1 h
  have hr := (hs disk).renamed ht
  have hnode : ∀ path, (s.withTree disk t).node? ⟨disk, path⟩ = t.node? path := fun path => by
    rw [node?_withTree, if_pos rfl]
  refine ⟨⟨fun h => hr.apart.1 h.2, fun h => hr.apart.2 h.2⟩, hr.source, hr.free,
    fun r => (hnode _).trans (hr.moved r), fun r => (hnode _).trans (hr.gone r), fun x hp hq => ?_⟩
  obtain ⟨disk', path⟩ := x
  by_cases hdisk : disk = disk'
  · subst hdisk
    exact (hnode path).trans (hr.rest path (fun h => hp ⟨rfl, h⟩) fun h => hq ⟨rfl, h⟩)
  · rw [node?_withTree, if_neg (Ne.symm hdisk)]

/-! ### Calls that must succeed -/

/-- Making folders touches no file. -/
theorem FoldersMade.file? (h : FoldersMade p s s') (x : Place) : s'.file? x = s.file? x := by
  by_cases hx : x.Covers p
  · rw [file?_of_none_or_folder (h.way x hx)]
    exact file?_of_none_or_folder (.inr (by rw [h.node, if_pos hx]))
  · exact file?_congr (by rw [h.node, if_neg hx])

theorem Written.file? {c : String} (h : Written p c s s') (x : Place) :
    s'.file? x = if x = p then some (.file c) else s.file? x := by
  unfold Disks.file?
  rw [h.node]
  split <;> rfl

section

variable {way : Place} {s₁ : Disks} {touched : Place → Prop}

/-- At and below a place there is what was at and below a place before. -/
def SameTree (p : Place) (s : Disks) (q : Place) (s' : Disks) : Prop :=
  ∀ r, s'.node? (q.down r) = s.node? (p.down r)

/-- There is nothing at and below a place. -/
def Bare (p : Place) (s : Disks) : Prop := ∀ r, s.node? (p.down r) = none

/-- What changed was touched, but for new folders on the way to a place. -/
def Within (touched : Place → Prop) (way : Place) (s s' : Disks) : Prop :=
  ∀ x, ¬ touched x → s'.node? x = s.node? x ∨
    (s.node? x = none ∧ s'.node? x = some .folder ∧ x.Covers way)

theorem SameTree.rfl : SameTree p s p s := fun _ => Eq.refl _

theorem SameTree.trans (h : SameTree p s q s₁) (h' : SameTree q s₁ x s') : SameTree p s x s' :=
  fun r => (h' r).trans (h r)

theorem SameTree.file? (h : SameTree p s q s') (r : Path) :
    s'.file? (q.down r) = s.file? (p.down r) := file?_congr (h r)

theorem Within.refl (touched : Place → Prop) (way : Place) (s : Disks) :
    Within touched way s s := fun _ _ => .inl rfl

theorem Within.trans (h : Within touched way s s₁) (h' : Within touched way s₁ s') :
    Within touched way s s' := by
  intro x hx
  rcases h x hx with h | ⟨hnone, hfolder, hway⟩ <;>
    rcases h' x hx with h' | ⟨hnone', hfolder', hway'⟩
  · exact .inl (h'.trans h)
  · exact .inr ⟨h ▸ hnone', hfolder', hway'⟩
  · exact .inr ⟨hnone, h'.trans hfolder, hway⟩
  · rw [hnone'] at hfolder
    cases hfolder

/-- A tree is as it was if it was not touched and the way does not lead into it. -/
theorem Within.sameTree (h : Within touched way s s') (hx : ∀ r, ¬ touched (x.down r))
    (hway : ¬ x.Covers way) : SameTree x s x s' := by
  intro r
  rcases h _ (hx r) with h | ⟨-, -, h⟩
  · exact h
  · exact absurd ((x.covers_down r).trans h) hway

/-- Files that were not touched are as they were. -/
theorem Within.file? (h : Within touched way s s') (hx : ¬ touched x) :
    s'.file? x = s.file? x := by
  rcases h x hx with h | ⟨hnone, hfolder, -⟩
  · exact file?_congr h
  · rw [file?_of_none_or_folder (.inl hnone), file?_of_none_or_folder (.inr hfolder)]

theorem FoldersMade.within (h : FoldersMade p s s') (touched : Place → Prop) :
    Within touched p s s' := by
  intro x _
  rw [h.node]
  by_cases hx : x.Covers p
  · rw [if_pos hx]
    rcases h.way x hx with hnone | hfolder
    · exact .inr ⟨hnone, rfl, hx⟩
    · exact .inl hfolder.symm
  · rw [if_neg hx]
    exact .inl rfl

end

end Disks

end CatalogReplication.Files
