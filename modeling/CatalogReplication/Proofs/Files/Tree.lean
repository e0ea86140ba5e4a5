import CatalogReplication.Files.Tree
import CatalogReplication.Proofs.Assoc
import Mathlib.Data.List.Infix

/-!
# What the operations on a tree do

A tree is told by what is at each of its paths (`Tree.node?`). It is sound if whatever it holds lies
in a folder (`Tree.Sound`). Each operation that succeeds is told by what it changes: making folders
fills the way to a path, writing and removing touch what is at or below one path, and renaming moves
what is at or below a path to a path where nothing was (`Tree.Renamed`). All of them keep a tree
sound, and none of them fails on a sound tree without a reason that can be looked up.
-/

namespace CatalogReplication.Files

/-! ### Paths apart -/

/-- Neither path is at or below the other. -/
def Apart (p q : Path) : Prop := ¬ p <+: q ∧ ¬ q <+: p

variable {p q r x : Path} {name : String}

theorem Apart.symm (h : Apart p q) : Apart q p := ⟨h.2, h.1⟩

theorem Apart.ne_nil (h : Apart p q) : p ≠ [] := fun hp => h.1 (hp ▸ List.nil_prefix)

/-- What is at or below one of two paths apart is not at or below the other. -/
theorem Apart.not_isPrefix (h : Apart p q) (hx : p <+: x) : ¬ q <+: x := fun hq =>
  (List.prefix_or_prefix_of_prefix hx hq).elim h.1 h.2

theorem isSome_below?_iff : (Tree.below? p x).isSome = true ↔ p <+: x := by
  rw [Option.isSome_iff_exists]
  constructor
  · rintro ⟨r, hr⟩
    rw [Tree.below?_eq_some_iff.1 hr]
    exact List.prefix_append p r
  · rintro ⟨r, rfl⟩
    exact ⟨r, Tree.below?_eq_some_iff.2 rfl⟩

theorem isNone_below?_iff : (Tree.below? p x).isNone = true ↔ ¬ p <+: x := by
  rw [← isSome_below?_iff, Option.not_isSome_iff_eq_none, Option.isNone_iff_eq_none]

namespace Tree

variable {t t' : Tree} {content : String} {node : Node}

/-! ### Looking -/

@[simp] theorem node?_nil (t : Tree) : t.node? [] = some .folder := rfl

theorem node?_of_ne_nil (h : p ≠ []) : t.node? p = t.lookup p := if_neg h

theorem isFolder_iff : t.isFolder p = true ↔ t.node? p = some .folder := by
  unfold isFolder
  exact beq_iff_eq

theorem holds_iff : t.holds p = true ↔ t.node? p ≠ none := by
  unfold holds
  rw [Option.isSome_iff_ne_none]

theorem node?_put (h : p ≠ []) (node : Node) (x : Path) :
    node? x (Assoc.put p node t) = if x = p then some node else t.node? x := by
  by_cases hx : x = p
  · subst hx
    rw [if_pos rfl, node?_of_ne_nil h, Assoc.lookup_put_self]
  · rw [if_neg hx]
    by_cases hnil : x = []
    · subst hnil
      rfl
    · rw [node?_of_ne_nil hnil, node?_of_ne_nil hnil, Assoc.lookup_put_of_ne hx]

/-- A tree in which each path has one entry, and whatever is there is in a folder. -/
structure Sound (t : Tree) : Prop where
  nodup : (Assoc.keys t).Nodup
  nil_notMem : [] ∉ Assoc.keys t
  parent : ∀ p name, t.node? (p ++ [name]) ≠ none → t.node? p = some .folder

theorem sound_nil : Sound [] where
  nodup := List.nodup_nil
  nil_notMem := List.not_mem_nil
  parent p name h := by
    rw [node?_of_ne_nil (by simp)] at h
    exact absurd rfl h

/-- Soundness is seen from the entries. -/
theorem sound_of_entries (hnodup : (Assoc.keys t).Nodup)
    (hentries : ∀ e ∈ t, e.1 ≠ [] ∧ t.isFolder e.1.dropLast = true) : Sound t where
  nodup := hnodup
  nil_notMem h := by
    obtain ⟨e, he, hnil⟩ := List.mem_map.1 h
    exact (hentries e he).1 hnil
  parent p name h := by
    obtain ⟨node, hnode⟩ := Option.ne_none_iff_exists'.1 h
    rw [node?_of_ne_nil (by simp)] at hnode
    have hfolder := (hentries _ ((Assoc.lookup_eq_some_iff_mem hnodup).1 hnode)).2
    rwa [List.dropLast_concat, isFolder_iff] at hfolder

/-- Everything on the way to what is there is a folder. -/
theorem Sound.folder_of_isPrefix (ht : t.Sound) (h : t.node? x ≠ none) (hp : p <+: x)
    (hne : p ≠ x) : t.node? p = some .folder := by
  induction x using List.reverseRecOn with
  | nil => exact absurd (List.prefix_nil.1 hp) hne
  | append_singleton x name ih =>
    have hfolder := ht.parent x name h
    rcases List.prefix_concat_iff.1 hp with hp | hp
    · exact absurd hp hne
    · by_cases hx : p = x
      · rw [hx, hfolder]
      · exact ih (by rw [hfolder]; exact Option.some_ne_none _) hp hx

theorem Sound.holds_of_isPrefix (ht : t.Sound) (h : t.node? x ≠ none) (hp : p <+: x) :
    t.node? p ≠ none := by
  by_cases hne : p = x
  · exact hne ▸ h
  · rw [ht.folder_of_isPrefix h hp hne]
    exact Option.some_ne_none _

/-- Below nothing there is nothing. -/
theorem Sound.none_below (ht : t.Sound) (h : t.node? p = none) (hx : p <+: x) :
    t.node? x = none := by
  by_contra hne
  exact ht.holds_of_isPrefix hne hx h

theorem Sound.mem_iff (ht : t.Sound) : (p, node) ∈ t ↔ p ≠ [] ∧ t.node? p = some node := by
  constructor
  · intro h
    have hp : p ≠ [] := fun hp => ht.nil_notMem (List.mem_map.2 ⟨_, h, hp⟩)
    exact ⟨hp, (node?_of_ne_nil hp).trans ((Assoc.lookup_eq_some_iff_mem ht.nodup).2 h)⟩
  · rintro ⟨hp, h⟩
    rw [node?_of_ne_nil hp] at h
    exact (Assoc.lookup_eq_some_iff_mem ht.nodup).1 h

/-- Between a path and one below it comes the path itself or the next name. -/
theorem eq_or_prefix_of_between {done rest : Path} (h : done <+: x)
    (h' : x <+: done ++ name :: rest) : x = done ∨ done ++ [name] <+: x := by
  obtain ⟨y, rfl⟩ := h
  rw [List.prefix_append_right_inj] at h'
  cases y with
  | nil => exact .inl (List.append_nil _)
  | cons name' y =>
    obtain ⟨rfl, -⟩ := List.cons_prefix_cons.1 h'
    exact .inr (List.prefix_append_right_inj _ |>.2 ⟨y, rfl⟩)

/-- Making folders makes the next one, unless it is there, and goes on from it. -/
theorem makeFoldersFrom_cons {done rest : Path}
    (h : makeFoldersFrom done (name :: rest) t = some t') :
    (t.node? (done ++ [name]) = none ∨ t.node? (done ++ [name]) = some .folder) ∧
      ∃ t₁, makeFoldersFrom (done ++ [name]) rest t₁ = some t' ∧
        (t₁ = t ∨ t₁ = Assoc.put (done ++ [name]) .folder t) ∧
        ∀ x, t₁.node? x = if x = done ++ [name] then some .folder else t.node? x := by
  unfold makeFoldersFrom at h
  simp only at h
  split at h
  · rename_i hfolder
    refine ⟨.inr hfolder, t, h, .inl rfl, fun x => ?_⟩
    split
    · rename_i hx
      rw [hx, hfolder]
    · rfl
  · cases h
  · rename_i hnone
    exact ⟨.inl hnone, _, h, .inr rfl, node?_put (by simp) .folder⟩

theorem node?_makeFoldersFrom {done rest : Path} (h : makeFoldersFrom done rest t = some t')
    (hdone : t.node? done = some .folder) (x : Path) :
    t'.node? x = if done <+: x ∧ x <+: done ++ rest then some .folder else t.node? x := by
  induction rest generalizing done t with
  | nil =>
    cases h
    split
    · rename_i hx
      rw [List.append_nil] at hx
      rw [← hx.1.eq_of_length_le hx.2.length_le, hdone]
    · rfl
  | cons name rest ih =>
    obtain ⟨-, t₁, h₁, -, hnode⟩ := makeFoldersFrom_cons h
    rw [ih h₁ (by rw [hnode, if_pos rfl]), hnode, ← List.append_cons]
    by_cases hx : done <+: x ∧ x <+: done ++ name :: rest
    · rw [if_pos hx]
      rcases eq_or_prefix_of_between hx.1 hx.2 with rfl | hbelow
      · have hne : x ≠ x ++ [name] := by simp
        rw [if_neg hne, hdone, ite_self]
      · rw [if_pos ⟨hbelow, hx.2⟩]
    · have hnot : ¬ (done ++ [name] <+: x ∧ x <+: done ++ name :: rest) := fun h' =>
        hx ⟨(List.prefix_append done [name]).trans h'.1, h'.2⟩
      have hne : x ≠ done ++ [name] := by
        rintro rfl
        exact hx ⟨List.prefix_append done [name], by simp⟩
      rw [if_neg hx, if_neg hnot, if_neg hne]

/-- Making folders makes the way to a path, and nothing else. -/
theorem node?_makeFolders (h : makeFolders p t = some t') (x : Path) :
    t'.node? x = if x <+: p then some .folder else t.node? x := by
  rw [node?_makeFoldersFrom h (node?_nil t)]
  simp

theorem none_or_folder_of_makeFoldersFrom {done rest : Path}
    (h : makeFoldersFrom done rest t = some t') (hdone : t.node? done = some .folder)
    (hx : done <+: x) (hx' : x <+: done ++ rest) : t.node? x = none ∨ t.node? x = some .folder := by
  induction rest generalizing done t with
  | nil =>
    rw [List.append_nil] at hx'
    rw [← hx.eq_of_length_le hx'.length_le]
    exact .inr hdone
  | cons name rest ih =>
    obtain ⟨hnext, t₁, h₁, -, hnode⟩ := makeFoldersFrom_cons h
    rcases eq_or_prefix_of_between hx hx' with rfl | hbelow
    · exact .inr hdone
    · have hrest := ih h₁ (by rw [hnode, if_pos rfl]) hbelow (by rw [← List.append_cons]; exact hx')
      rw [hnode] at hrest
      split at hrest
      · rename_i he
        exact he ▸ hnext
      · exact hrest

/-- Nothing but folders is on the way where folders can be made. -/
theorem none_or_folder_of_makeFolders (h : makeFolders p t = some t') (hx : x <+: p) :
    t.node? x = none ∨ t.node? x = some .folder :=
  none_or_folder_of_makeFoldersFrom h (node?_nil t) List.nil_prefix hx

theorem node?_write (h : write p content t = some t') :
    t.node? p ≠ some .folder ∧
      ∀ x, t'.node? x = if x = p then some (.file content) else t.node? x := by
  unfold write at h
  split at h
  · rename_i hcan
    cases h
    have hfree := (Bool.and_eq_true_iff.1 hcan).2
    rw [Bool.not_eq_true', ← Bool.not_eq_true, isFolder_iff] at hfree
    have hp : p ≠ [] := by
      rintro rfl
      exact hfree (node?_nil t)
    exact ⟨hfree, node?_put hp _⟩
  · cases h

theorem node?_without (hp : p ≠ []) (x : Path) :
    (t.without p).node? x = if p <+: x then none else t.node? x := by
  by_cases hx : x = []
  · subst hx
    rw [if_neg fun h => hp (List.prefix_nil.1 h)]
    rfl
  · rw [node?_of_ne_nil hx, node?_of_ne_nil hx]
    unfold without
    rw [Assoc.lookup_filter fun q => (below? p q).isNone]
    by_cases h : p <+: x
    · rw [if_pos h, if_neg fun hnone => isNone_below?_iff.1 hnone h]
    · rw [if_neg h, if_pos (isNone_below?_iff.2 h)]

/-- Everything is at or below the root. -/
theorem without_nil (t : Tree) : t.without [] = [] :=
  List.filter_eq_nil_iff.2 fun _ _ h => isNone_below?_iff.1 h List.nil_prefix

theorem node?_remove (hp : p ≠ []) (h : remove p t = some t') :
    t.node? p ≠ none ∧ ∀ x, t'.node? x = if p <+: x then none else t.node? x := by
  unfold remove at h
  split at h
  · rename_i hholds
    cases h
    exact ⟨holds_iff.1 hholds, node?_without hp⟩
  · cases h

/-! ### Renaming -/

/-- What is at and below a path was moved to a path where nothing was. -/
structure Renamed (p q : Path) (t t' : Tree) : Prop where
  apart : Apart p q
  source : t.node? p ≠ none
  parent : t.node? q.dropLast = some .folder
  free : ∀ r, t.node? (q ++ r) = none
  moved : ∀ r, t'.node? (q ++ r) = t.node? (p ++ r)
  gone : ∀ r, t'.node? (p ++ r) = none
  rest : ∀ x, ¬ p <+: x → ¬ q <+: x → t'.node? x = t.node? x

/-- Where renaming takes a path. -/
def renamedPath (p q x : Path) : Path :=
  match below? p x with
  | some rest => q ++ rest
  | none => x

theorem renamedPath_append (p q r : Path) : renamedPath p q (p ++ r) = q ++ r := by
  simp [renamedPath, below?_eq_some_iff.2 rfl]

theorem renamedPath_of_not_isPrefix (q : Path) (h : ¬ p <+: x) : renamedPath p q x = x := by
  simp [renamedPath, Option.isNone_iff_eq_none.1 (isNone_below?_iff.2 h)]

/-- A renamed path that is not below the new path is as it was. -/
theorem renamedPath_eq_iff {y : Path} (hx : ¬ q <+: x) :
    renamedPath p q y = x ↔ y = x ∧ ¬ p <+: x := by
  by_cases h : p <+: y
  · obtain ⟨r, rfl⟩ := h
    rw [renamedPath_append]
    constructor
    · rintro rfl
      exact absurd (List.prefix_append q r) hx
    · rintro ⟨rfl, hp⟩
      exact absurd (List.prefix_append p r) hp
  · rw [renamedPath_of_not_isPrefix q h]
    exact ⟨fun he => ⟨he, he ▸ h⟩, And.left⟩

/-- A renamed path that is below the new path comes from below the old one, if there was nothing
below the new one. -/
theorem renamedPath_eq_append_iff {y : Path} (hy : ¬ q <+: y) :
    renamedPath p q y = q ++ r ↔ y = p ++ r := by
  by_cases h : p <+: y
  · obtain ⟨s, rfl⟩ := h
    rw [renamedPath_append, List.append_cancel_left_eq, List.append_cancel_left_eq]
  · rw [renamedPath_of_not_isPrefix q h]
    constructor
    · rintro rfl
      exact absurd (List.prefix_append q r) hy
    · rintro rfl
      exact absurd (List.prefix_append p r) h

/-- Paths that are not below the new one stay different. -/
theorem renamedPath_inj {y y' : Path} (hy : ¬ q <+: y) (hy' : ¬ q <+: y')
    (h : renamedPath p q y = renamedPath p q y') : y = y' := by
  by_cases hpy : p <+: y
  · obtain ⟨r, rfl⟩ := hpy
    rw [renamedPath_append] at h
    exact ((renamedPath_eq_append_iff hy').1 h.symm).symm
  · rw [renamedPath_of_not_isPrefix q hpy] at h
    exact ((renamedPath_eq_iff hy).1 h.symm).1.symm

/-- The entries of a tree in which something was renamed. -/
def renamedEntries (p q : Path) (t : Tree) : Tree := t.map fun e => (renamedPath p q e.1, e.2)

theorem lookup_renamedEntries {x : Path} {y : Path}
    (h : ∀ e ∈ t, renamedPath p q e.1 = x ↔ e.1 = y) :
    (renamedEntries p q t).lookup x = t.lookup y := by
  unfold renamedEntries
  induction t with
  | nil => rfl
  | cons e rest ih =>
    obtain ⟨z, node⟩ := e
    have hz := h (z, node) List.mem_cons_self
    have hrest := ih fun e he => h e (List.mem_cons_of_mem _ he)
    by_cases he : z = y
    · subst he
      have hx : renamedPath p q z = x := hz.2 rfl
      rw [List.map_cons, hx, List.lookup_cons_self, List.lookup_cons_self]
    · have hb : (y == z) = false := beq_eq_false_iff_ne.2 (Ne.symm he)
      have hb' : (x == renamedPath p q z) = false :=
        beq_eq_false_iff_ne.2 fun hx => he (hz.1 hx.symm)
      simp [List.lookup_cons, hb, hb', hrest]

theorem rename_eq (p q : Path) (t : Tree) : rename p q t =
    if t.holds p && !t.holds q && t.isFolder q.dropLast && (below? p q).isNone then
      some (renamedEntries p q t)
    else none := by
  unfold rename renamedEntries
  split
  · refine congrArg some (List.map_congr_left fun e _ => ?_)
    unfold renamedPath
    cases below? p e.1 <;> rfl
  · rfl

theorem rename_eq_some_iff :
    rename p q t = some t' ↔ (t.node? p ≠ none ∧ t.node? q = none ∧
      t.node? q.dropLast = some .folder ∧ ¬ p <+: q) ∧ t' = renamedEntries p q t := by
  have hcan : (t.holds p && !t.holds q && t.isFolder q.dropLast && (below? p q).isNone) = true ↔
      t.node? p ≠ none ∧ t.node? q = none ∧ t.node? q.dropLast = some .folder ∧ ¬ p <+: q := by
    simp only [Bool.and_eq_true, holds_iff, Bool.not_eq_true', ← Bool.not_eq_true, isFolder_iff,
      isNone_below?_iff, not_not, and_assoc]
  rw [← hcan, rename_eq]
  split
  · rename_i h
    rw [Option.some.injEq]
    exact ⟨fun he => ⟨h, he.symm⟩, fun he => he.2.symm⟩
  · rename_i h
    exact ⟨nofun, fun he => absurd he.1 h⟩

theorem Sound.not_isPrefix_of_mem (ht : t.Sound) (hfree : t.node? q = none) {e : Path × Node}
    (he : e ∈ t) : ¬ q <+: e.1 := by
  intro hqe
  have hnode := (ht.mem_iff.1 he).2
  rw [ht.none_below hfree hqe] at hnode
  cases hnode

theorem Sound.renamed (ht : t.Sound) (h : rename p q t = some t') : Renamed p q t t' := by
  obtain ⟨⟨hsource, hfree, hparent, hnot⟩, rfl⟩ := rename_eq_some_iff.1 h
  have hp : p ≠ [] := fun hp => hnot (hp ▸ List.nil_prefix)
  have hq : q ≠ [] := by
    rintro rfl
    cases hfree
  have hapart : Apart p q := ⟨hnot, fun hqp => ht.holds_of_isPrefix hsource hqp hfree⟩
  have hnew : ∀ e ∈ t, ¬ q <+: e.1 := fun e he => ht.not_isPrefix_of_mem hfree he
  refine ⟨hapart, hsource, hparent, fun r => ht.none_below hfree (List.prefix_append q r),
    fun r => ?_, fun r => ?_, fun x hpx hqx => ?_⟩
  · rw [node?_of_ne_nil (by simp [hq]), node?_of_ne_nil (by simp [hp])]
    exact lookup_renamedEntries fun e he => renamedPath_eq_append_iff (hnew e he)
  · rw [node?_of_ne_nil (by simp [hp])]
    refine (lookup_renamedEntries (y := q) fun e he => ?_).trans
      ((node?_of_ne_nil hq).symm.trans hfree)
    rw [renamedPath_eq_iff (hapart.not_isPrefix (List.prefix_append p r))]
    constructor
    · rintro ⟨-, hgone⟩
      exact absurd (List.prefix_append p r) hgone
    · intro he'
      exact absurd (he' ▸ List.prefix_rfl) (hnew e he)
  · by_cases hx : x = []
    · rw [hx, node?_nil, node?_nil]
    · rw [node?_of_ne_nil hx, node?_of_ne_nil hx]
      refine lookup_renamedEntries fun e _ => ?_
      rw [renamedPath_eq_iff hqx]
      exact ⟨And.left, fun he => ⟨he, hpx⟩⟩

theorem Sound.put (ht : t.Sound) (hp : p ≠ []) (hparent : t.node? p.dropLast = some .folder)
    (hbelow : node = .folder ∨ ∀ name, t.node? (p ++ [name]) = none) :
    Sound (Assoc.put p node t) where
  nodup := by
    rw [Assoc.keys_put]
    split
    · exact ht.nodup
    · rename_i hnew
      exact ht.nodup.append (List.nodup_singleton p) (List.disjoint_singleton.2 hnew)
  nil_notMem := by
    rw [Assoc.keys_put]
    split
    · exact ht.nil_notMem
    · simp [ht.nil_notMem, Ne.symm hp]
  parent q name h := by
    rw [node?_put hp] at h ⊢
    by_cases hq : q ++ [name] = p
    · have hne : q ≠ p := by
        rintro rfl
        simp at hq
      rw [if_neg hne]
      rw [← hq, List.dropLast_concat] at hparent
      exact hparent
    · rw [if_neg hq] at h
      by_cases hqp : q = p
      · subst hqp
        rcases hbelow with rfl | hbelow
        · rw [if_pos rfl]
        · exact absurd (hbelow name) h
      · rw [if_neg hqp]
        exact ht.parent q name h

theorem Sound.makeFoldersFrom {done rest : Path} (ht : t.Sound)
    (hdone : t.node? done = some .folder) (h : makeFoldersFrom done rest t = some t') :
    t'.Sound := by
  induction rest generalizing done t with
  | nil =>
    cases h
    exact ht
  | cons name rest ih =>
    obtain ⟨-, t₁, h₁, heq, hnode⟩ := makeFoldersFrom_cons h
    refine ih ?_ (by rw [hnode, if_pos rfl]) h₁
    rcases heq with rfl | rfl
    · exact ht
    · exact ht.put (by simp) (by rw [List.dropLast_concat]; exact hdone) (.inl rfl)

theorem Sound.makeFolders (ht : t.Sound) (h : makeFolders p t = some t') : t'.Sound :=
  ht.makeFoldersFrom (node?_nil t) h

theorem Sound.write (ht : t.Sound) (h : write p content t = some t') : t'.Sound := by
  unfold Tree.write at h
  split at h
  · rename_i hcan
    cases h
    obtain ⟨hparent, hp⟩ := Bool.and_eq_true_iff.1 hcan
    rw [Bool.not_eq_true', ← Bool.not_eq_true, isFolder_iff] at hp
    refine ht.put (fun hnil => hp (hnil ▸ node?_nil t)) (isFolder_iff.1 hparent)
      (.inr fun name => ?_)
    by_contra hbelow
    exact hp (ht.parent p name hbelow)
  · cases h

theorem Sound.remove (ht : t.Sound) (h : remove p t = some t') : t'.Sound := by
  unfold Tree.remove at h
  split at h
  · cases h
    by_cases hp : p = []
    · subst hp
      rw [without_nil]
      exact sound_nil
    · refine ⟨ht.nodup.sublist (List.filter_sublist.map _), fun hmem => ?_, fun q name hq => ?_⟩
      · exact ht.nil_notMem ((List.filter_sublist.map _).subset hmem)
      · rw [node?_without hp] at hq ⊢
        split at hq
        · exact absurd rfl hq
        · rename_i hqp
          rw [if_neg fun h => hqp (h.trans (List.prefix_append q [name]))]
          exact ht.parent q name hq
  · cases h

/-- What is held after a renaming is held in a folder. -/
theorem Renamed.parent_of_held (hr : Renamed p q t t') (ht : t.Sound)
    (hx : t'.node? (x ++ [name]) ≠ none) : t'.node? x = some .folder := by
  by_cases hqx : q <+: x
  · obtain ⟨r, rfl⟩ := hqx
    rw [List.append_assoc, hr.moved, ← List.append_assoc] at hx
    rw [hr.moved]
    exact ht.parent _ name hx
  by_cases hpx : p <+: x ++ [name]
  · obtain ⟨r, hr'⟩ := hpx
    rw [← hr', hr.gone] at hx
    exact absurd rfl hx
  have hpx' : ¬ p <+: x := fun h => hpx (h.trans (List.prefix_append x [name]))
  rw [hr.rest x hpx' hqx]
  by_cases hqx' : q <+: x ++ [name]
  · have he := (List.prefix_concat_iff.1 hqx').resolve_right hqx
    have hx' : q.dropLast = x := by rw [he, List.dropLast_concat]
    exact hx' ▸ hr.parent
  · rw [hr.rest _ hpx hqx'] at hx
    exact ht.parent x name hx

theorem Sound.rename (ht : t.Sound) (h : rename p q t = some t') : t'.Sound := by
  have hr := ht.renamed h
  obtain ⟨⟨-, hfree, -, -⟩, rfl⟩ := rename_eq_some_iff.1 h
  have hq : q ≠ [] := hr.apart.symm.ne_nil
  refine ⟨?_, ?_, fun x name hx => hr.parent_of_held ht hx⟩
  · have hkeys : Assoc.keys (renamedEntries p q t) = (Assoc.keys t).map (renamedPath p q) := by
      simp [Assoc.keys, renamedEntries]
    rw [hkeys]
    refine ht.nodup.map_on fun x hx y hy heq => ?_
    obtain ⟨e, he, rfl⟩ := List.mem_map.1 hx
    obtain ⟨e', he', rfl⟩ := List.mem_map.1 hy
    exact renamedPath_inj (ht.not_isPrefix_of_mem hfree he) (ht.not_isPrefix_of_mem hfree he') heq
  · intro hmem
    obtain ⟨e, he, hnil⟩ := List.mem_map.1 hmem
    obtain ⟨e', he', rfl⟩ := List.mem_map.1 he
    have hq' : ¬ q <+: [] := fun h => hq (List.prefix_nil.1 h)
    exact (ht.mem_iff.1 he').1 ((renamedPath_eq_iff hq').1 hnil).1

end Tree

end CatalogReplication.Files
