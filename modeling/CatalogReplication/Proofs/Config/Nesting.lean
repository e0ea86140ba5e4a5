import CatalogReplication.Proofs.Config.Acts

/-!
# Nesting is exact

What each act does with catalogs can be read off the acts before it: only leaving the last block of a
context disposes of any (`History.Fits.run_leave`, `History.disposed?_eq_none`), so that each is disposed of
once (`Run.isAccounted`); asking for a cluster creates one if there is none (`History.Fits.asking`).

`Run.nesting_exact` puts this together: a thread is in the context of its innermost block, a context
is closed when the last block of it is left, and only then, and no trace of its blocks stays. It holds
of every run, so also of what comes after a context was closed.
-/

namespace CatalogReplication.Config

open InContexts

variable {σ : Type}

section

variable {supply : Supply σ} {past : History} {s : Contexts σ} {t : Thread} {c : ContextId}
  {role : ClusterRole}

/-! ### What acts do with catalogs -/

namespace History

/-- The innermost block of a thread is left; with the last block of a context, its catalogs are
disposed of. -/
theorem Fits.run_leave (h : past.Fits s) (ht : past.opened.innermost? t = some c)
    (hfine : ∀ d ∈ (Act.leave t c).deeds supply s, d.isFine = true) :
    ((InContexts.leave supply t c).run.run s).1 = .ok () ∧
      (Act.leave t c).deeds supply s =
        if Blocks.isOpen c (past.opened.erase (t, c)) then []
        else (past.createdBy c).map fun n => .disposed n (.ok ()) := by
  have hr : past.Fits s.recording := ⟨h.nesting, h.exist, h.kept⟩
  have hleaving := hr.leaving ht hfine
  rw [show (InContexts.leave supply t c).run.run s = _ from mirrors_leave s.recording]
  unfold Act.deeds Act.after
  dsimp only
  generalize (InContexts.leave supply.recorded t c).run.run s.recording = x at hleaving
  cases hleaving with
  | within hn hopen => exact ⟨rfl, by rw [if_pos hopen]; rfl⟩
  | last hn hclosed hleft =>
    refine ⟨rfl, ?_⟩
    dsimp only
    rw [hleft.deeds, hclosed, ← hr.keptBy_eq]
    rfl

theorem asked_after (supply : Supply σ) (t : Thread) (role : ClusterRole)
    (hc : c < s.contexts.length) :
    Asked ((loadCatalog supply t c role).run.run s).1 c role s.recording
      ((InContexts.cluster supply.recorded t c role).run.run s.recording) := by
  rw [show ((loadCatalog supply t c role).run.run s).1 =
    ((loadCatalog supply.recorded t c role).run.run s.recording).1 from
      congrArg Prod.fst (mirrors_loadCatalog role s.recording)]
  exact asked_cluster supply t role hc

/-- A cluster that is kept is answered. Otherwise its catalog is loaded, and if that can be done,
taken in. -/
theorem Fits.asking (h : past.Fits s) (hc : c < s.contexts.length) (t : Thread)
    (role : ClusterRole) :
    (∀ n, past.created c role = some n → ∃ part : ClusterPart, part.handle = n ∧
      (InContexts.cluster supply t c role).run.run s = (.ok part, s) ∧
      (Act.cluster t c role).deeds supply s = []) ∧
    (past.created c role = none →
      (∀ catalog, ((loadCatalog supply t c role).run.run s).1 = .ok catalog →
        ∃ part : ClusterPart, part.catalog = catalog ∧
          ((InContexts.cluster supply t c role).run.run s).1 = .ok part ∧
          (Act.cluster t c role).deeds supply s = [.took part.handle]) ∧
      ∀ f, ((loadCatalog supply t c role).run.run s).1 = .error f →
        ((InContexts.cluster supply t c role).run.run s).1 = .error f ∧
          (Act.cluster t c role).deeds supply s = []) := by
  have hasked := asked_after supply t role hc
  rw [show (InContexts.cluster supply t c role).run.run s = _ from
    mirrors_cluster role s.recording, ← h.kept]
  unfold Act.deeds Act.after
  dsimp only
  generalize (InContexts.cluster supply.recorded t c role).run.run s.recording = x at hasked
  generalize ((loadCatalog supply t c role).run.run s).1 = loaded at hasked
  cases hasked with
  | @kept part hkept =>
    rw [show s.kept? c role = _ from hkept]
    exact ⟨fun n hn => ⟨part, Option.some.inj hn, rfl, rfl⟩, nofun⟩
  | @failed f s' hkept hloaded haside =>
    obtain ⟨world, rfl⟩ := haside
    rw [show s.kept? c role = _ from hkept, hloaded]
    exact ⟨nofun, fun _ => ⟨nofun, fun f' hf => by cases hf; exact ⟨rfl, rfl⟩⟩⟩
  | @made part s' hkept hloaded _ _ _ hdeeds =>
    rw [show s.kept? c role = _ from hkept, hloaded]
    exact ⟨nofun, fun _ => ⟨fun catalog hcatalog => by
      cases hcatalog
      exact ⟨part, rfl, rfl, hdeeds⟩, nofun⟩⟩

theorem deeds_component (supply : Supply σ) (s : Contexts σ) (t : Thread) (c : ContextId)
    (role : Role) : (Act.component t c role).deeds supply s = [] :=
  (untouched_component supply t c role s.recording).2

theorem deeds_load (supply : Supply σ) (s : Contexts σ) (t : Thread) (c : ContextId)
    (name : String) : (Act.load t c name).deeds supply s = [] :=
  (aside_loadSection supply t c name s.recording).deeds_eq

theorem deeds_cluster (supply : Supply σ) (s : Contexts σ) (t : Thread) (c : ContextId)
    (role : ClusterRole) :
    (Act.cluster t c role).deeds supply s = [] ∨
      s.kept? c role = none ∧ ∃ n, (Act.cluster t c role).deeds supply s = [.took n] := by
  unfold Act.deeds Act.after
  dsimp only
  by_cases hc : c < s.contexts.length
  · have hasked := asked_after supply t role hc
    generalize (InContexts.cluster supply.recorded t c role).run.run s.recording = x at hasked
    cases hasked with
    | kept _ => exact .inl rfl
    | failed _ _ haside => exact .inl haside.deeds_eq
    | made hkept _ _ _ _ hdeeds => exact .inr ⟨hkept, _, hdeeds⟩
  · rw [run_cluster_of_not_lt (s := s.recording) supply.recorded hc]
    exact .inl rfl

/-- Only leaving a block disposes of anything. -/
theorem disposed?_eq_none {a : Act} (ha : ∀ t c, a ≠ .leave t c) {d : Deed}
    (hd : d ∈ a.deeds supply s) : d.disposed? = none := by
  cases a with
  | enter t c => cases hd
  | leave t c => exact absurd rfl (ha t c)
  | cluster t c role =>
    obtain hdeeds | ⟨-, n, hdeeds⟩ := deeds_cluster supply s t c role
    · rw [hdeeds] at hd
      cases hd
    · rw [hdeeds] at hd
      obtain rfl := List.mem_singleton.1 hd
      rfl
  | component t c role =>
    rw [deeds_component] at hd
    cases hd
  | load t c name =>
    rw [deeds_load] at hd
    cases hd
  | add settings => cases hd

/-! ### Each once -/

theorem createdBy_leave (d : ContextId) (ds : List Deed) :
    createdBy d (⟨.leave t c, ds⟩ :: past) =
      if d = c ∧ Blocks.isOpen c (past.opened.erase (t, c)) = false then []
      else past.createdBy d := by
  rw [createdBy, created_leave, created_leave]
  split <;> rfl

theorem createdBy_cluster {n : Nat} (hnone : past.created c role = none) :
    (n :: past.createdBy c).Perm (createdBy c (⟨.cluster t c role, [.took n]⟩ :: past)) := by
  rw [createdBy, createdBy, created_cluster, created_cluster]
  cases role with
  | source => simp [hnone, Deed.taken?]
  | destination => simpa [hnone, Deed.taken?] using (List.perm_append_singleton n _).symm

theorem createdBy_cluster_nil : createdBy c (⟨.cluster t c role, []⟩ :: past) = past.createdBy c := by
  rw [createdBy, created_cluster, created_cluster]
  simp [createdBy]

theorem createdBy_cluster_of_ne {d : ContextId} (hd : d ≠ c) (ds : List Deed) :
    createdBy c (⟨.cluster t d role, ds⟩ :: past) = past.createdBy c := by
  rw [createdBy, created_cluster, created_cluster, if_neg (fun h => hd h.1.symm),
    if_neg (fun h => hd h.1.symm), createdBy]

/-- What was taken in for a context was disposed of, or it is still there. -/
def IsAccounted (c : ContextId) (past : History) : Prop :=
  (past.takenFor c).Perm (past.disposedFor c ++ past.createdBy c)

theorem IsAccounted.leave {u : Thread} {d : ContextId} {ds : List Deed}
    (h : past.IsAccounted c)
    (hds : ds = if Blocks.isOpen d (past.opened.erase (u, d)) then []
      else (past.createdBy d).map fun n => .disposed n (.ok ())) :
    IsAccounted c (⟨.leave u d, ds⟩ :: past) := by
  have hpast : (past.takenFor c).Perm (past.disposedFor c ++ past.createdBy c) := h
  show (past.takenFor c).Perm
    (((if d = c then ds.filterMap Deed.disposed? else []) ++ past.disposedFor c) ++ _)
  rw [createdBy_leave]
  by_cases hd : d = c
  · subst hd
    cases hopen : Blocks.isOpen d (past.opened.erase (u, d)) with
    | true =>
      rw [hopen, if_pos rfl] at hds
      subst hds
      simpa using hpast
    | false =>
      rw [hopen, if_neg (by simp)] at hds
      have hdisposed : ds.filterMap Deed.disposed? = past.createdBy d := by
        simp [hds, Function.comp_def, Deed.disposed?]
      rw [hdisposed]
      simpa using hpast.trans List.perm_append_comm
  · simpa [hd, Ne.symm hd] using hpast

theorem IsAccounted.cluster {d : ContextId} {ds : List Deed} (h : past.IsAccounted c)
    (hds : ds = [] ∨ past.created d role = none ∧ ∃ n, ds = [.took n]) :
    IsAccounted c (⟨.cluster t d role, ds⟩ :: past) := by
  show ((if d = c then ds.filterMap Deed.taken? else []) ++ past.takenFor c).Perm
    (past.disposedFor c ++ _)
  by_cases hd : d = c
  · subst hd
    rw [if_pos rfl]
    obtain rfl | ⟨hnone, n, rfl⟩ := hds
    · rw [createdBy_cluster_nil]
      exact h
    · have htaken : (n :: past.takenFor d).Perm (n :: (past.disposedFor d ++ past.createdBy d)) :=
        h.cons n
      exact htaken.trans (List.perm_middle.symm.trans ((createdBy_cluster hnone).append_left _))
  · rw [createdBy_cluster_of_ne hd, if_neg hd]
    exact h

end History

theorem Run.isAccounted (h : Run supply past s) (c : ContextId) : past.IsAccounted c := by
  induction h with
  | start outside => exact .nil
  | elsewhere _ _ ih => exact ih
  | @act past s a h ha hfine ih =>
    cases a with
    | enter t d => exact ih
    | leave t d => exact ih.leave (h.fits.run_leave ha hfine).2
    | cluster t d role =>
      have hdeeds := History.deeds_cluster supply s t d role
      rw [h.fits.kept] at hdeeds
      exact ih.cluster hdeeds
    | component t d role => exact ih
    | load t d name => exact ih
    | add settings => exact ih

/-- Making a lock manager is entering a block, loading it and leaving the block. -/
theorem Run.lockManager (h : Run supply past s) (hc : c < s.contexts.length) (t : Thread)
    (hfine : ∀ d ∈ (Act.leave t c).deeds supply ((Act.load t c lockSection).after supply
      ((Act.enter t c).after supply s)), d.isFine = true) :
    ∃ ds, Run supply
      (⟨.leave t c, ds⟩ :: ⟨.load t c lockSection, []⟩ :: ⟨.enter t c, []⟩ :: past)
      ((InContexts.lockManager supply t c).run.run s).2 ∧
    ((InContexts.lockManager supply t c).run.run s).1 =
      ((loadSection supply t c lockSection).run.run ((Act.enter t c).after supply s)).1 := by
  have hentered : Run supply (⟨.enter t c, []⟩ :: past) ((Act.enter t c).after supply s) :=
    h.act (a := .enter t c) hc nofun
  have hnone := History.deeds_load supply ((Act.enter t c).after supply s) t c lockSection
  have hloaded := hentered.act (a := .load t c lockSection) trivial (by rw [hnone]; nofun)
  rw [hnone] at hloaded
  have hinner : Blocks.innermost? t ((t, c) :: past.opened) = some c := by
    rw [Blocks.innermost?, Blocks.ofThread_cons_self]
    rfl
  have hleft := hloaded.act (a := .leave t c) hinner hfine
  obtain ⟨hok, -⟩ := hloaded.fits.run_leave hinner hfine
  rw [InContexts.lockManager, run_inside]
  exact ⟨_, hleft, congrArg (fun answer => answer >>= fun _ =>
    ((loadSection supply t c lockSection).run.run ((Act.enter t c).after supply s)).1) hok⟩

/-! ### Some acts one after the other -/

instance (past : History) (s : Contexts σ) : (a : Act) → Decidable (a.IsAllowed past s)
  | .enter _ c => inferInstanceAs (Decidable (c < s.contexts.length))
  | .leave t c => inferInstanceAs (Decidable (past.opened.innermost? t = some c))
  | .cluster _ _ _ => .isTrue trivial
  | .component _ _ _ => .isTrue trivial
  | .load _ _ _ => .isTrue trivial
  | .add _ => .isTrue trivial

/-- The history and the contexts after some acts. -/
def follow (supply : Supply σ) (x : History × Contexts σ) : List Act → History × Contexts σ
  | [] => x
  | a :: rest => follow supply (⟨a, a.deeds supply x.2⟩ :: x.1, a.after supply x.2) rest

/-- Whether some acts can come one after the other. -/
def canFollow (supply : Supply σ) (x : History × Contexts σ) : List Act → Bool
  | [] => true
  | a :: rest =>
    decide (a.IsAllowed x.1 x.2) && (a.deeds supply x.2).all Deed.isFine &&
      canFollow supply (⟨a, a.deeds supply x.2⟩ :: x.1, a.after supply x.2) rest

theorem Run.follow {x : History × Contexts σ} {acts : List Act} (h : Run supply x.1 x.2)
    (hacts : canFollow supply x acts = true) :
    Run supply (follow supply x acts).1 (follow supply x acts).2 := by
  induction acts generalizing x with
  | nil => exact h
  | cons a rest ih =>
    rw [canFollow, Bool.and_eq_true, Bool.and_eq_true, decide_eq_true_eq, List.all_eq_true] at hacts
    obtain ⟨⟨hallowed, hfine⟩, hrest⟩ := hacts
    exact ih (h.act hallowed hfine) hrest

/-! ### Nesting -/

/-- **Nesting is exact**, whatever threads do in whatever order, if each of them leaves its innermost
block and no catalog fails to be disposed of. -/
theorem Run.nesting_exact (h : Run supply past s) :
    -- The context of a thread is that of its innermost block.
    (∀ t c, past.opened.innermost? t = some c → (current t).run.run s = (.ok c, s)) ∧
    (∀ t, past.opened.innermost? t = none →
      (current t).run.run s = (.error .outsideContext, s)) ∧
    -- When the last block of a context is left, all its catalogs are disposed of, and none is kept.
    (∀ t c, past.opened.innermost? t = some c →
      (∀ d ∈ (Act.leave t c).deeds supply s, d.isFine = true) →
      ((InContexts.leave supply t c).run.run s).1 = .ok () ∧
      (Blocks.isOpen c (past.opened.erase (t, c)) = true → (Act.leave t c).deeds supply s = []) ∧
      (Blocks.isOpen c (past.opened.erase (t, c)) = false →
        (Act.leave t c).deeds supply s = (past.createdBy c).map (fun n => .disposed n (.ok ())) ∧
        ∀ role, ((Act.leave t c).after supply s).kept? c role = none)) ∧
    -- They are disposed of at no other time, and each of them once.
    (∀ a : Act, (∀ t c, a ≠ .leave t c) → ∀ d ∈ a.deeds supply s, d.disposed? = none) ∧
    (∀ c, (past.takenFor c).Perm (past.disposedFor c ++ past.createdBy c)) ∧
    -- What was created since then is kept and answered as it is; if there is none, a new cluster is
    -- created.
    (∀ c role, s.kept? c role = past.created c role) ∧
    (∀ c, c < s.contexts.length → ∀ t role,
      (∀ n, past.created c role = some n → ∃ part : ClusterPart, part.handle = n ∧
        (cluster supply t c role).run.run s = (.ok part, s) ∧
        (Act.cluster t c role).deeds supply s = []) ∧
      (past.created c role = none →
        (∀ catalog, ((loadCatalog supply t c role).run.run s).1 = .ok catalog →
          ∃ part : ClusterPart, part.catalog = catalog ∧
            ((cluster supply t c role).run.run s).1 = .ok part ∧
            (Act.cluster t c role).deeds supply s = [.took part.handle]) ∧
        ∀ f, ((loadCatalog supply t c role).run.run s).1 = .error f →
          ((cluster supply t c role).run.run s).1 = .error f ∧
            (Act.cluster t c role).deeds supply s = [])) ∧
    -- A context without blocks has no entry.
    (∀ c, past.opened.isOpen c = false →
      s.nesting.blocks.lookup c = none ∧ ∀ t, s.nesting.outer.lookup (c, t) = none) ∧
    -- Making a lock manager is entering a block and leaving it.
    ∀ t c, c < s.contexts.length →
      (∀ d ∈ (Act.leave t c).deeds supply ((Act.load t c lockSection).after supply
        ((Act.enter t c).after supply s)), d.isFine = true) →
      ∃ ds, Run supply
        (⟨.leave t c, ds⟩ :: ⟨.load t c lockSection, []⟩ :: ⟨.enter t c, []⟩ :: past)
        ((InContexts.lockManager supply t c).run.run s).2 ∧
      ((InContexts.lockManager supply t c).run.run s).1 =
        ((loadSection supply t c lockSection).run.run ((Act.enter t c).after supply s)).1 := by
  have hfits := h.fits
  refine ⟨fun t c ht => ?_, fun t ht => ?_, fun t c ht hfine => ?_, fun a ha d hd => History.disposed?_eq_none ha hd,
    h.isAccounted, hfits.kept, fun c hc t role => hfits.asking hc t role,
    fun c hc => ⟨hfits.nesting.blocks_eq_none hc, hfits.nesting.outer_eq_none hc⟩,
    fun t c hc hfine => h.lockManager hc t hfine⟩
  · rw [run_current, hfits.nesting.current, ht]
  · rw [run_current, hfits.nesting.current, ht]
  · obtain ⟨hok, hdeeds⟩ := hfits.run_leave ht hfine
    refine ⟨hok, fun hopen => by rw [hdeeds, if_pos hopen], fun hopen => ⟨?_, fun role => ?_⟩⟩
    · rw [hdeeds, hopen]
      rfl
    · have hafter := hfits.after (a := .leave t c) ht hfine
      rw [hafter.kept, History.created_leave, if_pos ⟨rfl, hopen⟩]

end

namespace Sample

def supply : Supply Nat where
  openKeyed n := (.ok n, n + 1)
  openRelational _ n := (.ok n, n + 1)
  takeIn _ n := (n, n + 1)
  dispose _ n := (.ok (), n)

def settings : Settings where
  configName := .null
  instanceName := none
  instanceId := "default"
  allowCopy := false
  stagingRoot := .null
  attributes := .map []
  sections := [("source", .map [("catalog", .map [
    ("class", .text "pydiverse.replication.backend.catalog.DictCatalog")])])]

/-- A context is entered twice by a thread and once by another one, and left by the first one. -/
def acts : List Act :=
  [.add settings, .enter 0 0, .cluster 0 0 .source, .enter 1 0, .enter 0 0, .leave 0 0, .leave 0 0]

/-- What is there then. -/
def there : History × Contexts Nat := follow supply ([], { outside := 0 }) acts

end Sample

open Sample in
/-- The other thread is still in its block, and leaving that disposes of the catalog. -/
theorem Run.nesting_exact_sample :
    Run supply there.1 there.2 ∧
    (current 0).run.run there.2 = (.error .outsideContext, there.2) ∧
    (current 1).run.run there.2 = (.ok 0, there.2) ∧
    (∃ part : ClusterPart, part.handle = 1 ∧
      (cluster supply 0 0 .source).run.run there.2 = (.ok part, there.2)) ∧
    (Act.leave 1 0).deeds supply there.2 = [.disposed 1 (.ok ())] ∧
    (there.1.takenFor 0).Perm (there.1.disposedFor 0 ++ [1]) := by
  have hrun : Run supply there.1 there.2 := (Run.start 0).follow (by decide +kernel)
  obtain ⟨hinside, houtside, hleave, -, haccounted, -, hcluster, -, -⟩ := hrun.nesting_exact
  have hcreated : there.1.createdBy 0 = [1] := by decide +kernel
  have hsource : there.1.created 0 .source = some 1 := by decide +kernel
  have hlast : Blocks.isOpen 0 (there.1.opened.erase (1, 0)) = false := by decide +kernel
  obtain ⟨-, -, hdisposed⟩ := hleave 1 0 (by decide +kernel) (by decide +kernel)
  obtain ⟨hkept, -⟩ := hcluster 0 (by decide +kernel) 0 .source
  obtain ⟨part, hpart, hanswer, -⟩ := hkept 1 hsource
  have hinner : there.1.opened.innermost? 1 = some 0 := by decide +kernel
  have hnone : there.1.opened.innermost? 0 = none := by decide +kernel
  refine ⟨hrun, houtside 0 hnone, hinside 1 0 hinner, ⟨part, hpart, hanswer⟩, ?_, ?_⟩
  · rw [(hdisposed hlast).1, hcreated]
    rfl
  · rw [← hcreated]
    exact haccounted 0

end CatalogReplication.Config
