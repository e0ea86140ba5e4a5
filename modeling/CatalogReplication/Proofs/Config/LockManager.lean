import CatalogReplication.Lab.Session
import CatalogReplication.Proofs.Assoc
import CatalogReplication.Proofs.Component.Loading
import CatalogReplication.Proofs.Config.Nesting

/-!
# Making a lock manager

A lock manager is made inside a block of its own, so that it can read the name of the instance. The
block itself leaves no trace (`Nesting.Fits.leave?_enter`), but like any other it closes the context
if it is the only one. So catalogs are left alone just if some block of the context is open or the
context keeps none (`Trail.lockManager_spares`). Otherwise they are disposed of, and tasks that were
made with them can't be run any more (`lockManager_disposes`).
-/

namespace CatalogReplication

namespace Config

open Component (isModest_load)
open Contexts (Untouched)
open InContexts
open Stateful (Stays stays_pure stays_throw)

variable {σ α : Type}

/-! ### What leaves the blocks alone -/

namespace InContexts

variable {supply : Supply σ} {t : Thread} {c : ContextId} {n : Nesting}

/-- Whatever comes of a step, the blocks are those that were there. -/
abbrev Still (n : Nesting) (step : InContexts σ α) : Prop := Stays (fun s => s.nesting = n) step

theorem still_context : Still n (context (σ := σ) c) := by
  intro s hs
  rw [run_context]
  cases s.contexts[c]? <;> exact hs

theorem still_update (f : Context → Context) : Still n (update (σ := σ) c f) := fun _ hs => hs

theorem still_outside (f : σ → Except Failure α × σ) : Still n (outside f) := by
  intro s hs
  rw [run_outside]
  exact hs

theorem still_reportAs (e : Error) {step : InContexts σ α} (h : Still n step) :
    Still n (reportAs e step) := by
  intro s hs
  rw [snd_run_reportAs]
  exact h s hs

theorem still_loadValue (v : Value) : Still n (loadValue supply t v) := by
  intro s hs
  rw [run_loadValue]
  exact still_outside _ s hs

theorem still_loadSection (name : String) : Still n (loadSection supply t c name) :=
  still_context.bind fun _ => still_reportAs _ (still_loadValue _)

theorem still_cluster (role : ClusterRole) : Still n (cluster supply t c role) := by
  refine still_context.bind fun x => ?_
  cases x.clusters.lookup role with
  | some part => exact stays_pure part
  | none =>
    have hload : Still n (loadCatalog supply t c role) :=
      still_context.bind fun _ => still_reportAs _ (still_loadValue _)
    exact hload.bind fun _ => (still_outside _).bind fun _ => (still_update _).bind fun _ =>
      stays_pure _

theorem still_component (role : Role) : Still n (component supply t c role) := by
  refine still_context.bind fun x => ?_
  cases x.components.lookup role with
  | some component => exact stays_pure component
  | none =>
    exact (still_loadSection _).bind fun _ => (still_update _).bind fun _ => stays_pure _

theorem still_giveUp (role : ClusterRole) : Still n (giveUp supply c role) := by
  refine still_context.bind fun x => ?_
  cases x.clusters.lookup role with
  | none => exact stays_pure ()
  | some part => exact (still_update _).bind fun _ => still_outside _

theorem still_close : Still n (close supply c) :=
  (still_giveUp .source).bind fun _ => still_giveUp .destination

end InContexts

/-! ### A block that is left at once -/

namespace Nesting

variable {bs : Blocks} {n : Nesting}

/-- What was current before is current again. -/
theorem withCurrent_current? (n : Nesting) (t : Thread) (c : ContextId) :
    ({ n with current := Assoc.put t c n.current }.withCurrent t (n.current? t)) = n := by
  unfold withCurrent current?
  cases hcurrent : n.current.lookup t with
  | none =>
    dsimp only
    rw [Assoc.erase_put hcurrent]
  | some d =>
    dsimp only
    rw [Assoc.put_put, Assoc.put_of_lookup hcurrent]

/-- **Entering a block and leaving it again** comes to nothing. -/
theorem Fits.leave?_enter (h : n.Fits bs) (c : ContextId) (t : Thread) :
    (n.enter c t).leave? c t = some (!bs.isOpen c, n) := by
  have hlookup : (n.enter c t).outer.lookup (c, t) =
      some (n.current? t :: (n.outer.lookup (c, t)).getD []) := by
    rw [outer_enter, Assoc.lookup_put_self]
  have houter : (if ((n.outer.lookup (c, t)).getD []).isEmpty then
        Assoc.erase (c, t) (n.enter c t).outer
      else Assoc.put (c, t) ((n.outer.lookup (c, t)).getD []) (n.enter c t).outer) = n.outer := by
    rw [outer_enter]
    cases hold : n.outer.lookup (c, t) with
    | none => exact Assoc.erase_put hold _
    | some rest =>
      have hrest : ¬ rest.isEmpty = true := fun hempty =>
        h.outer_ne c t (by rw [hold, List.isEmpty_iff.1 hempty])
      rw [Option.getD_some, if_neg hrest, Assoc.put_put, Assoc.put_of_lookup hold]
  have hleft : (n.enter c t).openBlocks c - 1 = n.openBlocks c := by
    rw [openBlocks_enter, Nat.add_sub_cancel]
  have hblocks : (if n.openBlocks c = 0 then Assoc.erase c (n.enter c t).blocks
      else Assoc.put c (n.openBlocks c) (n.enter c t).blocks) = n.blocks := by
    rw [blocks_enter]
    unfold openBlocks
    cases hold : n.blocks.lookup c with
    | none => exact Assoc.erase_put hold _
    | some k =>
      have hk : k ≠ 0 := fun hk => h.blocks_ne c (by rw [hold, hk])
      rw [Option.getD_some, if_neg hk, Assoc.put_put, Assoc.put_of_lookup hold]
  have hlast : decide (n.openBlocks c = 0) = !bs.isOpen c := by
    rw [h.blocks]
    simp [Blocks.count_eq_zero_iff]
  rw [leave?, hlookup]
  dsimp only
  rw [houter, hleft, hblocks, hlast]
  exact congrArg (fun m => some (!bs.isOpen c, m)) (withCurrent_current? n t c)
end Nesting

/-! ### Trails -/

/-- Acts of any threads in any order, whatever comes of them. Between them, anything may happen that
leaves the blocks and the clusters of contexts alone. -/
inductive Trail (supply : Supply σ) : History → Contexts σ → Prop where
  | start (outside : σ) : Trail supply [] { outside }
  | elsewhere {past : History} {s s' : Contexts σ} (h : Trail supply past s) (hs : Untouched s s') :
      Trail supply past s'
  | act {past : History} {s : Contexts σ} {a : Act} (h : Trail supply past s)
      (ha : a.IsAllowed past s) : Trail supply (⟨a, a.deeds supply s⟩ :: past) (a.after supply s)

section

variable {supply : Supply σ} {past : History} {s : Contexts σ} {t : Thread} {c : ContextId}

theorem Run.trail (h : Run supply past s) : Trail supply past s := by
  induction h with
  | start outside => exact .start outside
  | elsewhere _ hs ih => exact .elsewhere ih hs
  | act _ ha _ ih => exact .act ih ha

/-- The blocks are those that were entered and not left. -/
theorem Trail.nesting (h : Trail supply past s) : s.nesting.Fits past.opened := by
  induction h with
  | start outside => exact Nesting.fits_nil
  | elsewhere _ hs ih =>
    rw [hs.nesting]
    exact ih
  | @act past s a _ ha ih =>
    cases a with
    | enter t c => exact ih.enter c t
    | leave t c =>
      obtain ⟨n, hleave, hn⟩ := ih.leave ha
      show (((InContexts.leave supply t c).run.run s).2.nesting).Fits _
      rw [run_leave, hleave]
      cases !Blocks.isOpen c (past.opened.erase (t, c)) with
      | false => exact hn
      | true =>
        have hclose : ((close supply c).run.run { s with nesting := n }).2.nesting = n :=
          still_close _ rfl
        dsimp only
        rw [hclose]
        exact hn
    | cluster t c role =>
      show (((InContexts.cluster supply t c role).run.run s).2.nesting).Fits _
      rw [still_cluster role s rfl]
      exact ih
    | component t c role =>
      show (((InContexts.component supply t c role).run.run s).2.nesting).Fits _
      rw [still_component role s rfl]
      exact ih
    | load t c name =>
      show (((InContexts.loadSection supply t c name).run.run s).2.nesting).Fits _
      rw [still_loadSection name s rfl]
      exact ih
    | add settings => exact ih

/-! ### What making a lock manager comes to -/

theorem fst_run_reportAs_eq_ok_iff {e : Error} {step : InContexts σ α} {a : α} :
    ((reportAs e step).run.run s).1 = .ok a ↔ (step.run.run s).1 = .ok a := by
  unfold reportAs
  rcases h : step.run.run s with ⟨f | a', s'⟩
  · rw [Stateful.run_tryCatch_error h]
    cases f <;> exact ⟨nofun, nofun⟩
  · rw [Stateful.run_tryCatch_ok h]

theorem run_giveUp_of_kept?_eq_none (supply : Supply σ) {role : ClusterRole}
    (hc : c < s.contexts.length) (h : s.kept? c role = none) :
    (giveUp supply c role).run.run s = (.ok (), s) := by
  rw [Contexts.kept?_of_lt hc, Option.map_eq_none_iff] at h
  rw [giveUp, Stateful.run_bind, run_context, List.getElem?_eq_getElem hc]
  dsimp only
  rw [h]
  rfl

/-- There is nothing to do when a context is closed that keeps nothing. -/
theorem run_close_of_keptBy_eq_nil (supply : Supply σ) (hc : c < s.contexts.length)
    (h : s.keptBy c = []) : (close supply c).run.run s = (.ok (), s) := by
  simp only [Contexts.keptBy, List.append_eq_nil_iff, Option.toList_eq_nil_iff] at h
  rw [close, Stateful.run_bind, run_giveUp_of_kept?_eq_none supply hc h.1]
  exact run_giveUp_of_kept?_eq_none supply hc h.2

theorem snd_run_loadSection (supply : Supply σ) (t : Thread) (c : ContextId) (name : String)
    (s : Contexts σ) :
    ((loadSection supply t c name).run.run s).2 =
      { s with outside := ((loadSection supply t c name).run.run s).2.outside } := by
  have hmirrors : (loadSection supply t c name).run.run s.recording.plain = _ :=
    mirrors_loadSection name s.recording
  obtain ⟨world, hworld⟩ := aside_loadSection supply t c name s.recording
  have hs : s.recording.plain = s := rfl
  rw [hs] at hmirrors
  rw [hmirrors, hworld]
  rfl

/-- A lock manager is loaded in a block of its own; if it is the only one of the context, that is
closed. -/
theorem run_lockManager (supply : Supply σ) (hn : s.nesting.Fits past.opened) (t : Thread)
    (c : ContextId) :
    (lockManager supply t c).run.run s =
      let x := (loadSection supply t c lockSection).run.run ((enter t c).run.run s).2
      let s' := { s with outside := x.2.outside }
      if past.opened.isOpen c then (x.1, s')
      else (((close supply c).run.run s').1 >>= fun _ => x.1, ((close supply c).run.run s').2) := by
  rw [lockManager, run_inside]
  dsimp only
  rw [snd_run_loadSection, run_leave, run_enter]
  dsimp only
  rw [hn.leave?_enter]
  cases past.opened.isOpen c <;> rfl

/-- A block that isn't the only one, or of a context that keeps nothing. -/
theorem run_lockManager_of_spared (supply : Supply σ) (hn : s.nesting.Fits past.opened)
    (hc : c < s.contexts.length) (h : past.opened.isOpen c = true ∨ s.keptBy c = [])
    (t : Thread) :
    (lockManager supply t c).run.run s =
      let x := (loadSection supply t c lockSection).run.run ((enter t c).run.run s).2
      (x.1, { s with outside := x.2.outside }) := by
  rw [run_lockManager supply hn]
  generalize (loadSection supply t c lockSection).run.run ((enter t c).run.run s).2 = x
  cases hopen : past.opened.isOpen c with
  | true => rfl
  | false =>
    have hkept : s.keptBy c = [] := h.resolve_left (by rw [hopen]; nofun)
    have hclose :=
      run_close_of_keptBy_eq_nil supply (s := { s with outside := x.2.outside }) hc hkept
    dsimp only
    rw [if_neg nofun, hclose]
    rfl

/-- Loading a lock manager leaves the world as it was. -/
theorem outside_of_loadSection {name : String} {m : Component}
    (h : ((loadSection supply t c name).run.run s).1 = .ok m) (hm : m.isLockManager = true) :
    ((loadSection supply t c name).run.run s).2.outside = s.outside := by
  rw [loadSection, Stateful.run_bind, run_context] at h ⊢
  cases hx : s.contexts[c]? with
  | none => rfl
  | some x =>
    rw [hx] at h
    dsimp only at h ⊢
    rw [snd_run_reportAs]
    rw [fst_run_reportAs_eq_ok_iff, run_loadValue, run_outside] at h
    rw [run_loadValue, run_outside]
    exact (isModest_load _).run (fun _ _ => rfl) m h hm

theorem mirrors_lockManager :
    Stateful.Mirrors Contexts.plain (lockManager supply.recorded t c) (lockManager supply t c) := by
  intro s
  have hload : (loadSection supply t c lockSection).run.run ((enter t c).run.run s).2.plain = _ :=
    mirrors_loadSection lockSection ((enter t c).run.run s).2
  have hleave (s' : Contexts (Ledger σ)) : (InContexts.leave supply t c).run.run s'.plain = _ :=
    mirrors_leave s'
  rw [lockManager, lockManager, run_inside, run_inside]
  dsimp only
  rw [show ((enter t c).run.run s.plain).2 = ((enter t c).run.run s).2.plain from rfl, hload]
  dsimp only
  rw [hleave]

/-- **Making a lock manager spares the catalogs** if some thread is in a block of the context or the
context keeps none. Nothing is taken in and nothing disposed of, all contexts and blocks are as they
were, and what is left of it is that the lock manager was loaded, which changes nothing either. So
whatever is done next, such as running a task that was made before, comes to the same as without it.
Otherwise all catalogs of the context are disposed of and none is kept. -/
theorem Trail.lockManager_spares (h : Trail supply past s) (hc : c < s.contexts.length)
    (t : Thread) :
    let loading := (loadSection supply t c lockSection).run.run ((enter t c).run.run s).2
    let making := (lockManager supply t c).run.run s
    let deeds := ((lockManager supply.recorded t c).run.run s.recording).2.outside.deeds
    ((past.opened.isOpen c = true ∨ s.keptBy c = []) →
      deeds = [] ∧ making = (loading.1, { s with outside := loading.2.outside }) ∧
      ∀ m, making.1 = .ok m → m.isLockManager = true → making.2 = s) ∧
    (past.opened.isOpen c = false → (∀ d ∈ deeds, d.isFine = true) →
      deeds = (s.keptBy c).map (fun n => .disposed n (.ok ())) ∧
      ∀ role, making.2.kept? c role = none) := by
  intro loading making deeds
  have hloading : ((loadSection supply.recorded t c lockSection).run.run
      ((enter t c).run.run s.recording).2).2.outside.deeds = [] :=
    (aside_loadSection supply t c lockSection ((enter t c).run.run s.recording).2).deeds_eq
  constructor
  · intro hspared
    have hmaking := run_lockManager_of_spared supply h.nesting hc hspared t
    have hrecorded :=
      run_lockManager_of_spared supply.recorded (s := s.recording) h.nesting hc hspared t
    refine ⟨(congrArg (fun x => x.2.outside.deeds) hrecorded).trans hloading, hmaking,
      fun m hm hmanager => ?_⟩
    rw [show making = _ from hmaking] at hm ⊢
    have houtside : loading.2.outside = s.outside := outside_of_loadSection hm hmanager
    dsimp only
    rw [houtside]
  · intro hopen hfine
    have hrecorded := run_lockManager supply.recorded (s := s.recording) h.nesting t c
    have hplain : making.2 = ((lockManager supply.recorded t c).run.run s.recording).2.plain :=
      congrArg Prod.snd (mirrors_lockManager s.recording)
    rw [hplain]
    show deeds = _ ∧ ∀ role, Contexts.kept? c role
      ((lockManager supply.recorded t c).run.run s.recording).2 = none
    generalize (loadSection supply.recorded t c lockSection).run.run
      ((enter t c).run.run s.recording).2 = x at hloading hrecorded
    have hafter := congrArg Prod.snd hrecorded
    rw [hopen] at hafter
    dsimp only [deeds] at hfine ⊢
    rw [hafter] at hfine ⊢
    obtain ⟨-, hclosed⟩ := closed_close supply (c := c)
      (s := { s.recording with outside := x.2.outside }) hc hfine
    refine ⟨?_, fun role => ?_⟩
    · refine hclosed.deeds.trans ?_
      dsimp only
      rw [hloading]
      rfl
    · exact (hclosed.kept c role).trans (if_pos rfl)

end

/-! ### A task that was made before -/

namespace Trail.Sample

open Lab

/-- A cluster with a keyed catalog. -/
def clusterSection (name root : String) : Value :=
  .map [("name", .text name), ("fs_root", .text root),
    ("catalog", sectionFor "backend.catalog.DictCatalog")]

def settings : Settings where
  configName := .null
  instanceName := none
  instanceId := "default"
  allowCopy := true
  stagingRoot := .null
  attributes := .map []
  sections := [
    ("source", clusterSection "here" "/src"),
    ("destination", clusterSection "there" "/dst"),
    ("directory_reconciler", sectionFor "backend.directory.FsspecDirectoryReconciler"),
    ("destination_builder", sectionFor "core.policy.DefaultDestinationBuilder"),
    ("conflict_policy", sectionFor "core.policy.LoggingConflictPolicy"),
    ("lock_manager", sectionFor "backend.lock.NoLockManager"),
    ("trace_hook", sectionFor "context.trace_hook.TraceHook")]

/-- The clusters of a context are asked for, outside of all blocks. -/
def acts : List Act := [.add settings, .cluster 0 0 .source, .cluster 0 0 .destination]

/-- What is there then. -/
def there : History × Contexts World := follow World.supply ([], { outside := {} }) acts

def spec : Spec := { database := "shop", table := "orders" }

/-- A table is stored at the source. -/
def stocked : Contexts World :=
  { there.2 with outside := { there.2.outside with
      catalogs := there.2.outside.catalogs.set 0 { store := .keyed {
        databases := [("shop", { name := "shop" })]
        tables := [(spec, { database := "shop", name := "orders" })]
        lastId := 1 } } } }

/-- How a task for the table ends that was made before, if it is run in some contexts. -/
def outcomeIn (s : Contexts World) : Except Failure Outcome :=
  match ((Session.equip 0 false .null (.ok spec)).run.run
      { contexts := stocked, environment := [] }).1 with
  | .error e => .error e
  | .ok e =>
    (World.runTask (Session.partiesOf e) (e.task.program (Session.setupOf settings e))
      { world := s.outside, hook := e.hook.asHook }).1

theorem trail_stocked : Trail World.supply there.1 stocked :=
  .elsewhere ((Run.start ({} : World)).follow (by decide +kernel)).trail ⟨rfl, rfl⟩

end Trail.Sample

open Trail.Sample in
/-- While another thread is in a block of the context, the lock manager is made and nothing else
happens. -/
theorem Trail.lockManager_spares_sample :
    let s := (Act.enter 1 0).after Lab.World.supply stocked
    Trail Lab.World.supply (⟨.enter 1 0, []⟩ :: there.1) s ∧
    s.keptBy 0 = [0, 1] ∧
    ((lockManager Lab.World.supply 0 0).run.run s).1.toOption.isSome = true ∧
    ((lockManager Lab.World.supply 0 0).run.run s).2 = s := by
  intro s
  have hs : Trail Lab.World.supply (⟨.enter 1 0, []⟩ :: there.1) s :=
    trail_stocked.act (a := .enter 1 0) (by decide +kernel)
  have hmade : ((lockManager Lab.World.supply 0 0).run.run s).1.toOption.any
      Component.isLockManager = true := by decide +kernel
  obtain ⟨hspared, -⟩ := hs.lockManager_spares (c := 0) (by decide +kernel) 0
  obtain ⟨-, -, hsame⟩ := hspared (.inl rfl)
  cases hm : ((lockManager Lab.World.supply 0 0).run.run s).1 with
  | error e =>
    rw [hm] at hmade
    cases hmade
  | ok m =>
    rw [hm] at hmade
    exact ⟨hs, by decide +kernel, rfl, hsame m hm hmade⟩

open Trail.Sample in
/-- **A lock manager that is made outside of all blocks disposes of the catalogs** that the context
keeps. A task that was made before and would have succeeded can't be run any more. -/
theorem lockManager_disposes :
    let after := ((lockManager Lab.World.supply 0 0).run.run stocked).2
    Trail Lab.World.supply there.1 stocked ∧ there.1.opened.isOpen 0 = false ∧
    (outcomeIn stocked).toOption.map Outcome.isSuccessful = some true ∧
    (outcomeIn after).toOption.map Outcome.isSuccessful = none ∧
    stocked.keptBy 0 = [0, 1] ∧ after.keptBy 0 = [] := by
  refine ⟨trail_stocked, ?_⟩
  decide +kernel

end Config

end CatalogReplication
