import CatalogReplication.Proofs.Config.Blocks
import CatalogReplication.Proofs.Config.Keeping

/-!
# How contexts are used

Threads enter and leave blocks of contexts, ask for clusters and components and load other things,
one after the other in any order; each of these acts is one step. The acts of a run, with what was
done with catalogs in each of them, tell which blocks are open and which catalogs contexts keep
(`History.Fits`), and they do so after each further act (`History.Fits.after`).
-/

namespace CatalogReplication.Config

open Contexts (Untouched)
open InContexts

variable {σ : Type}

/-! ### Acts -/

/-- Something that a thread does with contexts. -/
inductive Act where
  | enter (t : Thread) (c : ContextId)
  | leave (t : Thread) (c : ContextId)
  /-- Asks for a cluster. -/
  | cluster (t : Thread) (c : ContextId) (role : ClusterRole)
  /-- Asks for a component. -/
  | component (t : Thread) (c : ContextId) (role : Role)
  /-- Loads the component of a section, which isn't kept. -/
  | load (t : Thread) (c : ContextId) (name : String)
  | add (settings : Settings)

namespace Act

/-- What contexts are like after an act. -/
def after (supply : Supply σ) (s : Contexts σ) : Act → Contexts σ
  | .enter t c => ((InContexts.enter t c).run.run s).2
  | .leave t c => ((InContexts.leave supply t c).run.run s).2
  | .cluster t c role => ((InContexts.cluster supply t c role).run.run s).2
  | .component t c role => ((InContexts.component supply t c role).run.run s).2
  | .load t c name => ((InContexts.loadSection supply t c name).run.run s).2
  | .add settings => ((InContexts.add settings).run.run s).2

/-- What is done with catalogs in an act. -/
def deeds (supply : Supply σ) (s : Contexts σ) (a : Act) : List Deed :=
  (a.after supply.recorded s.recording).outside.deeds

/-- Writing down what is done changes nothing. -/
theorem plain_after (supply : Supply σ) (s : Contexts (Ledger σ)) (a : Act) :
    (a.after supply.recorded s).plain = a.after supply s.plain := by
  cases a with
  | enter t c => rfl
  | leave t c => exact (congrArg Prod.snd (mirrors_leave s)).symm
  | cluster t c role => exact (congrArg Prod.snd (mirrors_cluster role s)).symm
  | component t c role => exact (congrArg Prod.snd (mirrors_component role s)).symm
  | load t c name => exact (congrArg Prod.snd (mirrors_loadSection name s)).symm
  | add settings => rfl

end Act

/-! ### What acts tell -/

/-- An act, with what was done with catalogs. -/
structure Entry where
  act : Act
  deeds : List Deed

/-- The acts of a run, the latest first. -/
abbrev History := List Entry

/-- The number under which something was taken in. -/
def Deed.taken? : Deed → Option Nat
  | .took handle => some handle
  | .disposed _ _ => none

/-- The number of what was disposed of. -/
def Deed.disposed? : Deed → Option Nat
  | .took _ => none
  | .disposed handle _ => some handle

/-- The numbers of what was taken in when a cluster of a context was asked for. -/
def Entry.takenFor (c : ContextId) : Entry → List Nat
  | ⟨.cluster _ d _, deeds⟩ => if d = c then deeds.filterMap Deed.taken? else []
  | _ => []

/-- The numbers of what was disposed of when a block of a context was left. -/
def Entry.disposedFor (c : ContextId) : Entry → List Nat
  | ⟨.leave _ d, deeds⟩ => if d = c then deeds.filterMap Deed.disposed? else []
  | _ => []

namespace History

/-- The blocks that were entered and not left. -/
def opened : History → Blocks
  | [] => []
  | ⟨.enter t c, _⟩ :: past => (t, c) :: opened past
  | ⟨.leave t c, _⟩ :: past => (opened past).erase (t, c)
  | _ :: past => opened past

/-- The number of the catalog that was taken in for a cluster since the last block of its context
was left. -/
def created (c : ContextId) (role : ClusterRole) : History → Option Nat
  | [] => none
  | ⟨.cluster _ d other, deeds⟩ :: past =>
    if c = d ∧ role = other then (deeds.findSome? Deed.taken?).or (created c role past)
    else created c role past
  | ⟨.leave t d, _⟩ :: past =>
    if c = d ∧ Blocks.isOpen d ((opened past).erase (t, d)) = false then none
    else created c role past
  | _ :: past => created c role past

/-- The numbers of the catalogs that were taken in for a context since its last block was left. -/
def createdBy (c : ContextId) (past : History) : List Nat :=
  (past.created c .source).toList ++ (past.created c .destination).toList

/-- The numbers of all catalogs that were taken in for a context. -/
def takenFor (c : ContextId) (past : History) : List Nat := past.flatMap (Entry.takenFor c)

/-- The numbers of all catalogs that were disposed of when a block of a context was left. -/
def disposedFor (c : ContextId) (past : History) : List Nat := past.flatMap (Entry.disposedFor c)

end History

/-! ### Runs -/

/-- Whether an act can come next: a block of a context that there is can be entered, and a thread
can leave its innermost block. -/
def Act.IsAllowed (past : History) (s : Contexts σ) : Act → Prop
  | .enter _ c => c < s.contexts.length
  | .leave t c => past.opened.innermost? t = some c
  | _ => True

/-- Acts of any threads in any order; no catalog fails to be disposed of. Between them, anything may
happen that leaves the blocks and the clusters of contexts alone. -/
inductive Run (supply : Supply σ) : History → Contexts σ → Prop where
  | start (outside : σ) : Run supply [] { outside }
  | elsewhere {past : History} {s s' : Contexts σ} (h : Run supply past s) (hs : Untouched s s') :
      Run supply past s'
  | act {past : History} {s : Contexts σ} {a : Act} (h : Run supply past s)
      (ha : a.IsAllowed past s) (hfine : ∀ d ∈ a.deeds supply s, d.isFine = true) :
      Run supply (⟨a, a.deeds supply s⟩ :: past) (a.after supply s)

/-! ### What contexts are like after acts -/

/-- Contexts are as the acts before tell. -/
structure History.Fits (past : History) (s : Contexts σ) : Prop where
  nesting : s.nesting.Fits past.opened
  exist : ∀ t c, (t, c) ∈ past.opened → c < s.contexts.length
  kept : ∀ c role, s.kept? c role = past.created c role

section

variable {supply : Supply σ} {past : History} {s s' : Contexts σ} {r : Contexts (Ledger σ)}
  {t : Thread} {c : ContextId} {role : ClusterRole}

namespace History

theorem Fits.of_untouched (h : past.Fits s) (hs : Untouched s s') : past.Fits s' where
  nesting := by
    rw [hs.nesting]
    exact h.nesting
  exist t c hmem := by
    rw [hs.length_eq]
    exact h.exist t c hmem
  kept c role := by
    rw [hs.kept?_eq, h.kept]

theorem Fits.keptBy_eq (h : past.Fits s) (c : ContextId) : s.keptBy c = past.createdBy c := by
  rw [Contexts.keptBy, h.kept, h.kept, createdBy]

theorem Fits.exists_of_innermost? (h : past.Fits s) (ht : past.opened.innermost? t = some c) :
    c < s.contexts.length :=
  h.exist t c (Blocks.mem_of_innermost? ht)

/-! #### Entering -/

theorem Fits.enter (h : past.Fits r) (hc : c < r.contexts.length) (ds : List Deed) :
    Fits (⟨.enter t c, ds⟩ :: past) ((Act.enter t c).after supply.recorded r) where
  nesting := h.nesting.enter c t
  exist u d hmem := by
    obtain heq | hmem := List.mem_cons.1 hmem
    · cases heq
      exact hc
    · exact h.exist u d hmem
  kept := h.kept

/-! #### Leaving -/

/-- What it comes to to leave a block of a context; `bs` are the blocks that stay. -/
inductive Leaving (bs : Blocks) (c : ContextId) (r : Contexts (Ledger σ)) :
    Except Failure Unit × Contexts (Ledger σ) → Prop where
  | within {n : Nesting} (hn : n.Fits bs) (hopen : bs.isOpen c = true) :
      Leaving bs c r (.ok (), { r with nesting := n })
  | last {n : Nesting} {r' : Contexts (Ledger σ)} (hn : n.Fits bs) (hclosed : bs.isOpen c = false)
      (hr : Closed c { r with nesting := n } r') : Leaving bs c r (.ok (), r')

theorem Fits.leaving (h : past.Fits r) (ht : past.opened.innermost? t = some c)
    (hfine : ∀ d ∈ ((Act.leave t c).after supply.recorded r).outside.deeds, d.isFine = true) :
    Leaving (past.opened.erase (t, c)) c r
      ((InContexts.leave supply.recorded t c).run.run r) := by
  obtain ⟨n, hleave, hn⟩ := h.nesting.leave ht
  unfold Act.after at hfine
  dsimp only at hfine
  rw [run_leave, hleave] at hfine ⊢
  cases hopen : Blocks.isOpen c (past.opened.erase (t, c)) with
  | true => exact .within hn hopen
  | false =>
    rw [hopen] at hfine
    obtain ⟨hok, hclosed⟩ := closed_close supply (s := { r with nesting := n })
      (h.exists_of_innermost? ht) hfine
    have hclose : (close supply.recorded c).run.run { r with nesting := n } =
        (.ok (), ((close supply.recorded c).run.run { r with nesting := n }).2) := Prod.ext hok rfl
    show Leaving _ c r ((close supply.recorded c).run.run { r with nesting := n })
    rw [hclose]
    exact .last hn hopen hclosed

theorem created_leave (d : ContextId) (other : ClusterRole) (ds : List Deed) :
    created d other (⟨.leave t c, ds⟩ :: past) =
      if d = c ∧ Blocks.isOpen c (past.opened.erase (t, c)) = false then none
      else past.created d other := rfl

theorem Fits.leave (h : past.Fits r) (ht : past.opened.innermost? t = some c)
    (hfine : ∀ d ∈ ((Act.leave t c).after supply.recorded r).outside.deeds, d.isFine = true)
    (ds : List Deed) :
    Fits (⟨.leave t c, ds⟩ :: past) ((Act.leave t c).after supply.recorded r) := by
  have hleaving := h.leaving ht hfine
  unfold Act.after
  dsimp only
  generalize (InContexts.leave supply.recorded t c).run.run r = x at hleaving
  cases hleaving with
  | within hn hopen =>
    refine ⟨hn, fun u d hmem => h.exist u d (List.mem_of_mem_erase hmem), fun d other => ?_⟩
    rw [created_leave, if_neg (by simp [hopen])]
    exact h.kept d other
  | last hn hclosed hr =>
    refine ⟨?_, fun u d hmem => ?_, fun d other => ?_⟩
    · dsimp only
      rw [hr.nesting]
      exact hn
    · dsimp only
      rw [hr.length_eq]
      exact h.exist u d (List.mem_of_mem_erase hmem)
    · rw [hr.kept, created_leave]
      by_cases hd : d = c
      · rw [if_pos hd, if_pos ⟨hd, hclosed⟩]
      · rw [if_neg hd, if_neg fun hdc => hd hdc.1]
        exact h.kept d other

/-! #### Asking for a cluster -/

/-- A context that isn't there keeps no clusters and answers nothing. -/
theorem run_cluster_of_not_lt (supply : Supply σ) (hc : ¬ c < s.contexts.length) :
    (InContexts.cluster supply t c role).run.run s = (.error .outsideContext, s) := by
  rw [InContexts.cluster, Stateful.run_bind, run_context,
    List.getElem?_eq_none (Nat.not_lt.1 hc)]

theorem created_cluster (d : ContextId) (other : ClusterRole) (ds : List Deed) :
    created d other (⟨.cluster t c role, ds⟩ :: past) =
      if d = c ∧ other = role then (ds.findSome? Deed.taken?).or (created d other past)
      else created d other past := rfl

theorem Fits.cluster (h : past.Fits r) (hr : r.outside.deeds = []) :
    Fits (⟨.cluster t c role, ((Act.cluster t c role).after supply.recorded r).outside.deeds⟩ ::
      past) ((Act.cluster t c role).after supply.recorded r) := by
  unfold Act.after
  dsimp only
  by_cases hc : c < r.contexts.length
  · have hasked := asked_cluster supply t role hc
    generalize (InContexts.cluster supply.recorded t c role).run.run r = x at hasked
    cases hasked with
    | kept hkept =>
      refine ⟨h.nesting, h.exist, fun d other => ?_⟩
      rw [created_cluster, hr, h.kept]
      exact (ite_self _).symm
    | failed hkept hloaded haside =>
      obtain ⟨world, rfl⟩ := haside
      refine ⟨h.nesting, h.exist, fun d other => ?_⟩
      rw [created_cluster]
      dsimp only
      rw [hr]
      exact (h.kept d other).trans (ite_self _).symm
    | made hnone hloaded hnesting hlength hkept hdeeds =>
      refine ⟨?_, fun u d hmem => ?_, fun d other => ?_⟩
      · dsimp only
        rw [hnesting]
        exact h.nesting
      · dsimp only
        rw [hlength]
        exact h.exist u d hmem
      · rw [created_cluster, hkept, hdeeds, hr, h.kept]
        rfl
  · rw [run_cluster_of_not_lt _ hc]
    refine ⟨h.nesting, h.exist, fun d other => ?_⟩
    rw [created_cluster, hr, h.kept]
    exact (ite_self _).symm

/-! #### The other acts -/

theorem Fits.add (h : past.Fits r) (settings : Settings) (ds : List Deed) :
    Fits (⟨.add settings, ds⟩ :: past) ((Act.add settings).after supply.recorded r) where
  nesting := h.nesting
  exist t c hmem := by
    unfold Act.after
    dsimp only
    rw [run_add, List.length_append]
    exact Nat.lt_add_right _ (h.exist t c hmem)
  kept c role := by
    refine Eq.trans ?_ (h.kept c role)
    unfold Act.after Contexts.kept? Contexts.clustersOf
    dsimp only
    rw [run_add]
    dsimp only
    rcases Nat.lt_trichotomy c r.contexts.length with hc | rfl | hc
    · rw [List.getElem?_append_left hc]
    · simp
    · rw [List.getElem?_eq_none (Nat.le_of_lt hc), List.getElem?_eq_none]
      rw [List.length_append]
      exact hc

/-- **What the acts of a run tell** stays right with every act. -/
theorem Fits.after {a : Act} (h : past.Fits s) (ha : a.IsAllowed past s)
    (hfine : ∀ d ∈ a.deeds supply s, d.isFine = true) :
    Fits (⟨a, a.deeds supply s⟩ :: past) (a.after supply s) := by
  have hr : past.Fits s.recording := ⟨h.nesting, h.exist, h.kept⟩
  suffices hafter : Fits (⟨a, a.deeds supply s⟩ :: past) (a.after supply.recorded s.recording) by
    rw [show a.after supply s = (a.after supply.recorded s.recording).plain from
      (a.plain_after supply s.recording).symm]
    exact ⟨hafter.nesting, hafter.exist, hafter.kept⟩
  cases a with
  | enter t c => exact hr.enter ha _
  | leave t c => exact hr.leave ha hfine _
  | cluster t c role => exact hr.cluster rfl
  | component t c role =>
    obtain ⟨hnesting, hexist, hkept⟩ :=
      hr.of_untouched (untouched_component supply t c role s.recording).1
    exact ⟨hnesting, hexist, hkept⟩
  | load t c name =>
    obtain ⟨hnesting, hexist, hkept⟩ :=
      hr.of_untouched (aside_loadSection supply t c name s.recording).untouched
    exact ⟨hnesting, hexist, hkept⟩
  | add settings => exact hr.add settings _

end History

theorem Run.fits (h : Run supply past s) : past.Fits s := by
  induction h with
  | start outside => exact ⟨Nesting.fits_nil, nofun, fun _ _ => rfl⟩
  | elsewhere _ hs ih => exact ih.of_untouched hs
  | act _ ha hfine ih => exact ih.after ha hfine

end

end CatalogReplication.Config
