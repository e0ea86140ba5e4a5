import CatalogReplication.Proofs.Lock.Crew
import Mathlib.Data.Fintype.Basic
import Mathlib.Data.Finset.Card

/-!
# Locks exclude

However the steps of a crew interleave, its registry is exact for the numbers of workers that hold
and that wait for each lock (`Crew.Reachable.exact`), since every change of a worker changes the
registry and these numbers alike (`Crew.exact_after`). So two workers never hold a lock that one of
them holds exclusively, and no two are inside tasks for the same object, or for a table and one of
its partitions (`Crew.exclusion`).
-/

namespace CatalogReplication.Lock

/-! ### Counting workers -/

namespace Worker

/-- Whether the worker's manager holds a lock. -/
def Holds (r : Requirement) (w : Worker) : Prop := r ∈ w.manager.held

/-- Whether the worker waits for a lock. -/
def WaitsFor (r : Requirement) (w : Worker) : Prop := w.place.waitsFor = some r

instance (r : Requirement) : DecidablePred (Holds r) := fun w => by unfold Holds; infer_instance

instance (r : Requirement) : DecidablePred (WaitsFor r) := fun w => by
  unfold WaitsFor
  infer_instance

@[simp] theorem holds_notified (r : Requirement) (w : Worker) :
    Holds r w.notified ↔ Holds r w := Iff.rfl

@[simp] theorem waitsFor_notified (r : Requirement) (w : Worker) :
    WaitsFor r w.notified ↔ WaitsFor r w := by
  unfold WaitsFor notified
  rw [Place.waitsFor_notified]

section

variable {w w' : Worker} {r : Requirement}

theorem holds_congr (h : w'.manager.held = w.manager.held) (r : Requirement) :
    Holds r w' ↔ Holds r w := by
  unfold Holds
  rw [h]

theorem holds_concat (h : w'.manager.held = w.manager.held ++ [r]) (r' : Requirement) :
    Holds r' w' ↔ Holds r' w ∨ r' = r := by
  unfold Holds
  rw [h, List.mem_append, List.mem_singleton]

theorem holds_filter (h : w'.manager.held = w.manager.held.filter fun x => !(x == r))
    (r' : Requirement) : Holds r' w' ↔ Holds r' w ∧ r' ≠ r := by
  unfold Holds
  rw [h, List.mem_filter]
  simp

theorem waitsFor_congr (h : w'.place.waitsFor = w.place.waitsFor) (r : Requirement) :
    WaitsFor r w' ↔ WaitsFor r w := by
  unfold WaitsFor
  rw [h]

theorem not_waitsFor (h : w.place.waitsFor = none) (r : Requirement) : ¬ WaitsFor r w := by
  unfold WaitsFor
  rw [h]
  exact nofun

theorem waitsFor_started (hbefore : w.place.waitsFor = none)
    (hafter : w'.place.waitsFor = some r) (r' : Requirement) :
    WaitsFor r' w' ↔ WaitsFor r' w ∨ r' = r := by
  unfold WaitsFor
  rw [hbefore, hafter]
  simp [eq_comm]

theorem waitsFor_stopped (hbefore : w.place.waitsFor = some r)
    (hafter : w'.place.waitsFor = none) (r' : Requirement) :
    WaitsFor r' w' ↔ WaitsFor r' w ∧ r' ≠ r := by
  unfold WaitsFor
  rw [hbefore, hafter]
  simp [eq_comm]

end

end Worker

namespace Crew

section

variable {ι : Type} [Fintype ι] {P : Requirement → Worker → Prop} [∀ r, DecidablePred (P r)]

/-- How many workers there are of a kind that depends on a lock. -/
def count (P : Requirement → Worker → Prop) [∀ r, DecidablePred (P r)] (c : Crew ι)
    (r : Requirement) : Nat :=
  (Finset.univ.filter fun i => P r (c.worker i)).card

theorem count_pos_iff {c : Crew ι} {r : Requirement} :
    0 < count P c r ↔ ∃ i, P r (c.worker i) := by
  unfold count
  rw [Finset.card_pos]
  constructor
  · rintro ⟨i, hi⟩
    exact ⟨i, (Finset.mem_filter.1 hi).2⟩
  · rintro ⟨i, hi⟩
    exact ⟨i, Finset.mem_filter.2 ⟨Finset.mem_univ _, hi⟩⟩

theorem count_eq_zero_iff {c : Crew ι} {r : Requirement} :
    count P c r = 0 ↔ ∀ i, ¬ P r (c.worker i) := by
  rw [← not_exists, ← count_pos_iff, Nat.pos_iff_ne_zero, not_not]

theorem count_le_one_iff {c : Crew ι} {r : Requirement} :
    count P c r ≤ 1 ↔ ∀ i j, P r (c.worker i) → P r (c.worker j) → i = j := by
  unfold count
  rw [Finset.card_le_one]
  simp only [Finset.mem_filter, Finset.mem_univ, true_and]
  exact ⟨fun h i j hi hj => h i hi j hj, fun h i hi j hj => h i j hi hj⟩

theorem count_eq_one_iff {c : Crew ι} {r : Requirement} :
    count P c r = 1 ↔ ∃! i, P r (c.worker i) := by
  unfold count
  rw [Finset.card_eq_one]
  simp only [Finset.eq_singleton_iff_unique_mem, Finset.mem_filter, Finset.mem_univ, true_and]
  rfl

/-! ### Exact registries -/

/-- Whether the registry is right about who holds and who waits for the locks. -/
def IsExact (c : Crew ι) : Prop :=
  c.registry.Exact (count Worker.Holds c) (count Worker.WaitsFor c)

theorem exact_fresh (isPatient : ι → Bool) : (fresh isPatient).IsExact := by
  have hheld : count Worker.Holds (fresh isPatient) = fun _ => 0 :=
    funext fun r => count_eq_zero_iff.2 fun i => List.not_mem_nil
  have hwaits : count Worker.WaitsFor (fresh isPatient) = fun _ => 0 :=
    funext fun r => count_eq_zero_iff.2 fun i => Worker.not_waitsFor rfl r
  unfold IsExact
  rw [hheld, hwaits]
  exact Registry.exact_empty

variable {c : Crew ι} {k : String}

/-- A key that a worker holds exclusively is held in no other way. -/
theorem IsExact.alone_of_holds (h : c.IsExact) {i j : ι} {kind : Kind}
    (hi : (c.worker i).Holds ⟨.exclusive, k⟩) (hj : (c.worker j).Holds ⟨kind, k⟩) :
    i = j ∧ kind = .exclusive := by
  have hle := h.le_one k
  cases kind with
  | exclusive => exact ⟨count_le_one_iff.1 hle i j hi hj, rfl⟩
  | shared =>
    have hone : count Worker.Holds c ⟨.exclusive, k⟩ = 1 :=
      Nat.le_antisymm hle (count_pos_iff.2 ⟨i, hi⟩)
    exact absurd hj (count_eq_zero_iff.1 (h.alone k hone) j)

theorem IsExact.mem_exclusive_iff (h : c.IsExact) :
    k ∈ c.registry.exclusive ↔ ∃! i, (c.worker i).Holds ⟨.exclusive, k⟩ :=
  (h.mem_exclusive k).trans count_eq_one_iff

/-- While an exclusive request for a key waits, no shared lock on it can be granted. -/
theorem IsExact.not_waitsFor_of_grants (h : c.IsExact)
    (hg : c.registry.grants ⟨.shared, k⟩ = true) (i : ι) :
    ¬ (c.worker i).WaitsFor ⟨.exclusive, k⟩ :=
  count_eq_zero_iff.1 (((h.grants_iff ⟨.shared, k⟩).1 hg).2 : count _ c ⟨.exclusive, k⟩ = 0) i

end

section

variable {ι : Type} [DecidableEq ι]

@[simp] theorem worker_after_self (i : ι) (isLoud : Bool) (g : Registry) (w : Worker)
    (c : Crew ι) : (c.after i isLoud g w).worker i = w := by
  simp [after]

theorem worker_after_of_ne {i j : ι} (h : j ≠ i) (isLoud : Bool) (g : Registry) (w : Worker)
    (c : Crew ι) : (c.after i isLoud g w).worker j =
      if isLoud then (c.worker j).notified else c.worker j := by
  simp [after, h]

end

section

variable {ι : Type} [DecidableEq ι] [Fintype ι]
variable {P : Requirement → Worker → Prop} [∀ r, DecidablePred (P r)]

/-- The workers of a kind after a step of one of them, if the kind doesn't depend on being
notified. -/
theorem filter_after (hP : ∀ r w, P r w.notified ↔ P r w) (c : Crew ι) (i : ι) (isLoud : Bool)
    (g : Registry) (w : Worker) (r : Requirement) :
    (Finset.univ.filter fun j => P r ((c.after i isLoud g w).worker j)) =
      if P r w then insert i (Finset.univ.filter fun j => P r (c.worker j))
      else (Finset.univ.filter fun j => P r (c.worker j)).erase i := by
  have hother : ∀ j, j ≠ i → (P r ((c.after i isLoud g w).worker j) ↔ P r (c.worker j)) := by
    intro j hj
    rw [worker_after_of_ne hj]
    split
    · exact hP _ _
    · exact Iff.rfl
  ext j
  by_cases hj : j = i
  · subst hj
    by_cases hw : P r w <;> simp [hw]
  · by_cases hw : P r w <;> simp [hw, hj, hother j hj]

variable {c : Crew ι} {i : ι} {isLoud : Bool} {g : Registry} {w : Worker} {r : Requirement}

theorem count_after_of_iff (hP : ∀ r w, P r w.notified ↔ P r w)
    (h : ∀ r, P r w ↔ P r (c.worker i)) : count P (c.after i isLoud g w) = count P c := by
  funext r
  unfold count
  rw [filter_after hP]
  by_cases hw : P r w
  · rw [if_pos hw, Finset.insert_eq_of_mem (by simpa using (h r).1 hw)]
  · rw [if_neg hw, Finset.erase_eq_of_notMem (by simpa using fun hc => hw ((h r).2 hc))]

theorem count_after_of_gain (hP : ∀ r w, P r w.notified ↔ P r w)
    (h : ∀ r', P r' w ↔ P r' (c.worker i) ∨ r' = r) (hr : ¬ P r (c.worker i)) :
    count P (c.after i isLoud g w) = Function.update (count P c) r (count P c r + 1) := by
  funext r'
  unfold count
  rw [filter_after hP]
  by_cases hr' : r' = r
  · subst hr'
    rw [Function.update_self, if_pos ((h r').2 (.inr rfl)), Finset.card_insert_of_notMem (by simpa)]
  · rw [Function.update_of_ne hr']
    by_cases hw : P r' w
    · have hc : P r' (c.worker i) := ((h r').1 hw).resolve_right hr'
      rw [if_pos hw, Finset.insert_eq_of_mem (by simpa)]
    · have hc : ¬ P r' (c.worker i) := fun hc => hw ((h r').2 (.inl hc))
      rw [if_neg hw, Finset.erase_eq_of_notMem (by simpa)]

theorem count_after_of_loss (hP : ∀ r w, P r w.notified ↔ P r w)
    (h : ∀ r', P r' w ↔ P r' (c.worker i) ∧ r' ≠ r) (hr : P r (c.worker i)) :
    count P (c.after i isLoud g w) = Function.update (count P c) r (count P c r - 1) := by
  funext r'
  unfold count
  rw [filter_after hP]
  by_cases hr' : r' = r
  · subst hr'
    rw [Function.update_self, if_neg (fun hw => ((h r').1 hw).2 rfl),
      Finset.card_erase_of_mem (by simpa)]
  · rw [Function.update_of_ne hr']
    by_cases hw : P r' w
    · have hc : P r' (c.worker i) := ((h r').1 hw).1
      rw [if_pos hw, Finset.insert_eq_of_mem (by simpa)]
    · have hc : ¬ P r' (c.worker i) := fun hc => hw ((h r').2 ⟨hc, hr'⟩)
      rw [if_neg hw, Finset.erase_eq_of_notMem (by simpa)]

/-! ### Steps keep the registry exact -/

/-- **A change of a worker keeps the registry exact.** -/
theorem exact_after (h : c.IsExact) (hc : Worker.Change c.registry (c.worker i) g w) :
    (c.after i isLoud g w).IsExact := by
  unfold IsExact at h ⊢
  cases hc with
  | none hheld hwaits =>
    rw [count_after_of_iff Worker.holds_notified (Worker.holds_congr hheld),
      count_after_of_iff Worker.waitsFor_notified (Worker.waitsFor_congr hwaits)]
    exact h
  | grant r hnew hgrants hheld hbefore hafter =>
    rw [count_after_of_gain Worker.holds_notified (Worker.holds_concat hheld) hnew,
      count_after_of_iff Worker.waitsFor_notified
        (Worker.waitsFor_congr (hafter.trans hbefore.symm))]
    exact h.grant hgrants
  | startWaiting r hgrants hheld hbefore hafter =>
    rw [count_after_of_iff Worker.holds_notified (Worker.holds_congr hheld),
      count_after_of_gain Worker.waitsFor_notified (Worker.waitsFor_started hbefore hafter)
        (Worker.not_waitsFor hbefore r)]
    exact h.startWaiting r
  | grantWaited r hnew hgrants hheld hbefore hafter =>
    rw [count_after_of_gain Worker.holds_notified (Worker.holds_concat hheld) hnew,
      count_after_of_loss Worker.waitsFor_notified (Worker.waitsFor_stopped hbefore hafter)
        hbefore]
    have hwaits : 0 < count Worker.WaitsFor c r := count_pos_iff.2 ⟨i, hbefore⟩
    exact (h.stopWaiting hwaits).grant ((Registry.grants_stopWaiting_self r _).trans hgrants)
  | stopWaiting r hheld hbefore hafter =>
    rw [count_after_of_iff Worker.holds_notified (Worker.holds_congr hheld),
      count_after_of_loss Worker.waitsFor_notified (Worker.waitsFor_stopped hbefore hafter)
        hbefore]
    exact h.stopWaiting (count_pos_iff.2 ⟨i, hbefore⟩)
  | giveBack r hold hheld hbefore hafter =>
    rw [count_after_of_loss Worker.holds_notified (Worker.holds_filter hheld) hold,
      count_after_of_iff Worker.waitsFor_notified
        (Worker.waitsFor_congr (hafter.trans hbefore.symm))]
    exact h.giveBack (count_pos_iff.2 ⟨i, hold⟩)

end

/-! ### What holds of every crew -/

theorem sound_fresh {ι : Type} (isPatient : ι → Bool) (i : ι) :
    ((fresh isPatient).worker i).Sound :=
  ⟨⟨_, rfl⟩, List.nodup_nil, trivial⟩

section

variable {ι : Type} [DecidableEq ι] {may : Errand → Prop} {isPatient : ι → Bool} {c c' : Crew ι}
variable {i : ι} {a : Act}

theorem Step.sound (hs : Step may i a c c') (h : ∀ j, (c.worker j).Sound) :
    ∀ j, (c'.worker j).Sound := by
  obtain ⟨hm⟩ := hs
  intro j
  by_cases hj : j = i
  · subst hj
    rw [worker_after_self]
    exact hm.sound (h j)
  · rw [worker_after_of_ne hj]
    split
    · exact (h j).notified
    · exact h j

theorem Reachable.sound (h : Reachable may isPatient c) (i : ι) : (c.worker i).Sound := by
  induction h generalizing i with
  | fresh => exact sound_fresh isPatient i
  | step h hs ih => exact hs.sound ih i

/-- A lock that a worker comes to hold by a step was grantable before. -/
theorem grants_of_step (hs : Step may i a c c') (h : ∀ j, (c.worker j).Sound) {j : ι}
    {r : Requirement} (hbefore : ¬ (c.worker j).Holds r) (hafter : (c'.worker j).Holds r) :
    c.registry.grants r = true := by
  obtain ⟨hm⟩ := hs
  by_cases hj : j = i
  · subst hj
    rw [worker_after_self] at hafter
    cases hm.change (h j) with
    | none hheld => exact absurd ((Worker.holds_congr hheld r).1 hafter) hbefore
    | startWaiting _ _ hheld => exact absurd ((Worker.holds_congr hheld r).1 hafter) hbefore
    | stopWaiting _ hheld => exact absurd ((Worker.holds_congr hheld r).1 hafter) hbefore
    | giveBack _ _ hheld => exact absurd ((Worker.holds_filter hheld r).1 hafter).1 hbefore
    | grant r' _ hgrants hheld =>
      obtain rfl := ((Worker.holds_concat hheld r).1 hafter).resolve_left hbefore
      exact hgrants
    | grantWaited r' _ hgrants hheld =>
      obtain rfl := ((Worker.holds_concat hheld r).1 hafter).resolve_left hbefore
      exact hgrants
  · rw [worker_after_of_ne hj] at hafter
    split at hafter <;> exact absurd hafter hbefore

variable [Fintype ι]

/-- **The registry is always exact.** -/
theorem Reachable.exact (h : Reachable may isPatient c) : c.IsExact := by
  induction h with
  | fresh => exact exact_fresh isPatient
  | step h hs ih =>
    obtain ⟨hm⟩ := hs
    exact exact_after ih (hm.change (h.sound _))

end

end Crew

/-! ### Exclusion -/

/-- Tasks for one object, or for a table and a partition of it, need a key of which one of them
takes the exclusive lock. -/
theorem requiredLocks_exclude {s s' : Spec}
    (h : s = s' ∨ s.isPartition = false ∧ s'.tableSpec = s.tableSpec) :
    ∃ k kind, ⟨.exclusive, k⟩ ∈ s.requiredLocks.requirements ∧
      ⟨kind, k⟩ ∈ s'.requiredLocks.requirements := by
  unfold Spec.requiredLocks
  rcases h with rfl | ⟨hs, hs'⟩
  · cases hs : s.isPartition
    · refine ⟨s.tableSpec.text, .exclusive, ?_, ?_⟩ <;> simp [LockSet.mem_ofList]
    · refine ⟨s.text, .exclusive, ?_, ?_⟩ <;> simp [LockSet.mem_ofList]
  · rw [hs, hs']
    cases hp : s'.isPartition
    · refine ⟨s.tableSpec.text, .exclusive, ?_, ?_⟩ <;> simp [LockSet.mem_ofList]
    · refine ⟨s.tableSpec.text, .shared, ?_, ?_⟩ <;> simp [LockSet.mem_ofList]

namespace Worker

/-- Whether the worker is inside the task for an object. -/
def IsInside (s : Spec) (w : Worker) : Prop := ∃ taken, w.place = .inside (.task s) taken

theorem IsInside.holds {s : Spec} {w : Worker} (h : w.IsInside s) (hw : w.Sound)
    {r : Requirement} (hr : r ∈ s.requiredLocks.requirements) : w.Holds r := by
  obtain ⟨taken, hplace⟩ := h
  have hfits := hw.place
  rw [hplace] at hfits
  obtain ⟨rfl, htaken⟩ := hfits
  exact htaken hr

end Worker

/-- **Locks exclude.** Whatever errands the workers of a crew run, and however their steps
interleave: no two are inside tasks for the same object, or for a table and one of its partitions.
The registry says exactly how many hold each lock shared and who holds one exclusively, which is at
most one and then nobody shares it, and how many wait to do so. And no shared lock is granted while
an exclusive request for its key waits. -/
theorem Crew.exclusion {ι : Type} [Fintype ι] [DecidableEq ι] {isPatient : ι → Bool} {c : Crew ι}
    (h : Reachable (fun _ => True) isPatient c) :
    (∀ i j s s', i ≠ j → (c.worker i).IsInside s → (c.worker j).IsInside s' →
      s ≠ s' ∧ (s.isPartition = false → s'.tableSpec ≠ s.tableSpec)) ∧
    Tallies c.registry.shared (fun k => count Worker.Holds c ⟨.shared, k⟩) ∧
    (∀ k, (k ∈ c.registry.exclusive ↔ ∃! i, (c.worker i).Holds ⟨.exclusive, k⟩) ∧
      ∀ i j kind, (c.worker i).Holds ⟨.exclusive, k⟩ → (c.worker j).Holds ⟨kind, k⟩ →
        i = j ∧ kind = .exclusive) ∧
    Tallies c.registry.waiting (fun k => count Worker.WaitsFor c ⟨.exclusive, k⟩) ∧
    ∀ i a c', Step (fun _ => True) i a c c' → ∀ j k, ¬ (c.worker j).Holds ⟨.shared, k⟩ →
      (c'.worker j).Holds ⟨.shared, k⟩ → ∀ l, ¬ (c.worker l).WaitsFor ⟨.exclusive, k⟩ := by
  have hexact := h.exact
  refine ⟨fun i j s s' hij hi hj => ?_, hexact.shared, fun k => ⟨hexact.mem_exclusive_iff,
    fun i j kind => hexact.alone_of_holds⟩, hexact.waiting, fun i a c' hs j k hbefore hafter => ?_⟩
  · have hapart : ¬ (s = s' ∨ s.isPartition = false ∧ s'.tableSpec = s.tableSpec) := by
      intro hclash
      obtain ⟨k, kind, hmem, hmem'⟩ := requiredLocks_exclude hclash
      exact hij (hexact.alone_of_holds (hi.holds (h.sound i) hmem) (hj.holds (h.sound j) hmem')).1
    rw [not_or, not_and] at hapart
    exact hapart
  · exact hexact.not_waitsFor_of_grants (grants_of_step hs h.sound hbefore hafter)

/-- The exclusion at work: while a worker is inside a task for a table, another one waits for the
lock of the table to replicate a partition. -/
theorem Crew.exclusion_sample : ∃ c : Crew (Fin 2),
    Reachable (fun _ => True) (fun _ => true) c ∧
    (c.worker 0).IsInside { database := "db", table := "t" } ∧
    (c.worker 1).WaitsFor ⟨.shared, "db.t"⟩ ∧
    ("db.t" ∈ c.registry.exclusive ↔ ∃! i, (c.worker i).Holds ⟨.exclusive, "db.t"⟩) := by
  have h₀ : Reachable (fun _ => True) (fun _ : Fin 2 => true) _ := .fresh
  have h₁ := h₀.step (i := 0) ⟨.begin (e := .task { database := "db", table := "t" }) trivial rfl⟩
  have h₂ := h₁.step (i := 0) ⟨.take rfl⟩
  have h₃ := h₂.step (i := 0) ⟨.enter⟩
  have h₄ := h₃.step (i := 1) ⟨.begin
    (e := .task { database := "db", table := "t", partition := some "p" }) trivial rfl⟩
  have h₅ := h₄.step (i := 1) ⟨.block rfl (.inl rfl)⟩
  exact ⟨_, h₅, ⟨_, rfl⟩, rfl, ((exclusion h₅).2.2.1 "db.t").1⟩

end CatalogReplication.Lock
