import CatalogReplication.Proofs.Config.Ledger

/-!
# The catalogs that a context keeps

What a context keeps are the numbers of its catalogs (`Contexts.kept?`). A cluster that is kept is
answered as it is; otherwise its catalog is loaded, taken in and kept (`InContexts.run_cluster`). A
context is closed by disposing of what it keeps (`InContexts.close_spec`). Nothing else that contexts
do has to do with catalogs (`Contexts.Untouched`).
-/

namespace CatalogReplication.Config

variable {σ α : Type}

namespace Contexts

variable {s s' : Contexts σ} {c d : ContextId} {role other : ClusterRole}

/-- The clusters that a context keeps. -/
def clustersOf (c : ContextId) (s : Contexts σ) : Assoc ClusterRole ClusterPart :=
  ((s.contexts[c]?).map Context.clusters).getD []

/-- The number of the catalog of a cluster that a context keeps. -/
def kept? (c : ContextId) (role : ClusterRole) (s : Contexts σ) : Option Nat :=
  ((s.clustersOf c).lookup role).map ClusterPart.handle

/-- The numbers of the catalogs that a context keeps. -/
def keptBy (c : ContextId) (s : Contexts σ) : List Nat :=
  (s.kept? c .source).toList ++ (s.kept? c .destination).toList

theorem kept?_of_lt (hc : c < s.contexts.length) (role : ClusterRole) :
    s.kept? c role = (s.contexts[c].clusters.lookup role).map ClusterPart.handle := by
  rw [kept?, clustersOf, List.getElem?_eq_getElem hc]
  rfl

/-- The blocks are the same, and the contexts keep the same clusters. -/
structure Untouched (s s' : Contexts σ) : Prop where
  nesting : s'.nesting = s.nesting
  clusters : s'.contexts.map Context.clusters = s.contexts.map Context.clusters

theorem Untouched.refl (s : Contexts σ) : Untouched s s := ⟨rfl, rfl⟩

theorem Untouched.length_eq (h : Untouched s s') : s'.contexts.length = s.contexts.length := by
  simpa using congrArg List.length h.clusters

theorem Untouched.clustersOf_eq (h : Untouched s s') (c : ContextId) :
    s'.clustersOf c = s.clustersOf c := by
  rw [clustersOf, clustersOf, ← List.getElem?_map, ← List.getElem?_map, h.clusters]

theorem Untouched.kept?_eq (h : Untouched s s') (c : ContextId) (role : ClusterRole) :
    s'.kept? c role = s.kept? c role := by
  rw [kept?, kept?, h.clustersOf_eq]

/-- A context keeps another catalog for a cluster, or none. -/
theorem kept?_modify {f : Context → Context} {o : Option Nat} (hc : c < s.contexts.length)
    (hs : s'.contexts = s.contexts.modify c f)
    (hf : ∀ x other, ((f x).clusters.lookup other).map ClusterPart.handle =
      if other = role then o else (x.clusters.lookup other).map ClusterPart.handle)
    (d : ContextId) (other : ClusterRole) :
    s'.kept? d other = if d = c ∧ other = role then o else s.kept? d other := by
  have hget : s.contexts[c]? = some s.contexts[c] := List.getElem?_eq_getElem hc
  unfold kept? clustersOf
  rw [hs, List.getElem?_modify]
  by_cases hd : d = c
  · subst hd
    simp [hget, hf]
  · simp [hd, Ne.symm hd]

/-- What is done to a context that leaves its clusters alone. -/
theorem untouched_modify {f : Context → Context} (hf : ∀ x, (f x).clusters = x.clusters)
    (c : ContextId) (s : Contexts σ) :
    Untouched s { s with contexts := s.contexts.modify c f } := by
  refine ⟨rfl, List.ext_getElem? fun d => ?_⟩
  by_cases hd : c = d <;> cases h : s.contexts[d]? <;> simp [hd, h, hf]

end Contexts

namespace InContexts

open Contexts (Untouched clustersOf kept?)

variable {c d : ContextId} {t : Thread} {role other : ClusterRole}

/-! ### Loading -/

/-- Something new is there, and nothing was written down. -/
def Aside (s s' : Contexts (Ledger σ)) : Prop :=
  ∃ world, s' = { s with outside := { s.outside with world } }

theorem Aside.refl (s : Contexts (Ledger σ)) : Aside s s := ⟨s.outside.world, rfl⟩

theorem Aside.untouched {s s' : Contexts (Ledger σ)} (h : Aside s s') : Untouched s s' := by
  obtain ⟨world, rfl⟩ := h
  exact ⟨rfl, rfl⟩

theorem Aside.deeds_eq {s s' : Contexts (Ledger σ)} (h : Aside s s') :
    s'.outside.deeds = s.outside.deeds := by
  obtain ⟨world, rfl⟩ := h
  rfl

theorem aside_loadValue (supply : Supply σ) (t : Thread) (v : Value) (s : Contexts (Ledger σ)) :
    Aside s ((loadValue supply.recorded t v).run.run s).2 := by
  rw [run_loadValue, run_outside]
  dsimp only
  rw [run_recorded supply _ _ fun n => n.elim]
  exact ⟨_, rfl⟩

theorem snd_run_reportAs (e : Error) (step : InContexts σ α) (s : Contexts σ) :
    ((reportAs e step).run.run s).2 = (step.run.run s).2 := by
  unfold reportAs
  rcases h : step.run.run s with ⟨f | a, s'⟩
  · rw [Stateful.run_tryCatch_error h]
    cases f <;> rfl
  · rw [Stateful.run_tryCatch_ok h]

theorem aside_loading (supply : Supply σ) (t : Thread) (c : ContextId) (e : Error)
    (v : Context → Value) (s : Contexts (Ledger σ)) :
    Aside s ((do
      let x ← context c
      reportAs e (loadValue supply.recorded t (v x))).run.run s).2 := by
  rw [Stateful.run_bind, run_context]
  cases s.contexts[c]? with
  | none => exact Aside.refl s
  | some x =>
    dsimp only
    rw [snd_run_reportAs]
    exact aside_loadValue supply t _ s

theorem aside_loadCatalog (supply : Supply σ) (t : Thread) (c : ContextId) (role : ClusterRole)
    (s : Contexts (Ledger σ)) :
    Aside s ((loadCatalog supply.recorded t c role).run.run s).2 :=
  aside_loading supply t c _ (fun x => x.settings.clusterEntry role "catalog") s

theorem aside_loadSection (supply : Supply σ) (t : Thread) (c : ContextId) (name : String)
    (s : Contexts (Ledger σ)) :
    Aside s ((loadSection supply.recorded t c name).run.run s).2 :=
  aside_loading supply t c _ (fun x => x.settings.sectionAt name) s

/-- Asking for a component leaves blocks and catalogs alone. -/
theorem untouched_component (supply : Supply σ) (t : Thread) (c : ContextId) (role : Role)
    (s : Contexts (Ledger σ)) :
    Untouched s ((component supply.recorded t c role).run.run s).2 ∧
      ((component supply.recorded t c role).run.run s).2.outside.deeds = s.outside.deeds := by
  rw [component, Stateful.run_bind, run_context]
  cases s.contexts[c]? with
  | none => exact ⟨.refl s, rfl⟩
  | some x =>
    dsimp only
    cases x.components.lookup role with
    | some component => exact ⟨.refl s, rfl⟩
    | none =>
      obtain ⟨world, hworld⟩ := aside_loadSection supply t c role.sectionName s
      dsimp only
      rw [Stateful.run_bind]
      generalize (loadSection supply.recorded t c role.sectionName).run.run s = y at hworld
      obtain ⟨f | component, s'⟩ := y
      · cases hworld
        exact ⟨⟨rfl, rfl⟩, rfl⟩
      · cases hworld
        have hmodify := Contexts.untouched_modify
          (f := fun x => { x with components := Assoc.put role component x.components })
          (fun _ => rfl) c s
        exact ⟨⟨rfl, hmodify.clusters⟩, rfl⟩

/-! ### Asking for a cluster -/

/-- What it comes to to ask for a cluster. -/
inductive Asked (loaded : Except Failure Component) (c : ContextId) (role : ClusterRole)
    (s : Contexts (Ledger σ)) : Except Failure ClusterPart × Contexts (Ledger σ) → Prop where
  /-- It is kept. -/
  | kept {part : ClusterPart} (h : s.kept? c role = some part.handle) :
    Asked loaded c role s (.ok part, s)
  /-- Its catalog can't be loaded. -/
  | failed {f : Failure} {s' : Contexts (Ledger σ)} (h : s.kept? c role = none)
      (hloaded : loaded = .error f) (hs : Aside s s') : Asked loaded c role s (.error f, s')
  /-- Its catalog is taken in. -/
  | made {part : ClusterPart} {s' : Contexts (Ledger σ)} (h : s.kept? c role = none)
      (hloaded : loaded = .ok part.catalog) (hnesting : s'.nesting = s.nesting)
      (hlength : s'.contexts.length = s.contexts.length)
      (hkept : ∀ d other, s'.kept? d other =
        if d = c ∧ other = role then some part.handle else s.kept? d other)
      (hdeeds : s'.outside.deeds = s.outside.deeds ++ [.took part.handle]) :
    Asked loaded c role s (.ok part, s')

theorem asked_cluster (supply : Supply σ) (t : Thread) (role : ClusterRole)
    {s : Contexts (Ledger σ)} (hc : c < s.contexts.length) :
    Asked ((loadCatalog supply.recorded t c role).run.run s).1 c role s
      ((cluster supply.recorded t c role).run.run s) := by
  have hkept := Contexts.kept?_of_lt hc role
  rw [cluster, Stateful.run_bind, run_context, List.getElem?_eq_getElem hc]
  dsimp only
  cases hlookup : s.contexts[c].clusters.lookup role with
  | some part => exact .kept (by rw [hkept, hlookup]; rfl)
  | none =>
    rw [hlookup] at hkept
    have haside := aside_loadCatalog supply t c role s
    dsimp only
    rw [Stateful.run_bind]
    generalize (loadCatalog supply.recorded t c role).run.run s = y at haside
    obtain ⟨f | catalog, s'⟩ := y
    · exact .failed hkept rfl haside
    · obtain ⟨world, hworld⟩ := haside
      cases hworld
      refine .made hkept rfl rfl (List.length_modify _ _ _) (Contexts.kept?_modify hc rfl ?_) rfl
      intro x other
      by_cases hother : other = role
      · rw [hother, if_pos rfl, Assoc.lookup_put_self]
        rfl
      · rw [if_neg hother, Assoc.lookup_put_of_ne hother]

/-! ### Closing -/

/-- What it comes to to give a cluster up. -/
inductive GivenUp (c : ContextId) (role : ClusterRole) (s : Contexts (Ledger σ)) :
    Except Failure Unit × Contexts (Ledger σ) → Prop where
  | nothing (h : s.kept? c role = none) : GivenUp c role s (.ok (), s)
  | disposed {handle : Nat} {answer : Except Failure Unit} {s' : Contexts (Ledger σ)}
      (h : s.kept? c role = some handle) (hnesting : s'.nesting = s.nesting)
      (hlength : s'.contexts.length = s.contexts.length)
      (hkept : ∀ d other, s'.kept? d other =
        if d = c ∧ other = role then none else s.kept? d other)
      (hdeeds : s'.outside.deeds = s.outside.deeds ++ [.disposed handle answer]) :
      GivenUp c role s (answer, s')

theorem givenUp_giveUp (supply : Supply σ) (role : ClusterRole) {s : Contexts (Ledger σ)}
    (hc : c < s.contexts.length) :
    GivenUp c role s ((giveUp supply.recorded c role).run.run s) := by
  have hkept := Contexts.kept?_of_lt hc role
  rw [giveUp, Stateful.run_bind, run_context, List.getElem?_eq_getElem hc]
  dsimp only
  cases hlookup : s.contexts[c].clusters.lookup role with
  | none => exact .nothing (by rw [hkept, hlookup]; rfl)
  | some part =>
    rw [hlookup] at hkept
    dsimp only
    rw [Stateful.run_bind, run_update]
    dsimp only
    rw [run_outside]
    refine .disposed hkept rfl (List.length_modify _ _ _) (Contexts.kept?_modify hc rfl ?_) rfl
    intro x other
    by_cases hother : other = role
    · rw [hother, if_pos rfl, Assoc.lookup_erase_self]
      rfl
    · rw [if_neg hother, Assoc.lookup_erase_of_ne hother]

theorem GivenUp.length_eq {x : Except Failure Unit × Contexts (Ledger σ)}
    {s : Contexts (Ledger σ)} (h : GivenUp c role s x) :
    x.2.contexts.length = s.contexts.length := by
  cases h with
  | nothing _ => rfl
  | disposed _ _ hlength _ _ => exact hlength

/-- What was written down before is still there. -/
theorem GivenUp.mem_deeds {x : Except Failure Unit × Contexts (Ledger σ)}
    {s : Contexts (Ledger σ)} (h : GivenUp c role s x) {d : Deed} (hd : d ∈ s.outside.deeds) :
    d ∈ x.2.outside.deeds := by
  cases h with
  | nothing _ => exact hd
  | disposed _ _ _ _ hdeeds =>
    dsimp only
    rw [hdeeds]
    exact List.mem_append_left _ hd

/-- A cluster isn't kept any more, and what was kept was disposed of. -/
structure Released (c : ContextId) (role : ClusterRole) (s s' : Contexts (Ledger σ)) : Prop where
  nesting : s'.nesting = s.nesting
  length_eq : s'.contexts.length = s.contexts.length
  kept : ∀ d other, s'.kept? d other = if d = c ∧ other = role then none else s.kept? d other
  deeds : s'.outside.deeds =
    s.outside.deeds ++ (s.kept? c role).toList.map fun n => .disposed n (.ok ())

theorem GivenUp.released {x : Except Failure Unit × Contexts (Ledger σ)}
    {s : Contexts (Ledger σ)} (h : GivenUp c role s x)
    (hfine : ∀ d ∈ x.2.outside.deeds, d.isFine = true) : x.1 = .ok () ∧ Released c role s x.2 := by
  cases h with
  | nothing h =>
    refine ⟨rfl, rfl, rfl, fun d other => ?_, by rw [h]; simp⟩
    split
    next hsame => rw [hsame.1, hsame.2, h]
    next => rfl
  | @disposed handle answer s' h hnesting hlength hkept hdeeds =>
    have hanswer := hfine (.disposed handle answer) (by rw [hdeeds]; simp)
    obtain _ | ⟨⟨⟩⟩ := answer
    · cases hanswer
    · exact ⟨rfl, hnesting, hlength, hkept, by rw [hdeeds, h]; rfl⟩

/-- A context keeps nothing any more, and what it kept was disposed of. -/
structure Closed (c : ContextId) (s s' : Contexts (Ledger σ)) : Prop where
  nesting : s'.nesting = s.nesting
  length_eq : s'.contexts.length = s.contexts.length
  kept : ∀ d role, s'.kept? d role = if d = c then none else s.kept? d role
  deeds : s'.outside.deeds = s.outside.deeds ++ (s.keptBy c).map fun n => .disposed n (.ok ())

theorem Released.closed {s s' s'' : Contexts (Ledger σ)} (h : Released c .source s s')
    (h' : Released c .destination s' s'') : Closed c s s'' where
  nesting := h'.nesting.trans h.nesting
  length_eq := h'.length_eq.trans h.length_eq
  kept d role := by
    rw [h'.kept, h.kept]
    by_cases hd : d = c <;> cases role <;> simp [hd]
  deeds := by
    have hdestination : s'.kept? c .destination = s.kept? c .destination := by
      rw [h.kept, if_neg (by simp)]
    rw [h'.deeds, h.deeds, hdestination, List.append_assoc, Contexts.keptBy, List.map_append]

/-- **Closing a context** disposes of what it keeps, unless disposing of something fails. -/
theorem closed_close (supply : Supply σ) {s : Contexts (Ledger σ)} (hc : c < s.contexts.length)
    (hfine : ∀ d ∈ ((close supply.recorded c).run.run s).2.outside.deeds, d.isFine = true) :
    ((close supply.recorded c).run.run s).1 = .ok () ∧
      Closed c s ((close supply.recorded c).run.run s).2 := by
  rw [close, Stateful.run_bind] at hfine ⊢
  have hsource := givenUp_giveUp supply .source hc
  generalize (giveUp supply.recorded c .source).run.run s = y at hsource hfine
  obtain ⟨f | ⟨⟨⟩⟩, s'⟩ := y
  · cases (hsource.released hfine).1
  · have hc' : c < s'.contexts.length := by
      rw [hsource.length_eq]
      exact hc
    have hdestination := givenUp_giveUp supply .destination hc'
    obtain ⟨hok, hlast⟩ := hdestination.released hfine
    obtain ⟨-, hfirst⟩ := hsource.released fun d hd => hfine d (hdestination.mem_deeds hd)
    exact ⟨hok, hfirst.closed hlast⟩

end InContexts

end CatalogReplication.Config
