import CatalogReplication.Config.Context
import CatalogReplication.Proofs.Stateful

/-!
# What contexts do with catalogs

Whatever contexts take in and dispose of can be written down in a ledger (`Supply.recorded`). That
changes nothing else: each step answers the same and leaves the same contexts and the same world
(`InContexts.mirrors_cluster`, `InContexts.mirrors_leave` and those between them).
-/

namespace CatalogReplication.Config

open Stateful (Mirrors mirrors_pure mirrors_throw)

variable {σ α : Type}

/-- Something that is done with a catalog. -/
inductive Deed where
  | took (handle : Nat)
  | disposed (handle : Nat) (answer : Except Failure Unit)

/-- Whether nothing went wrong with a deed. -/
def Deed.isFine : Deed → Bool
  | .disposed _ (.error _) => false
  | _ => true

/-- A world with what was done there, in its order. -/
structure Ledger (σ : Type) where
  world : σ
  deeds : List Deed := []

/-- A supply with which everything is written down that is taken in or disposed of. -/
def Supply.recorded (supply : Supply σ) : Supply (Ledger σ) where
  openKeyed l :=
    let (answer, world) := supply.openKeyed l.world
    (answer, { l with world })
  openRelational o l :=
    let (answer, world) := supply.openRelational o l.world
    (answer, { l with world })
  takeIn c l :=
    let (handle, world) := supply.takeIn c l.world
    (handle, { world, deeds := l.deeds ++ [.took handle] })
  dispose handle l :=
    let (answer, world) := supply.dispose handle l.world
    (answer, { world, deeds := l.deeds ++ [.disposed handle answer] })

/-- Contexts without the ledger. -/
def Contexts.plain (s : Contexts (Ledger σ)) : Contexts σ :=
  { outside := s.outside.world, contexts := s.contexts, nesting := s.nesting }

/-- Contexts with an empty ledger. -/
def Contexts.recording (s : Contexts σ) : Contexts (Ledger σ) :=
  { outside := { world := s.outside }, contexts := s.contexts, nesting := s.nesting }

theorem Supply.serve_recorded (supply : Supply σ) (id : Option String) (c : Component.Call)
    (l : Ledger σ) :
    supply.recorded.serve id c l =
      ((supply.serve id c l.world).1, { l with world := (supply.serve id c l.world).2 }) := by
  cases c with
  | openKeyed => rfl
  | openRelational o => rfl
  | instanceId => cases id <;> rfl

/-- Nothing is written down while something is loaded. -/
theorem run_recorded (supply : Supply σ) (id : Option String) (p : Component.Load α)
    (record : Empty → σ → σ) (record' : Empty → Ledger σ → Ledger σ) (l : Ledger σ) :
    p.run (supply.recorded.serve id) record' l =
      ((p.run (supply.serve id) record l.world).1,
        { l with world := (p.run (supply.serve id) record l.world).2 }) := by
  induction p generalizing l with
  | done a => rfl
  | fail e => rfl
  | note n rest ih => exact nomatch n
  | call c next ih =>
    rw [Program.run, Supply.serve_recorded]
    exact ih _ _

namespace InContexts

/-! ### What the steps come to -/

theorem run_context (c : ContextId) (s : Contexts σ) :
    (context c).run.run s =
      match s.contexts[c]? with
      | some x => (.ok x, s)
      | none => (.error .outsideContext, s) := by
  rw [context, Stateful.run_bind, Stateful.run_get]
  dsimp only
  cases s.contexts[c]? <;> rfl

theorem run_outside (f : σ → Except Failure α × σ) (s : Contexts σ) :
    (outside f).run.run s = ((f s.outside).1, { s with outside := (f s.outside).2 }) := by
  rw [outside, Stateful.run_bind, Stateful.run_get]
  dsimp only
  rw [Stateful.run_bind, Stateful.run_set]
  dsimp only
  cases (f s.outside).1 <;> rfl

theorem run_update (c : ContextId) (f : Context → Context) (s : Contexts σ) :
    (update c f).run.run s = (.ok (), { s with contexts := s.contexts.modify c f }) := rfl

theorem run_enter (t : Thread) (c : ContextId) (s : Contexts σ) :
    (enter t c).run.run s = (.ok (), { s with nesting := s.nesting.enter c t }) := rfl

theorem run_add (settings : Settings) (s : Contexts σ) :
    (add settings).run.run s =
      (.ok s.contexts.length, { s with contexts := s.contexts ++ [{ settings }] }) := rfl

theorem run_leave (supply : Supply σ) (t : Thread) (c : ContextId) (s : Contexts σ) :
    (leave supply t c).run.run s =
      match s.nesting.leave? c t with
      | none => (.error .keyMissing, s)
      | some (true, nesting) => (close supply c).run.run { s with nesting }
      | some (false, nesting) => (.ok (), { s with nesting }) := by
  rw [leave, Stateful.run_bind, Stateful.run_get]
  dsimp only
  rcases s.nesting.leave? c t with _ | ⟨_ | _, nesting⟩ <;> rfl

theorem run_current (t : Thread) (s : Contexts σ) :
    (current t).run.run s =
      match s.nesting.current? t with
      | some c => (.ok c, s)
      | none => (.error .outsideContext, s) := by
  rw [current, Stateful.run_bind, Stateful.run_get]
  dsimp only
  cases s.nesting.current? t <;> rfl

/-- The steps of a block, one after the other; a failure to leave it comes before any other. -/
theorem run_inside (supply : Supply σ) (t : Thread) (c : ContextId) (body : InContexts σ α)
    (s : Contexts σ) :
    (inside supply t c body).run.run s =
      let x := body.run.run ((enter t c).run.run s).2
      let y := (leave supply t c).run.run x.2
      (y.1 >>= fun _ => x.1, y.2) := by
  rw [inside, Stateful.run_bind, run_enter]
  dsimp only
  rw [Stateful.run_bind, Stateful.run_attempt]
  dsimp only
  rw [Stateful.run_bind]
  rcases (leave supply t c).run.run _ with ⟨_ | _, _⟩
  · rfl
  · dsimp only
    cases (body.run.run _).1 <;> rfl

/-! ### Nothing else changes -/

section

variable {supply : Supply σ} {t : Thread} {c : ContextId}

theorem mirrors_context : Mirrors Contexts.plain (context c) (context (σ := σ) c) := by
  intro s
  rw [run_context, run_context]
  show (match s.contexts[c]? with | some x => _ | none => _) = _
  cases s.contexts[c]? <;> rfl

theorem mirrors_update (f : Context → Context) :
    Mirrors Contexts.plain (update c f) (update (σ := σ) c f) := fun _ => rfl

theorem mirrors_outside {f' : Ledger σ → Except Failure α × Ledger σ}
    {f : σ → Except Failure α × σ} (h : ∀ l, f l.world = ((f' l).1, (f' l).2.world)) :
    Mirrors Contexts.plain (outside f') (outside f) := by
  intro s
  rw [run_outside, run_outside, show f s.plain.outside = _ from h s.outside]
  rfl

theorem mirrors_takeIn (x : Component) :
    Mirrors Contexts.plain (takeIn supply.recorded x) (takeIn supply x) :=
  mirrors_outside fun _ => rfl

theorem mirrors_dispose (handle : Nat) :
    Mirrors Contexts.plain (outside (supply.recorded.dispose handle))
      (outside (supply.dispose handle)) :=
  mirrors_outside fun _ => rfl

theorem run_loadValue (supply : Supply σ) (t : Thread) (v : Value) (s : Contexts σ) :
    (loadValue supply t v).run.run s =
      let id := do
        let c ← s.nesting.current? t
        let x ← s.contexts[c]?
        return x.settings.instanceId
      (outside fun w =>
        (Component.load v).run (supply.serve id) (fun n _ => nomatch n) w).run.run s := rfl

theorem mirrors_loadValue (v : Value) :
    Mirrors Contexts.plain (loadValue supply.recorded t v) (loadValue supply t v) := by
  intro s
  rw [run_loadValue, run_loadValue]
  refine mirrors_outside (fun l => ?_) s
  rw [run_recorded supply _ _ fun n _ => nomatch n]
  rfl

theorem mirrors_reportAs (e : Error) {step' : InContexts (Ledger σ) α} {step : InContexts σ α}
    (h : Mirrors Contexts.plain step' step) :
    Mirrors Contexts.plain (reportAs e step') (reportAs e step) :=
  h.tryCatch fun f => by cases f <;> exact mirrors_throw _

theorem mirrors_loadCatalog (role : ClusterRole) :
    Mirrors Contexts.plain (loadCatalog supply.recorded t c role)
      (loadCatalog supply t c role) :=
  mirrors_context.bind fun _ => mirrors_reportAs _ (mirrors_loadValue _)

theorem mirrors_loadSection (name : String) :
    Mirrors Contexts.plain (loadSection supply.recorded t c name)
      (loadSection supply t c name) :=
  mirrors_context.bind fun _ => mirrors_reportAs _ (mirrors_loadValue _)

theorem mirrors_cluster (role : ClusterRole) :
    Mirrors Contexts.plain (cluster supply.recorded t c role) (cluster supply t c role) := by
  refine mirrors_context.bind fun x => ?_
  cases x.clusters.lookup role with
  | some part => exact mirrors_pure part
  | none =>
    exact (mirrors_loadCatalog role).bind fun catalog => (mirrors_takeIn catalog).bind fun _ =>
      (mirrors_update _).bind fun _ => mirrors_pure _

theorem mirrors_component (role : Role) :
    Mirrors Contexts.plain (component supply.recorded t c role) (component supply t c role) := by
  refine mirrors_context.bind fun x => ?_
  cases x.components.lookup role with
  | some component => exact mirrors_pure component
  | none =>
    exact (mirrors_loadSection role.sectionName).bind fun _ =>
      (mirrors_update _).bind fun _ => mirrors_pure _

theorem mirrors_giveUp (role : ClusterRole) :
    Mirrors Contexts.plain (giveUp supply.recorded c role) (giveUp supply c role) := by
  refine mirrors_context.bind fun x => ?_
  cases x.clusters.lookup role with
  | none => exact mirrors_pure ()
  | some part => exact (mirrors_update _).bind fun _ => mirrors_dispose part.handle

theorem mirrors_close :
    Mirrors Contexts.plain (close supply.recorded c) (close supply c) :=
  (mirrors_giveUp .source).bind fun _ => mirrors_giveUp .destination

theorem mirrors_leave :
    Mirrors Contexts.plain (leave supply.recorded t c) (leave supply t c) := by
  intro s
  rw [run_leave, run_leave]
  show (match s.nesting.leave? c t with
    | none => _
    | some (true, nesting) => _
    | some (false, nesting) => _) = _
  rcases s.nesting.leave? c t with _ | ⟨_ | _, nesting⟩
  · rfl
  · rfl
  · exact mirrors_close { s with nesting }

end

end InContexts

end CatalogReplication.Config
