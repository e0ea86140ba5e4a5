import CatalogReplication.Program

/-!
# Steps that change a state and may fail

How such steps run one after the other (`Stateful.run_bind`), and when a step does on a state what
another one does on a part of it (`Stateful.Mirrors`). A step may so be watched without being
disturbed: it is run on a state that has more to it, and the rest is forgotten again. What holds of
the state is kept by a step if it is kept by each part of it (`Stateful.Stays`).
-/

namespace CatalogReplication.Stateful

variable {E S S' α β : Type}

/-! ### Running -/

theorem run_bind (step : ExceptT E (StateM S) α) (next : α → ExceptT E (StateM S) β) (s : S) :
    (step >>= next).run.run s =
      match step.run.run s with
      | (.ok a, s') => (next a).run.run s'
      | (.error e, s') => (.error e, s') := by
  show (match step.run.run s with | (a, s') => (ExceptT.bindCont next a).run s') = _
  rcases step.run.run s with ⟨_ | _, _⟩ <;> rfl

theorem run_get (s : S) : (get : ExceptT E (StateM S) S).run.run s = (.ok s, s) := rfl

theorem run_set (s t : S) :
    (set t : ExceptT E (StateM S) PUnit).run.run s = (.ok PUnit.unit, t) := rfl

theorem run_tryCatch_ok {step : ExceptT E (StateM S) α} {s s' : S} {a : α}
    (h : step.run.run s = (.ok a, s')) (handle : E → ExceptT E (StateM S) α) :
    (tryCatch step handle).run.run s = (.ok a, s') := by
  simp only [tryCatch, tryCatchThe, MonadExceptOf.tryCatch, ExceptT.tryCatch, ExceptT.run_mk,
    StateT.run_bind]
  rw [show StateT.run step s = _ from h]
  rfl

theorem run_tryCatch_error {step : ExceptT E (StateM S) α} {s s' : S} {e : E}
    (h : step.run.run s = (.error e, s')) (handle : E → ExceptT E (StateM S) α) :
    (tryCatch step handle).run.run s = (handle e).run.run s' := by
  simp only [tryCatch, tryCatchThe, MonadExceptOf.tryCatch, ExceptT.tryCatch, ExceptT.run_mk,
    StateT.run_bind]
  rw [show StateT.run step s = _ from h]
  rfl

/-- What came of a step is looked at, and no failure ends it. -/
theorem run_attempt (step : ExceptT E (StateM S) α) (s : S) :
    (ExceptT.lift step.run : ExceptT E (StateM S) (Except E α)).run.run s =
      (.ok (step.run.run s).1, (step.run.run s).2) := rfl

/-! ### Steps on more and on less -/

/-- A step does on what is kept of a state what another one does on the whole of it. -/
def Mirrors (forget : S' → S) (step' : ExceptT E (StateM S') α) (step : ExceptT E (StateM S) α) :
    Prop :=
  ∀ s, step.run.run (forget s) = ((step'.run.run s).1, forget (step'.run.run s).2)

variable {forget : S' → S} {step' : ExceptT E (StateM S') α} {step : ExceptT E (StateM S) α}

theorem mirrors_pure (a : α) :
    Mirrors forget (pure a : ExceptT E (StateM S') α) (pure a) := fun _ => rfl

theorem mirrors_throw (e : E) :
    Mirrors forget (throw e : ExceptT E (StateM S') α) (throw e) := fun _ => rfl

theorem Mirrors.bind (h : Mirrors forget step' step) {next' : α → ExceptT E (StateM S') β}
    {next : α → ExceptT E (StateM S) β} (hnext : ∀ a, Mirrors forget (next' a) (next a)) :
    Mirrors forget (step' >>= next') (step >>= next) := by
  intro s
  rw [run_bind, run_bind, h s]
  rcases step'.run.run s with ⟨e | a, s'⟩
  · rfl
  · exact hnext a s'

theorem Mirrors.tryCatch (h : Mirrors forget step' step) {handle' : E → ExceptT E (StateM S') α}
    {handle : E → ExceptT E (StateM S) α} (hhandle : ∀ e, Mirrors forget (handle' e) (handle e)) :
    Mirrors forget (tryCatch step' handle') (tryCatch step handle) := by
  intro s
  have hs := h s
  rcases h' : step'.run.run s with ⟨e | a, s'⟩
  · rw [h'] at hs
    rw [run_tryCatch_error h', run_tryCatch_error hs]
    exact hhandle e s'
  · rw [h'] at hs
    rw [run_tryCatch_ok h', run_tryCatch_ok hs]

/-! ### What stays -/

/-- Whatever comes of a step, what held of the state still holds of it. -/
def Stays (P : S → Prop) (step : ExceptT E (StateM S) α) : Prop :=
  ∀ s, P s → P (step.run.run s).2

section

variable {P : S → Prop} {step : ExceptT E (StateM S) α}

theorem stays_pure (a : α) : Stays P (pure a : ExceptT E (StateM S) α) := fun _ hs => hs

theorem stays_throw (e : E) : Stays P (throw e : ExceptT E (StateM S) α) := fun _ hs => hs

theorem Stays.bind (h : Stays P step) {next : α → ExceptT E (StateM S) β}
    (hnext : ∀ a, Stays P (next a)) : Stays P (step >>= next) := by
  intro s hs
  have hstep := h s hs
  rw [run_bind]
  generalize step.run.run s = x at hstep
  obtain ⟨e | a, s'⟩ := x
  · exact hstep
  · exact hnext a s' hstep

/-- What comes after a failure isn't done. -/
theorem stays_throw_bind (e : E) (next : α → ExceptT E (StateM S) β) :
    Stays P ((throw e : ExceptT E (StateM S) α) >>= next) := fun _ hs => hs

theorem Stays.ite {c : Prop} [Decidable c] (h : Stays P step)
    {step' : ExceptT E (StateM S) α} (h' : Stays P step') :
    Stays P (if c then step else step') := by
  split
  · exact h
  · exact h'

theorem stays_attempt (h : Stays P step) :
    Stays P (ExceptT.lift step.run : ExceptT E (StateM S) (Except E α)) := by
  intro s hs
  rw [run_attempt]
  exact h s hs

theorem Stays.tryCatch (h : Stays P step) {handle : E → ExceptT E (StateM S) α}
    (hhandle : ∀ e, Stays P (handle e)) : Stays P (tryCatch step handle) := by
  intro s hs
  have hstep := h s hs
  rcases h' : step.run.run s with ⟨e | a, s'⟩
  · rw [h'] at hstep
    rw [run_tryCatch_error h']
    exact hhandle e s' hstep
  · rw [h'] at hstep
    rw [run_tryCatch_ok h']
    exact hstep

end

end CatalogReplication.Stateful
