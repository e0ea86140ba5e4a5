import CatalogReplication.Lock.Manager

/-!
# What managers do with locks of a process

The steps of a manager on the registry of its process, as functions of the registry and the manager
(`Desk.on`): what taking a lock (`Desk.on_tryAcquire`), giving one back (`Desk.on_release`) and
ending a wait (`Desk.on_holdWaited`) come to, and what each of their answers says.
-/

namespace CatalogReplication.Lock

namespace Manager

/-- A manager that has taken a lock. -/
def hold (r : Requirement) (m : Manager) : Manager :=
  { m with held := m.held ++ [r], states := m.states.update r .locked }

/-- A manager that has given a lock back. -/
def drop (r : Requirement) (m : Manager) : Manager :=
  { m with held := m.held.filter fun x => !(x == r), states := m.states.update r .unlocked }

end Manager

namespace Desk

section

variable {α β : Type}

/-- What a step at a desk does to the registry and the manager. -/
def on (step : AtDesk α) (g : Registry) (m : Manager) : Except Failure α × Registry × Manager :=
  let (result, d) := step.run.run { registry := g, manager := m }
  (result, d.registry, d.manager)

/-- What a request does whose wait has come to its end. -/
def holdWaited (r : Requirement) : AtDesk Unit := do
  ensureAlive
  hold r

theorem run_bind (step : AtDesk α) (next : α → AtDesk β) (d : Desk) :
    (step >>= next).run.run d =
      match step.run.run d with
      | (.ok a, d') => (next a).run.run d'
      | (.error e, d') => (.error e, d') := by
  show (match step.run.run d with | (a, d') => (ExceptT.bindCont next a).run d') = _
  cases step.run.run d with
  | mk a d' => cases a <;> rfl

theorem run_ite (c : Prop) [Decidable c] (step step' : AtDesk α) (d : Desk) :
    (if c then step else step').run.run d = if c then step.run.run d else step'.run.run d :=
  apply_ite (fun s : AtDesk α => s.run.run d) c step step'

theorem run_ensureAlive (d : Desk) :
    ensureAlive.run.run d = if d.manager.isDisposed then
      (.error (.disposed d.manager.flavour.component), d) else (.ok (), d) := by
  unfold ensureAlive
  rw [run_bind]
  show (if d.manager.isDisposed then (throw _ : AtDesk Unit) else pure ()).run.run d = _
  rw [run_ite]
  rfl

end

theorem run_get (d : Desk) : (get : AtDesk Desk).run.run d = (.ok d, d) := rfl

variable {m : Manager} {isPatient : Bool}

/-- What a run at a desk leaves, the log apart. -/
def told {α : Type} (x : Except Failure α × Desk) : Except Failure α × Registry × Manager :=
  (x.1, x.2.registry, x.2.manager)

theorem on_eq_told {α : Type} (step : AtDesk α) (g : Registry) (m : Manager) :
    on step g m = told (step.run.run { registry := g, manager := m }) := rfl

/-- A request for a lock of the process doesn't look at the log. -/
theorem told_tryAcquire (r : Requirement) {d : Desk} (hf : d.manager.flavour = .process isPatient) :
    told ((tryAcquire r).run.run d) =
      if d.manager.isDisposed then
        (.error (.disposed d.manager.flavour.component), d.registry, d.manager)
      else if d.manager.held.contains r then
        (.error (.lock (.alreadyAcquired r)), d.registry, d.manager)
      else if d.registry.grants r then (.ok true, d.registry.grant r, d.manager.hold r)
      else if isPatient then (.ok false, d.registry, d.manager)
      else (.error (.lock (.timedOut r)), d.registry, d.manager) := by
  unfold tryAcquire
  simp only [run_bind, run_ensureAlive, run_get]
  cases hd : d.manager.isDisposed with
  | true => rfl
  | false =>
    simp only [Bool.false_eq_true, if_false, hf]
    cases hc : d.manager.held.contains r with
    | true => rfl
    | false =>
      simp only [Bool.false_eq_true, if_false, run_bind, run_ite]
      cases hg : d.registry.grants r <;> cases isPatient <;> rfl

theorem on_tryAcquire (r : Requirement) (g : Registry) (hf : m.flavour = .process isPatient) :
    on (tryAcquire r) g m =
      if m.isDisposed then (.error (.disposed m.flavour.component), g, m)
      else if m.held.contains r then (.error (.lock (.alreadyAcquired r)), g, m)
      else if g.grants r then (.ok true, g.grant r, m.hold r)
      else if isPatient then (.ok false, g, m)
      else (.error (.lock (.timedOut r)), g, m) :=
  told_tryAcquire r (d := { registry := g, manager := m }) hf

theorem told_release (r : Requirement) {d : Desk} (hf : d.manager.flavour = .process isPatient) :
    told ((release r).run.run d) =
      if d.manager.isDisposed then
        (.error (.disposed d.manager.flavour.component), d.registry, d.manager)
      else if d.manager.held.contains r then (.ok (), d.registry.giveBack r, d.manager.drop r)
      else (.error (.lock (.notFound r)), d.registry, d.manager) := by
  unfold release
  simp only [run_bind, run_ensureAlive, run_get]
  cases hd : d.manager.isDisposed with
  | true => rfl
  | false =>
    simp only [Bool.false_eq_true, if_false, hf]
    cases hc : d.manager.held.contains r <;> rfl

theorem on_release (r : Requirement) (g : Registry) (hf : m.flavour = .process isPatient) :
    on (release r) g m =
      if m.isDisposed then (.error (.disposed m.flavour.component), g, m)
      else if m.held.contains r then (.ok (), g.giveBack r, m.drop r)
      else (.error (.lock (.notFound r)), g, m) :=
  told_release r (d := { registry := g, manager := m }) hf

theorem on_holdWaited (r : Requirement) (g : Registry) (m : Manager) :
    on (holdWaited r) g m =
      if m.isDisposed then (.error (.disposed m.flavour.component), g, m)
      else (.ok (), g, m.hold r) := by
  unfold on holdWaited
  simp only [run_bind, run_ensureAlive]
  cases hd : m.isDisposed <;> rfl

/-! ### What can have happened -/

variable {r : Requirement} {g g' : Registry} {m' : Manager}

theorem tryAcquire_taken (hf : m.flavour = .process isPatient)
    (h : on (tryAcquire r) g m = (.ok true, g', m')) :
    r ∉ m.held ∧ g.grants r = true ∧ g' = g.grant r ∧ m' = m.hold r := by
  rw [on_tryAcquire r g hf] at h
  split at h
  · cases h
  split at h
  · cases h
  rename_i hnew
  split at h
  · cases h
    exact ⟨by simpa using hnew, ‹_›, rfl, rfl⟩
  · split at h <;> cases h

theorem tryAcquire_busy {x : Except Failure Bool} (hf : m.flavour = .process isPatient)
    (h : on (tryAcquire r) g m = (x, g', m'))
    (hx : x = .ok false ∨ x = .error (.lock (.timedOut r))) :
    r ∉ m.held ∧ g.grants r = false ∧ g' = g ∧ m' = m := by
  rw [on_tryAcquire r g hf] at h
  split at h
  · cases h
    rcases hx with hx | hx <;> cases hx
  split at h
  · cases h
    rcases hx with hx | hx <;> cases hx
  rename_i hnew
  split at h
  · cases h
    rcases hx with hx | hx <;> cases hx
  · rename_i hgrants
    split at h <;> cases h <;>
      exact ⟨by simpa using hnew, Bool.eq_false_iff.2 hgrants, rfl, rfl⟩

theorem tryAcquire_failed {f : Failure} (hf : m.flavour = .process isPatient)
    (h : on (tryAcquire r) g m = (.error f, g', m')) : g' = g ∧ m' = m := by
  rw [on_tryAcquire r g hf] at h
  repeat' split at h
  all_goals cases h
  all_goals exact ⟨rfl, rfl⟩

theorem release_ended (hf : m.flavour = .process isPatient)
    (h : on (release r) g m = (.ok (), g', m')) :
    r ∈ m.held ∧ g' = g.giveBack r ∧ m' = m.drop r := by
  rw [on_release r g hf] at h
  split at h
  · cases h
  split at h
  · cases h
    rename_i hold
    exact ⟨by simpa using hold, rfl, rfl⟩
  · cases h

theorem release_failed {f : Failure} (hf : m.flavour = .process isPatient)
    (h : on (release r) g m = (.error f, g', m')) : g' = g ∧ m' = m := by
  rw [on_release r g hf] at h
  repeat' split at h
  all_goals cases h
  all_goals exact ⟨rfl, rfl⟩

theorem holdWaited_ended (h : on (holdWaited r) g m = (.ok (), g', m')) :
    g' = g ∧ m' = m.hold r := by
  rw [on_holdWaited] at h
  split at h <;> cases h
  exact ⟨rfl, rfl⟩

end Desk

end CatalogReplication.Lock
