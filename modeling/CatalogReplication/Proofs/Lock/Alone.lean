import CatalogReplication.Lock.Hall
import CatalogReplication.Proofs.Lock.Crew
import Mathlib.Logic.Relation

/-!
# A worker alone

The steps of a worker that nobody gets in the way of, one after the other, do what the procedures of
its manager do in one go: take a set of locks (`Worker.works_enter`), or fail to and give back what
was taken (`Worker.works_enter_failed`), give locks back (`Worker.works_leave`), and end the use of
the manager (`Worker.works_dispose`). And when a hall grants a request that waits, its worker wakes
(`Worker.wakes_of_grantWaiter`).
-/

namespace CatalogReplication.Lock

/-! ### Runs at a desk -/

namespace Desk

variable {d d' : Desk} {isPatient : Bool} {r : Requirement}

theorem on_tryAcquire_eq_told (r : Requirement) (hf : d.manager.flavour = .process isPatient) :
    on (tryAcquire r) d.registry d.manager = told ((tryAcquire r).run.run d) :=
  (on_tryAcquire r d.registry hf).trans (told_tryAcquire r hf).symm

theorem on_release_eq_told (r : Requirement) (hf : d.manager.flavour = .process isPatient) :
    on (release r) d.registry d.manager = told ((release r).run.run d) :=
  (on_release r d.registry hf).trans (told_release r hf).symm

theorem run_acquire (r : Requirement) (d : Desk) :
    (acquire r).run.run d =
      match (tryAcquire r).run.run d with
      | (.ok true, d') => (.ok (), d')
      | (.ok false, d') => (.error (.lock (.timedOut r)), d')
      | (.error e, d') => (.error e, d') := by
  unfold acquire
  rw [run_bind]
  rcases (tryAcquire r).run.run d with ⟨x, d'⟩
  rcases x with e | b
  · rfl
  · cases b <;> rfl

/-- What ended a step is an answer. -/
theorem run_attempt {α : Type} (step : AtDesk α) (d : Desk) :
    (ExceptT.lift step.run : AtDesk (Except Failure α)).run.run d
      = (.ok (step.run.run d).1, (step.run.run d).2) := rfl

theorem run_takeEach_cons (taken rest : List Requirement) (r : Requirement) (d : Desk) :
    (takeEach taken (r :: rest)).run.run d =
      match (acquire r).run.run d with
      | (.ok (), d') => (takeEach (taken ++ [r]) rest).run.run d'
      | (.error e, d') => (.ok (taken, some e), d') := by
  rw [takeEach, run_bind, run_attempt]
  rcases (acquire r).run.run d with ⟨x, d'⟩
  cases x <;> rfl

theorem run_releaseEach_cons (r : Requirement) (rest : List Requirement) (d : Desk) :
    (releaseEach (r :: rest)).run.run d =
      match (release r).run.run d with
      | (.ok (), d') => (releaseEach rest).run.run d'
      | (.error e, d') => (.error e, d') := by
  rw [releaseEach, run_bind]
  rcases (release r).run.run d with ⟨x, d'⟩
  cases x <;> rfl

/-- An entry that can't take all locks gives back those that it has taken. -/
theorem run_enter (s : LockSet) (d : Desk) :
    (enter s).run.run d =
      match (takeEach [] s.requirements).run.run d with
      | (.ok (taken, none), d₁) => (.ok taken, d₁)
      | (.ok (taken, some e), d₁) =>
        let y := (leave taken).run.run d₁
        (y.1 >>= fun _ => .error e, y.2)
      | (.error e, d₁) => (.error e, d₁) := by
  rw [enter, run_bind]
  rcases (takeEach [] s.requirements).run.run d with ⟨f | ⟨taken, f⟩, d₁⟩
  · rfl
  cases f with
  | none => rfl
  | some e =>
    dsimp only
    rw [run_bind]
    rcases (leave taken).run.run d₁ with ⟨f | u, d₂⟩ <;> rfl

/-- Giving locks back keeps the flavour of a manager. -/
theorem flavour_releaseEach {rest : List Requirement} {x : Except Failure Unit}
    (hf : d.manager.flavour = .process isPatient)
    (h : (releaseEach rest).run.run d = (x, d')) : d'.manager.flavour = .process isPatient := by
  induction rest generalizing d with
  | nil =>
    cases h
    exact hf
  | cons r rest ih =>
    rw [run_releaseEach_cons] at h
    have hon := on_release_eq_told r hf
    generalize (release r).run.run d = y at h hon
    rcases y with ⟨f | u, d₁⟩
    · cases h
      obtain ⟨-, hsame⟩ := release_failed hf hon
      rw [hsame]
      exact hf
    · refine ih ?_ h
      rw [(release_ended hf hon).2.2]
      exact hf

/-- So does taking locks. -/
theorem flavour_takeEach {rest taken : List Requirement}
    {x : Except Failure (List Requirement × Option Failure)}
    (hf : d.manager.flavour = .process isPatient)
    (h : (takeEach taken rest).run.run d = (x, d')) :
    d'.manager.flavour = .process isPatient := by
  induction rest generalizing taken d with
  | nil =>
    cases h
    exact hf
  | cons r rest ih =>
    rw [run_takeEach_cons, run_acquire] at h
    have hon := on_tryAcquire_eq_told r hf
    generalize (tryAcquire r).run.run d = y at h hon
    rcases y with ⟨f | b, d₁⟩
    · cases h
      obtain ⟨-, hsame⟩ := tryAcquire_failed hf hon
      rw [hsame]
      exact hf
    · cases b with
      | false =>
        cases h
        obtain ⟨-, -, -, hsame⟩ := tryAcquire_busy hf hon (.inl rfl)
        rw [hsame]
        exact hf
      | true =>
        refine ih ?_ h
        rw [(tryAcquire_taken hf hon).2.2.2]
        exact hf

end Desk

/-! ### Steps in a row -/

namespace Worker

variable {may : Errand → Prop} {e : Errand} {isPatient : Bool}

/-- What a worker comes to by steps of its own, with the registry as these leave it. -/
def Works (may : Errand → Prop) : Registry × Worker → Registry × Worker → Prop :=
  Relation.ReflTransGen fun x y => ∃ a isLoud, Moves may a x.1 x.2 isLoud y.1 y.2

theorem Works.head {a : Act} {isLoud : Bool} {g g' : Registry} {w w' : Worker}
    {y : Registry × Worker} (h : Moves may a g w isLoud g' w') (hy : Works may (g', w') y) :
    Works may (g, w) y :=
  Relation.ReflTransGen.head (b := (g', w')) ⟨a, isLoud, h⟩ hy

/-- Where a worker is when the attempt to take its locks has ended. -/
def tried (e : Errand) : List Requirement × Option Failure → Place
  | (taken, none) => .taking e taken []
  | (taken, some _) => .leaving taken.reverse false

/-- Where a worker is when the attempt to give its locks back has ended. -/
def gaveBack (isLast : Bool) : Except Failure Unit → Place
  | .ok () => .leaving [] isLast
  | .error _ => .resting

/-- Taking locks one after the other, where none of them has to be waited for. -/
theorem works_takeEach {rest taken : List Requirement} {d d' : Desk}
    {x : List Requirement × Option Failure} (hf : d.manager.flavour = .process isPatient)
    (h : (Desk.takeEach taken rest).run.run d = (.ok x, d'))
    (hx : ∀ r, x.2 ≠ some (.lock (.timedOut r))) :
    Works may (d.registry, ⟨d.manager, .taking e taken rest⟩)
      (d'.registry, ⟨d'.manager, tried e x⟩) := by
  induction rest generalizing taken d with
  | nil =>
    cases h
    exact .refl
  | cons r rest ih =>
    rw [Desk.run_takeEach_cons, Desk.run_acquire] at h
    have hon := Desk.on_tryAcquire_eq_told r hf
    generalize (Desk.tryAcquire r).run.run d = y at h hon
    rcases y with ⟨f | b, d₁⟩
    · cases h
      exact .head (.refuse hon fun hf => hx r (congrArg some hf)) .refl
    · cases b with
      | false =>
        cases h
        exact absurd rfl (hx r)
      | true =>
        have hheld := (Desk.tryAcquire_taken hf hon).2.2.2
        have hf₁ : d₁.manager.flavour = .process isPatient := by rw [hheld]; exact hf
        exact .head (.take hon) (ih hf₁ h)

/-- Giving locks back one after the other. -/
theorem works_releaseEach {rest : List Requirement} {isLast : Bool} {d d' : Desk}
    {x : Except Failure Unit} (hf : d.manager.flavour = .process isPatient)
    (h : (Desk.releaseEach rest).run.run d = (x, d')) :
    Works may (d.registry, ⟨d.manager, .leaving rest isLast⟩)
      (d'.registry, ⟨d'.manager, gaveBack isLast x⟩) := by
  induction rest generalizing d with
  | nil =>
    cases h
    exact .refl
  | cons r rest ih =>
    rw [Desk.run_releaseEach_cons] at h
    have hon := Desk.on_release_eq_told r hf
    generalize (Desk.release r).run.run d = y at h hon
    rcases y with ⟨f | u, d₁⟩
    · cases h
      exact .head (.abort hon) .refl
    · have hdropped := (Desk.release_ended hf hon).2.2
      have hf₁ : d₁.manager.flavour = .process isPatient := by rw [hdropped]; exact hf
      exact .head (.giveBack hon) (ih hf₁ h)

/-! ### Procedures of a manager -/

variable {g g' : Registry} {m m' : Manager}

/-- **Entering a block**: a worker that takes the locks of its errand holds what its manager took in
one go. -/
theorem works_enter {s : LockSet} {taken : List Requirement} (hf : m.flavour = .process isPatient)
    (he : e.locks = s.requirements) (h : Desk.on (Desk.enter s) g m = (.ok taken, g', m')) :
    Works may (g, ⟨m, .taking e [] e.locks⟩) (g', ⟨m', e.entered taken⟩) := by
  rw [Desk.on_eq_told, Desk.run_enter] at h
  rcases hrun : (Desk.takeEach [] s.requirements).run.run { registry := g, manager := m } with
    ⟨f | ⟨t, failure⟩, d₁⟩
  · rw [hrun] at h
    cases h
  · rw [hrun] at h
    cases failure with
    | none =>
      cases h
      have htaken : Works may (g, ⟨m, .taking e [] s.requirements⟩)
          (d₁.registry, ⟨d₁.manager, .taking e taken []⟩) := works_takeEach hf hrun nofun
      rw [he]
      exact htaken.tail ⟨_, _, .enter⟩
    | some f =>
      -- an entry that failed doesn't come to an end
      rcases hleave : (Desk.leave t).run.run d₁ with ⟨y, d₂⟩
      dsimp only at h
      rw [hleave] at h
      cases y <;> cases h

/-- **An entry that fails**, where no lock has to be waited for: the worker gives back what it has
taken, as its manager did in one go. -/
theorem works_enter_failed {s : LockSet} {taken : List Requirement} {f f' : Failure} {d₁ : Desk}
    (hf : m.flavour = .process isPatient) (he : e.locks = s.requirements)
    (hrun : (Desk.takeEach [] s.requirements).run.run { registry := g, manager := m }
      = (.ok (taken, some f), d₁))
    (hbusy : ∀ r, f ≠ .lock (.timedOut r))
    (h : Desk.on (Desk.enter s) g m = (.error f', g', m')) :
    Works may (g, ⟨m, .taking e [] e.locks⟩) (g', ⟨m', .resting⟩) := by
  rw [Desk.on_eq_told, Desk.run_enter, hrun] at h
  rcases hleave : (Desk.leave taken).run.run d₁ with ⟨y, d₂⟩
  have hend : d₂.registry = g' ∧ d₂.manager = m' := by
    dsimp only at h
    rw [hleave] at h
    cases y <;> cases h <;> exact ⟨rfl, rfl⟩
  obtain ⟨rfl, rfl⟩ := hend
  have htried : Works may (g, ⟨m, .taking e [] s.requirements⟩)
      (d₁.registry, ⟨d₁.manager, .leaving taken.reverse false⟩) :=
    works_takeEach hf hrun fun r hr => hbusy r (Option.some.inj hr)
  have hf₁ : d₁.manager.flavour = .process isPatient := Desk.flavour_takeEach hf hrun
  have hgone : Works may (d₁.registry, ⟨d₁.manager, .leaving taken.reverse false⟩)
      (d₂.registry, ⟨d₂.manager, gaveBack false y⟩) := works_releaseEach hf₁ hleave
  rw [he]
  refine htried.trans ?_
  cases y with
  | ok u => exact hgone.tail ⟨_, _, .leave⟩
  | error f => exact hgone

/-- **Leaving a block**: a worker gives back what its manager gave back in one go. -/
theorem works_leave {taken : List Requirement} {x : Except Failure Unit}
    (hf : m.flavour = .process isPatient) (h : Desk.on (Desk.leave taken) g m = (x, g', m')) :
    Works may (g, ⟨m, .inside e taken⟩) (g', ⟨m', .resting⟩) := by
  rw [Desk.on_eq_told, Desk.leave] at h
  rcases hrun : (Desk.releaseEach taken.reverse).run.run { registry := g, manager := m } with
    ⟨y, d₁⟩
  rw [hrun] at h
  cases h
  have hreleased : Works may (g, ⟨m, .leaving taken.reverse false⟩)
      (d₁.registry, ⟨d₁.manager, gaveBack false y⟩) := works_releaseEach hf hrun
  refine .head .finish ?_
  cases y with
  | ok u => exact hreleased.tail ⟨_, _, .leave⟩
  | error f => exact hreleased

/-- **Ending the use of a manager** is an errand of a worker. -/
theorem works_dispose (hmay : may .dispose) (hf : m.flavour = .process isPatient)
    (h : Desk.on Desk.dispose g m = (.ok (), g', m')) :
    Works may (g, ⟨m, .resting⟩) (g', ⟨m', .resting⟩) := by
  rw [Desk.on_eq_told, Desk.dispose, Desk.run_bind, Desk.releaseAll, Desk.run_bind,
    Desk.run_ensureAlive] at h
  cases halive : m.isDisposed with
  | true =>
    simp only [halive, if_true] at h
    cases h
  | false =>
    simp only [halive, Bool.false_eq_true, if_false] at h
    rw [Desk.run_bind, Desk.run_get] at h
    simp only at h
    rcases hrun : (Desk.releaseEach (Assoc.keys m.states)).run.run { registry := g, manager := m }
      with ⟨f | u, d₁⟩
    · rw [hrun] at h
      cases h
    · rw [hrun] at h
      have hf₁ := Desk.flavour_releaseEach hf hrun
      simp only [Desk.run_bind, Desk.run_get, hf₁] at h
      cases h
      have hreleased : Works may (g, ⟨m, .leaving (Assoc.keys m.states) true⟩)
          (d₁.registry, ⟨d₁.manager, .leaving [] true⟩) := works_releaseEach hf hrun
      exact (Works.head (.begin hmay halive) hreleased).tail ⟨_, _, .dispose⟩

/-- What a step with a manager of a hall comes to. -/
theorem withManager_eq {α : Type} {name : String} {h : Hall} (step : AtDesk α)
    (hm : h.managers.lookup name = some m) :
    ∃ log, h.withManager name step = ((Desk.on step h.registry m).1,
      { h with
        registry := (Desk.on step h.registry m).2.1
        managers := Assoc.put name (Desk.on step h.registry m).2.2 h.managers
        log }) := by
  unfold Hall.withManager
  rw [hm]
  exact ⟨_, rfl⟩

/-- **Granting a request that waits** is how its worker wakes. -/
theorem wakes_of_grantWaiter {h : Hall} {x : Waiter} {taken rest : List Requirement}
    (hm : h.managers.lookup x.manager = some m) (halive : m.isDisposed = false)
    (hgrants : h.registry.grants x.lock = true) :
    ∃ m', (h.grantWaiter x).managers.lookup x.manager = some m' ∧
      Moves may .wake h.registry ⟨m, .waiting e taken x.lock rest true⟩
        (Registry.notifies x.lock (h.grantWaiter x).registry) (h.grantWaiter x).registry
        ⟨m', .taking e (taken ++ [x.lock]) rest⟩ := by
  have hon := Desk.on_holdWaited x.lock ((h.registry.stopWaiting x.lock).grant x.lock) m
  rw [if_neg (by simp [halive])] at hon
  obtain ⟨log, hstep⟩ : ∃ log, Hall.withManager x.manager (Desk.holdWaited x.lock)
      { h with registry := (h.registry.stopWaiting x.lock).grant x.lock } = _ :=
    withManager_eq (Desk.holdWaited x.lock) hm
  simp only [hon] at hstep
  have hgranted : h.grantWaiter x = Hall.note x.name .acquired { h with
      registry := (h.registry.stopWaiting x.lock).grant x.lock
      managers := Assoc.put x.manager (m.hold x.lock) h.managers
      log } := by
    unfold Desk.holdWaited at hstep
    simp only [Hall.grantWaiter, hstep]
  rw [hgranted]
  exact ⟨m.hold x.lock, Assoc.lookup_put_self _ _ _, .wake hgrants (.inl rfl) hon⟩

end Worker

end CatalogReplication.Lock
