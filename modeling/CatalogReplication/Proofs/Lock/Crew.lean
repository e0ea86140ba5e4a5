import CatalogReplication.Proofs.Lock.Desk
import CatalogReplication.Proofs.Lock.Registry
import Mathlib.Data.List.Nodup

/-!
# Workers that share a lock registry

A crew is any number of workers of one process, each with a manager of its own, and the registry
that the managers share. Workers run errands one at a time: tasks under their locks, other blocks
under a set of locks, requests and releases of single locks, and the end of the use of their
manager. What a worker does between two looks at the registry concerns its own manager only, so each
look with what follows it is one step (`Worker.Moves`), and the steps of the workers interleave in
any order (`Crew.Step`).

A request that can't be granted waits. Whoever waits is asleep until it is notified; it then looks
whether its lock can be granted, takes it, or falls asleep again. An impatient manager also looks
when its time is up, and gives up if it can't take the lock.

`Worker.Change` says what a step does to the registry and to what the worker holds and waits for.
-/

namespace CatalogReplication.Lock

/-- Whether the requests of a manager give up when their time is up. -/
def Manager.IsImpatient (m : Manager) : Prop := m.flavour = .process false

/-- What a worker may set out to do. -/
inductive Errand where
  /-- Replicate an object while holding the locks that it needs. -/
  | task (s : Spec)
  /-- Do something else while holding a set of locks. -/
  | hold (s : LockSet)
  /-- Take a lock and keep it. -/
  | keep (r : Requirement)
  /-- Give a lock back that was kept. -/
  | giveBack (r : Requirement)
  /-- End the use of the manager. -/
  | dispose

namespace Errand

/-- The locks that an errand takes, in their order. -/
def locks : Errand → List Requirement
  | task s => s.requiredLocks.requirements
  | hold s => s.requirements
  | keep r => [r]
  | giveBack _ => []
  | dispose => []

end Errand

/-- Where a worker is with its errand. -/
inductive Place where
  | resting
  /-- It has taken some locks and takes the others. -/
  | taking (e : Errand) (taken rest : List Requirement)
  /-- It waits for a lock; if it was notified, it is about to look again. -/
  | waiting (e : Errand) (taken : List Requirement) (r : Requirement) (rest : List Requirement)
    (isNotified : Bool)
  /-- It holds all locks of its errand and is inside its block. -/
  | inside (e : Errand) (taken : List Requirement)
  /-- It gives locks back, maybe to end the use of its manager. -/
  | leaving (rest : List Requirement) (isLast : Bool)

namespace Place

/-- The place after somebody has notified all who wait. -/
def notified : Place → Place
  | waiting e taken r rest _ => waiting e taken r rest true
  | p => p

/-- The lock that is waited for. -/
def waitsFor : Place → Option Requirement
  | waiting _ _ r _ _ => some r
  | _ => none

@[simp] theorem waitsFor_notified (p : Place) : p.notified.waitsFor = p.waitsFor := by
  cases p <;> rfl

end Place

/-- Where a worker with some manager begins an errand. -/
def Errand.start (m : Manager) : Errand → Place
  | giveBack r => .leaving [r] false
  | dispose => .leaving (Assoc.keys m.states) true
  | e => .taking e [] e.locks

/-- Where a worker is that has taken all locks of its errand. -/
def Errand.entered (taken : List Requirement) : Errand → Place
  | keep _ => .resting
  | e => .inside e taken

theorem Errand.waitsFor_start (m : Manager) (e : Errand) : (e.start m).waitsFor = none := by
  cases e <;> rfl

theorem Errand.waitsFor_entered (taken : List Requirement) (e : Errand) :
    (e.entered taken).waitsFor = none := by
  cases e <;> rfl

/-- What has been taken at a place is among the locks that are held, and is what the errand takes
first. -/
def Place.Fits (held : List Requirement) : Place → Prop
  | taking e taken rest => taken ++ rest = e.locks ∧ taken ⊆ held
  | waiting e taken r rest _ => taken ++ r :: rest = e.locks ∧ taken ⊆ held ∧ r ∉ held
  | inside e taken => taken = e.locks ∧ taken ⊆ held
  | resting => True
  | leaving _ _ => True

theorem Errand.fits_start (m : Manager) (e : Errand) {held : List Requirement} :
    (e.start m).Fits held := by
  cases e <;> first | trivial | exact ⟨rfl, List.nil_subset _⟩

theorem Place.fits_take {held : List Requirement} {e : Errand} {taken rest : List Requirement}
    {r : Requirement} (h : taken ++ r :: rest = e.locks ∧ taken ⊆ held) :
    (taking e (taken ++ [r]) rest).Fits (held ++ [r]) := by
  refine ⟨by rw [List.append_assoc]; exact h.1, List.append_subset.2 ⟨?_, ?_⟩⟩
  · exact List.subset_append_of_subset_left _ h.2
  · exact List.subset_append_right _ _

theorem Place.Fits.enter {held : List Requirement} {e : Errand} {taken : List Requirement}
    (h : (taking e taken []).Fits held) : (e.entered taken).Fits held := by
  obtain ⟨hlocks, htaken⟩ := h
  rw [List.append_nil] at hlocks
  cases e <;> trivial

/-- A worker, its manager, and where it is. -/
structure Worker where
  manager : Manager
  place : Place := .resting

/-- The kinds of steps. -/
inductive Act where
  | begin
  | take
  | refuse
  | block
  | wake
  | doze
  | giveUp
  | enter
  | finish
  | giveBack
  | abort
  | leave
  | dispose
deriving DecidableEq

/-- Whether a step only waits. -/
def Act.isWaiting : Act → Bool
  | block | doze => true
  | _ => false

namespace Worker

/-- The worker after somebody has notified all who wait. -/
def notified (w : Worker) : Worker := { w with place := w.place.notified }

/-- What a worker that may run some errands can do: from a registry and a worker to a registry and
a worker, saying whether all who wait are notified. -/
inductive Moves (may : Errand → Prop) : Act → Registry → Worker → Bool → Registry → Worker → Prop
  where
  | begin {g : Registry} {m : Manager} {e : Errand} (hmay : may e) (halive : m.isDisposed = false) :
      Moves may .begin g ⟨m, .resting⟩ false g ⟨m, e.start m⟩
  /-- A lock that can be granted is taken at once. -/
  | take {g g' : Registry} {m m' : Manager} {e : Errand} {taken rest : List Requirement}
      {r : Requirement} (h : Desk.on (Desk.tryAcquire r) g m = (.ok true, g', m')) :
      Moves may .take g ⟨m, .taking e taken (r :: rest)⟩ (Registry.notifies r g') g'
        ⟨m', .taking e (taken ++ [r]) rest⟩
  /-- A request that is an error ends the errand. -/
  | refuse {g g' : Registry} {m m' : Manager} {e : Errand} {taken rest : List Requirement}
      {r : Requirement} {f : Failure}
      (h : Desk.on (Desk.tryAcquire r) g m = (.error f, g', m'))
      (hf : f ≠ .lock (.timedOut r)) :
      Moves may .refuse g ⟨m, .taking e taken (r :: rest)⟩ false g'
        ⟨m', .leaving taken.reverse false⟩
  /-- A lock that can't be granted is waited for, also by those who will give up. -/
  | block {g g' : Registry} {m m' : Manager} {e : Errand} {taken rest : List Requirement}
      {r : Requirement} {x : Except Failure Bool}
      (h : Desk.on (Desk.tryAcquire r) g m = (x, g', m'))
      (hx : x = .ok false ∨ x = .error (.lock (.timedOut r))) :
      Moves may .block g ⟨m, .taking e taken (r :: rest)⟩ false (g'.startWaiting r)
        ⟨m', .waiting e taken r rest false⟩
  /-- Who was notified, or whose time is up, takes a lock that has become free. -/
  | wake {g g' : Registry} {m m' : Manager} {e : Errand} {taken rest : List Requirement}
      {r : Requirement} {isNotified : Bool} (hgrants : g.grants r = true)
      (hawake : isNotified = true ∨ m.IsImpatient)
      (h : Desk.on (Desk.holdWaited r) ((g.stopWaiting r).grant r) m = (.ok (), g', m')) :
      Moves may .wake g ⟨m, .waiting e taken r rest isNotified⟩ (Registry.notifies r g') g'
        ⟨m', .taking e (taken ++ [r]) rest⟩
  /-- Who was notified for nothing sleeps on. -/
  | doze {g : Registry} {m : Manager} {e : Errand} {taken rest : List Requirement}
      {r : Requirement} (hgrants : g.grants r = false) :
      Moves may .doze g ⟨m, .waiting e taken r rest true⟩ false g
        ⟨m, .waiting e taken r rest false⟩
  /-- The time is up, and the lock isn't free. -/
  | giveUp {g : Registry} {m : Manager} {e : Errand} {taken rest : List Requirement}
      {r : Requirement} {isNotified : Bool} (hgrants : g.grants r = false)
      (himpatient : m.IsImpatient) :
      Moves may .giveUp g ⟨m, .waiting e taken r rest isNotified⟩
        (Registry.notifies r (g.stopWaiting r)) (g.stopWaiting r)
        ⟨m, .leaving taken.reverse false⟩
  | enter {g : Registry} {m : Manager} {e : Errand} {taken : List Requirement} :
      Moves may .enter g ⟨m, .taking e taken []⟩ false g ⟨m, e.entered taken⟩
  /-- The block comes to its end, or fails. -/
  | finish {g : Registry} {m : Manager} {e : Errand} {taken : List Requirement} :
      Moves may .finish g ⟨m, .inside e taken⟩ false g ⟨m, .leaving taken.reverse false⟩
  | giveBack {g g' : Registry} {m m' : Manager} {rest : List Requirement} {isLast : Bool}
      {r : Requirement} (h : Desk.on (Desk.release r) g m = (.ok (), g', m')) :
      Moves may .giveBack g ⟨m, .leaving (r :: rest) isLast⟩ true g' ⟨m', .leaving rest isLast⟩
  /-- A release that is an error ends the errand; what is left isn't given back. -/
  | abort {g g' : Registry} {m m' : Manager} {rest : List Requirement} {isLast : Bool}
      {r : Requirement} {f : Failure} (h : Desk.on (Desk.release r) g m = (.error f, g', m')) :
      Moves may .abort g ⟨m, .leaving (r :: rest) isLast⟩ false g' ⟨m', .resting⟩
  | leave {g : Registry} {m : Manager} :
      Moves may .leave g ⟨m, .leaving [] false⟩ false g ⟨m, .resting⟩
  | dispose {g : Registry} {m : Manager} :
      Moves may .dispose g ⟨m, .leaving [] true⟩ false g ⟨{ m with isDisposed := true }, .resting⟩

/-! ### What a step can do -/

/-- A worker's manager holds what its place says that it has taken, and each lock once. -/
structure Sound (w : Worker) : Prop where
  flavour : ∃ isPatient, w.manager.flavour = .process isPatient
  nodup : w.manager.held.Nodup
  place : w.place.Fits w.manager.held

theorem Sound.notified {w : Worker} (h : w.Sound) : w.notified.Sound := by
  obtain ⟨m, p⟩ := w
  refine ⟨h.flavour, h.nodup, ?_⟩
  cases p <;> exact h.place

theorem Sound.nodup_concat {w : Worker} (h : w.Sound) {r : Requirement}
    (hr : r ∉ w.manager.held) : (w.manager.held ++ [r]).Nodup :=
  h.nodup.append (List.nodup_singleton r) (List.disjoint_singleton.2 hr)

/-- What a step does to the registry, and to what the worker holds and waits for. -/
inductive Change (g : Registry) (w : Worker) : Registry → Worker → Prop where
  | none {w' : Worker} (hheld : w'.manager.held = w.manager.held)
      (hwaits : w'.place.waitsFor = w.place.waitsFor) : Change g w g w'
  | grant {w' : Worker} (r : Requirement) (hnew : r ∉ w.manager.held)
      (hgrants : g.grants r = true) (hheld : w'.manager.held = w.manager.held ++ [r])
      (hbefore : w.place.waitsFor = .none) (hafter : w'.place.waitsFor = .none) :
      Change g w (g.grant r) w'
  | startWaiting {w' : Worker} (r : Requirement) (hgrants : g.grants r = false)
      (hheld : w'.manager.held = w.manager.held) (hbefore : w.place.waitsFor = .none)
      (hafter : w'.place.waitsFor = some r) : Change g w (g.startWaiting r) w'
  | grantWaited {w' : Worker} (r : Requirement) (hnew : r ∉ w.manager.held)
      (hgrants : g.grants r = true) (hheld : w'.manager.held = w.manager.held ++ [r])
      (hbefore : w.place.waitsFor = some r) (hafter : w'.place.waitsFor = .none) :
      Change g w ((g.stopWaiting r).grant r) w'
  | stopWaiting {w' : Worker} (r : Requirement) (hheld : w'.manager.held = w.manager.held)
      (hbefore : w.place.waitsFor = some r) (hafter : w'.place.waitsFor = .none) :
      Change g w (g.stopWaiting r) w'
  | giveBack {w' : Worker} (r : Requirement) (hold : r ∈ w.manager.held)
      (hheld : w'.manager.held = w.manager.held.filter fun x => !(x == r))
      (hbefore : w.place.waitsFor = .none) (hafter : w'.place.waitsFor = .none) :
      Change g w (g.giveBack r) w'

variable {may : Errand → Prop} {a : Act} {g g' : Registry} {w w' : Worker} {isLoud : Bool}

theorem Moves.change (h : Moves may a g w isLoud g' w') (hw : w.Sound) : Change g w g' w' := by
  obtain ⟨isPatient, hf⟩ := hw.flavour
  cases h with
  | @begin _ m e hmay halive => exact .none rfl (e.waitsFor_start m)
  | take h =>
    obtain ⟨hnew, hgrants, rfl, rfl⟩ := Desk.tryAcquire_taken hf h
    exact .grant _ hnew hgrants rfl rfl rfl
  | refuse h hf' =>
    obtain ⟨rfl, rfl⟩ := Desk.tryAcquire_failed hf h
    exact .none rfl rfl
  | block h hx =>
    obtain ⟨-, hgrants, rfl, rfl⟩ := Desk.tryAcquire_busy hf h hx
    exact .startWaiting _ hgrants rfl rfl rfl
  | wake hgrants hawake h =>
    obtain ⟨rfl, rfl⟩ := Desk.holdWaited_ended h
    exact .grantWaited _ hw.place.2.2 hgrants rfl rfl rfl
  | doze hgrants => exact .none rfl rfl
  | giveUp hgrants himpatient => exact .stopWaiting _ rfl rfl rfl
  | @enter _ m e taken => exact .none rfl (e.waitsFor_entered taken)
  | finish => exact .none rfl rfl
  | giveBack h =>
    obtain ⟨hold, rfl, rfl⟩ := Desk.release_ended hf h
    exact .giveBack _ hold rfl rfl rfl
  | abort h =>
    obtain ⟨rfl, rfl⟩ := Desk.release_failed hf h
    exact .none rfl rfl
  | leave => exact .none rfl rfl
  | dispose => exact .none rfl rfl

theorem Moves.sound (h : Moves may a g w isLoud g' w') (hw : w.Sound) : w'.Sound := by
  obtain ⟨isPatient, hf⟩ := hw.flavour
  cases h with
  | @begin _ m e hmay halive => exact ⟨hw.flavour, hw.nodup, e.fits_start m⟩
  | @take _ _ m _ e taken rest r h =>
    obtain ⟨hnew, hgrants, rfl, rfl⟩ := Desk.tryAcquire_taken hf h
    exact ⟨⟨isPatient, hf⟩, hw.nodup_concat hnew, Place.fits_take hw.place⟩
  | refuse h hf' =>
    obtain ⟨rfl, rfl⟩ := Desk.tryAcquire_failed hf h
    exact ⟨hw.flavour, hw.nodup, trivial⟩
  | block h hx =>
    obtain ⟨hnew, -, rfl, rfl⟩ := Desk.tryAcquire_busy hf h hx
    exact ⟨hw.flavour, hw.nodup, hw.place.1, hw.place.2, hnew⟩
  | wake hgrants hawake h =>
    obtain ⟨rfl, rfl⟩ := Desk.holdWaited_ended h
    obtain ⟨hlocks, htaken, hnew⟩ := hw.place
    exact ⟨⟨isPatient, hf⟩, hw.nodup_concat hnew, Place.fits_take ⟨hlocks, htaken⟩⟩
  | doze hgrants => exact ⟨hw.flavour, hw.nodup, hw.place⟩
  | giveUp hgrants himpatient => exact ⟨hw.flavour, hw.nodup, trivial⟩
  | enter => exact ⟨hw.flavour, hw.nodup, hw.place.enter⟩
  | finish => exact ⟨hw.flavour, hw.nodup, trivial⟩
  | giveBack h =>
    obtain ⟨hold, rfl, rfl⟩ := Desk.release_ended hf h
    exact ⟨⟨isPatient, hf⟩, hw.nodup.filter _, trivial⟩
  | abort h =>
    obtain ⟨rfl, rfl⟩ := Desk.release_failed hf h
    exact ⟨hw.flavour, hw.nodup, trivial⟩
  | leave => exact ⟨hw.flavour, hw.nodup, trivial⟩
  | dispose => exact ⟨⟨isPatient, hf⟩, hw.nodup, trivial⟩

end Worker

/-- Workers that share a registry. -/
structure Crew (ι : Type) where
  registry : Registry
  worker : ι → Worker

namespace Crew

variable {ι : Type} [DecidableEq ι]

/-- A crew before it does anything; some managers are patient. -/
def fresh (isPatient : ι → Bool) : Crew ι where
  registry := {}
  worker i := ⟨{ flavour := .process (isPatient i) }, .resting⟩

/-- The crew after a step of a worker, by which all who wait may have been notified. -/
def after (i : ι) (isLoud : Bool) (g : Registry) (w : Worker) (c : Crew ι) : Crew ι where
  registry := g
  worker := Function.update (fun j => if isLoud then (c.worker j).notified else c.worker j) i w

/-- A step of one of the workers. -/
inductive Step (may : Errand → Prop) : ι → Act → Crew ι → Crew ι → Prop where
  | move {c : Crew ι} {i : ι} {a : Act} {isLoud : Bool} {g : Registry} {w : Worker}
      (h : Worker.Moves may a c.registry (c.worker i) isLoud g w) :
      Step may i a c (c.after i isLoud g w)

/-- What a crew that begins fresh comes to. -/
inductive Reachable (may : Errand → Prop) (isPatient : ι → Bool) : Crew ι → Prop where
  | fresh : Reachable may isPatient (fresh isPatient)
  | step {c c' : Crew ι} {i : ι} {a : Act} (h : Reachable may isPatient c)
      (hs : Step may i a c c') : Reachable may isPatient c'

end Crew

end CatalogReplication.Lock
