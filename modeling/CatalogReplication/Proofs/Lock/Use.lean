import CatalogReplication.Proofs.Assoc
import CatalogReplication.Proofs.Lock.Cleanup
import CatalogReplication.Proofs.Stateful

/-!
# How managers are used

Whoever works with a manager takes locks and gives them back, one by one, in holds or all at once,
and in the end disposes of it; in between the service reports how the connection is. Whatever taking
one lock, giving one back and a report keep, all of these uses keep (`Use.keeps`), so a whole life
of a manager does (`Desk.through_keeps`). A hold is what it does at its beginning, its block and
what it does at its end (`Desk.through_holding`).
-/

namespace CatalogReplication.Lock

open Stateful (Stays stays_attempt stays_pure)

/-- Something that is done with a manager. -/
inductive Use where
  | acquire (r : Requirement)
  | release (r : Requirement)
  /-- Takes the locks of a set, as a hold does at its beginning. -/
  | enter (s : LockSet)
  /-- Gives locks back in reverse, as a hold does at its end. -/
  | leave (taken : List Requirement)
  | releaseAll
  | dispose
  /-- The service reports how the connection is. -/
  | report (c : Desk.Connection)

/-- What a manager does when it is used. -/
def Use.step : Use → AtDesk Unit
  | acquire r => Desk.acquire r
  | release r => Desk.release r
  | enter s => do
    let _ ← Desk.enter s
    return
  | leave taken => Desk.leave taken
  | releaseAll => Desk.releaseAll
  | dispose => Desk.dispose
  | report c => Desk.hearConnection c

namespace Desk

variable {α : Type} {P : Desk → Prop} {d : Desk} {r : Requirement}

/-- The desk after a use of its manager. -/
def used (d : Desk) (u : Use) : Desk := (u.step.run.run d).2

/-- The desk after several uses of its manager. -/
def through (d : Desk) (us : List Use) : Desk := us.foldl used d

theorem through_append (d : Desk) (us us' : List Use) :
    d.through (us ++ us') = (d.through us).through us' :=
  List.foldl_append

theorem used_enter (d : Desk) (s : LockSet) :
    d.used (.enter s) = ((enter s).run.run d).2 := by
  unfold used Use.step
  dsimp only
  rw [run_bind]
  rcases (enter s).run.run d with ⟨e | taken, d'⟩ <;> rfl

/-- **A hold** is entering it, its block and leaving it. -/
theorem through_holding (s : LockSet) {block : AtDesk α} {us : List Use} (d : Desk)
    (hblock : ∀ taken d₁, (enter s).run.run d = (.ok taken, d₁) →
      (block.run.run d₁).2 = d₁.through us) :
    ((holding s block).run.run d).2 =
      match ((enter s).run.run d).1 with
      | .ok taken => d.through (.enter s :: us ++ [.leave taken])
      | .error _ => d.through [.enter s] := by
  have henter : ∀ us', d.through (.enter s :: us') = ((enter s).run.run d).2.through us' :=
    fun us' => congrArg (through · us') (used_enter d s)
  rw [holding, run_bind]
  rcases h : (enter s).run.run d with ⟨e | taken, d₁⟩
  · rw [henter, h]
    rfl
  · dsimp only
    rw [List.cons_append, henter, h, through_append, ← hblock taken d₁ h, run_bind, run_attempt]
    dsimp only
    rw [run_bind]
    show _ = ((leave taken).run.run (block.run.run d₁).2).2
    rcases (leave taken).run.run (block.run.run d₁).2 with ⟨e | _, d₂⟩
    · rfl
    · dsimp only
      rw [run_ofExcept]

/-! ### What stays -/

theorem stays_takeEach {rs : List Requirement} (h : ∀ r ∈ rs, Stays P (acquire r))
    (taken : List Requirement) : Stays P (takeEach taken rs) := by
  induction rs generalizing taken with
  | nil => exact stays_pure _
  | cons r rest ih =>
    rw [takeEach]
    refine (stays_attempt (h r List.mem_cons_self)).bind fun result => ?_
    cases result with
    | ok _ => exact ih (fun x hx => h x (List.mem_cons_of_mem r hx)) _
    | error e => exact stays_pure _

theorem stays_releaseEach {rs : List Requirement} (h : ∀ r ∈ rs, Stays P (release r)) :
    Stays P (releaseEach rs) := by
  induction rs with
  | nil => exact stays_pure ()
  | cons r rest ih =>
    rw [releaseEach]
    exact (h r List.mem_cons_self).bind fun _ => ih fun x hx => h x (List.mem_cons_of_mem r hx)

theorem stays_leave {taken : List Requirement} (h : ∀ r ∈ taken, Stays P (release r)) :
    Stays P (leave taken) :=
  stays_releaseEach fun r hr => h r (List.mem_reverse.1 hr)

/-- Only locks that were asked for are taken. -/
theorem subset_of_takeEach {rs taken newly : List Requirement} {f : Option Failure} {d' : Desk}
    (h : (takeEach taken rs).run.run d = (.ok (newly, f), d')) : newly ⊆ taken ++ rs := by
  induction rs generalizing taken d with
  | nil =>
    cases h
    simp
  | cons r rest ih =>
    rw [run_takeEach_cons] at h
    rcases hacquire : (acquire r).run.run d with ⟨e | _, d₁⟩
    · rw [hacquire] at h
      cases h
      simp
    · rw [hacquire] at h
      have hsubset := ih h
      rwa [List.append_assoc] at hsubset

theorem stays_enter {s : LockSet} (hacquire : ∀ r ∈ s.requirements, Stays P (acquire r))
    (hrelease : ∀ r ∈ s.requirements, Stays P (release r)) : Stays P (enter s) := by
  intro d hd
  have htake := stays_takeEach hacquire [] d hd
  rw [run_enter]
  rcases h : (takeEach [] s.requirements).run.run d with ⟨e | ⟨taken, f⟩, d₁⟩
  · rw [h] at htake
    exact htake
  · rw [h] at htake
    have htaken := subset_of_takeEach h
    cases f with
    | none => exact htake
    | some e => exact stays_leave (fun r hr => hrelease r (htaken hr)) d₁ htake

theorem stays_setEach {rs : List Requirement} {new : LockState}
    (hset : ∀ r ∈ rs, Stays P (setState r new)) : Stays P (setEach new rs) := by
  induction rs with
  | nil => exact stays_pure ()
  | cons r rest ih =>
    rw [setEach]
    exact (hset r List.mem_cons_self).bind fun _ =>
      ih fun x hx => hset x (List.mem_cons_of_mem r hx)

/-- A report is about the locks that are held. -/
theorem keeps_hearConnection {c : Connection} (hd : P d)
    (hset : ∀ r ∈ d.manager.held, Stays P (setState r c.lockState)) :
    P ((hearConnection c).run.run d).2 := by
  unfold hearConnection
  rw [run_bind, run_ensureAlive]
  cases d.manager.isDisposed with
  | true => exact hd
  | false => exact stays_setEach hset d hd

/-! ### Giving all locks back -/

/-- A lock that was given back is unlocked; if it can't be given back, the states stay. -/
theorem states_release (r : Requirement) (d : Desk) :
    ((release r).run.run d).2.manager.isDisposed = d.manager.isDisposed ∧
      ((release r).run.run d).2.manager.states =
        if ((release r).run.run d).1.isOk then d.manager.states.update r .unlocked
        else d.manager.states := by
  unfold release
  simp only [run_bind, run_ensureAlive, run_get]
  cases hdead : d.manager.isDisposed with
  | true => exact ⟨hdead, rfl⟩
  | false =>
    simp only [Bool.false_eq_true, if_false]
    cases hflavour : d.manager.flavour with
    | none => exact ⟨hdead, rfl⟩
    | process isPatient => cases hc : d.manager.held.contains r <;> exact ⟨hdead, rfl⟩
    | service s =>
      cases hc : d.manager.held.contains r with
      | false => exact ⟨hdead, rfl⟩
      | true =>
        simp only [Bool.not_true, Bool.false_eq_true, if_false, run_bind, run_hear, run_nextReply]
        cases d.replies.head?.getD .granted <;> exact ⟨hdead, rfl⟩

theorem stays_alive (r : Requirement) : Stays (fun d => d.manager.isDisposed = false) (release r) :=
  fun d hd => (states_release r d).1.trans hd

theorem lookup_releaseEach {rs : List Requirement} {d d' : Desk}
    (h : (releaseEach rs).run.run d = (.ok (), d')) (x : Requirement) :
    d'.manager.states.lookup x = if x ∈ rs then none else d.manager.states.lookup x := by
  induction rs generalizing d with
  | nil =>
    cases h
    rfl
  | cons r rest ih =>
    rw [run_releaseEach_cons] at h
    have hstates := (states_release r d).2
    rcases hrelease : (release r).run.run d with ⟨e | ⟨⟨⟩⟩, d₁⟩
    · rw [hrelease] at h
      cases h
    · rw [hrelease] at h hstates
      have hlookup : d₁.manager.states.lookup x =
          if x = r then none else d.manager.states.lookup x := by
        rw [show d₁.manager.states = d.manager.states.update r .unlocked from hstates]
        split
        next hx => rw [hx]; exact Assoc.lookup_erase_self r _
        next hx => exact Assoc.lookup_erase_of_ne hx _
      rw [ih h, hlookup]
      by_cases hx : x = r <;> simp [hx]

/-- When all locks have been given back, none has a state. -/
theorem states_releaseAll {d d' : Desk} (h : releaseAll.run.run d = (.ok (), d')) :
    d'.manager.states = [] ∧ d'.manager.isDisposed = false := by
  unfold releaseAll at h
  rw [run_bind, run_ensureAlive] at h
  cases hdead : d.manager.isDisposed with
  | true =>
    rw [hdead] at h
    cases h
  | false =>
    rw [hdead] at h
    have heach : (releaseEach (Assoc.keys d.manager.states)).run.run d = (.ok (), d') := h
    have halive : ((releaseEach (Assoc.keys d.manager.states)).run.run d).2.manager.isDisposed =
        false := stays_releaseEach (fun r _ => stays_alive r) d hdead
    rw [heach] at halive
    have hnone : ∀ x, d'.manager.states.lookup x = none := by
      intro x
      rw [lookup_releaseEach heach x]
      split
      · rfl
      next hx => exact Assoc.lookup_eq_none_iff.2 hx
    refine ⟨List.eq_nil_iff_forall_not_mem.2 fun e he => ?_, halive⟩
    exact Assoc.lookup_eq_none_iff.1 (hnone e.1) (List.mem_map.2 ⟨e, he, rfl⟩)

/-- What is left to do when all locks have been given back. -/
def closed (d : Desk) : Desk :=
  match d.manager.flavour with
  | .none | .process _ => { d with manager := { d.manager with isDisposed := true } }
  | .service _ => { d with
      log := d.log ++ [.service "stop", .service "close"]
      manager := { d.manager with states := [], held := [], isDisposed := true } }

theorem run_dispose (d : Desk) :
    dispose.run.run d =
      match releaseAll.run.run d with
      | (.ok (), d₁) => (.ok (), d₁.closed)
      | (.error e, d₁) => (.error e, d₁) := by
  unfold dispose
  rw [run_bind]
  rcases releaseAll.run.run d with ⟨e | ⟨⟨⟩⟩, d₁⟩
  · rfl
  · dsimp only
    rw [run_bind, run_get]
    dsimp only
    unfold closed
    cases d₁.manager.flavour <;> rfl

end Desk

namespace Use

open Desk

variable {P : Desk → Prop} {d : Desk}

/-- The locks that a use may be about. -/
def locks (d : Desk) : Use → List Requirement
  | acquire r => [r]
  | release r => [r]
  | enter s => s.requirements
  | leave taken => taken
  | releaseAll => Assoc.keys d.manager.states
  | dispose => Assoc.keys d.manager.states
  | report _ => d.manager.held

theorem keeps_releaseAll (hd : P d)
    (h : ∀ r ∈ Assoc.keys d.manager.states, Stays P (Desk.release r)) :
    P (Desk.releaseAll.run.run d).2 := by
  unfold Desk.releaseAll
  rw [run_bind, run_ensureAlive]
  cases d.manager.isDisposed with
  | true => exact hd
  | false => exact stays_releaseEach h d hd

/-- What taking and giving back one lock keep, and a report and the end of a manager, every use
keeps. -/
theorem keeps (u : Use) (hd : P d) (hacquire : ∀ r ∈ u.locks d, Stays P (Desk.acquire r))
    (hrelease : ∀ r ∈ u.locks d, Stays P (Desk.release r))
    (hreport : ∀ c, u = .report c → P ((hearConnection c).run.run d).2)
    (hclosed : ∀ d', P d' → d'.manager.states = [] → d'.manager.isDisposed = false →
      P d'.closed) :
    P (d.used u) := by
  cases u with
  | acquire r => exact hacquire r List.mem_cons_self d hd
  | release r => exact hrelease r List.mem_cons_self d hd
  | enter s =>
    rw [used_enter]
    exact stays_enter hacquire hrelease d hd
  | leave taken => exact stays_leave hrelease d hd
  | releaseAll => exact keeps_releaseAll hd hrelease
  | dispose =>
    have hall := keeps_releaseAll hd hrelease
    show P (Desk.dispose.run.run d).2
    rw [run_dispose]
    rcases h : Desk.releaseAll.run.run d with ⟨e | ⟨⟨⟩⟩, d'⟩
    · rw [h] at hall
      exact hall
    · rw [h] at hall
      obtain ⟨hstates, halive⟩ := states_releaseAll h
      exact hclosed d' hall hstates halive
  | report c => exact hreport c rfl

end Use

namespace Desk

theorem through_keeps {P : Desk → Prop} (h : ∀ d u, P d → P (d.used u)) {d : Desk} (hd : P d)
    (us : List Use) : P (d.through us) := by
  induction us generalizing d with
  | nil => exact hd
  | cons u us ih => exact ih (h d u hd)

end Desk

end CatalogReplication.Lock
