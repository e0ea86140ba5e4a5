import CatalogReplication.Lab.Locks
import CatalogReplication.Proofs.Lock.Use

/-!
# What listeners hear of locks

Listeners are told of each change of the state of a lock, and of nothing else. What a listener that
was there from the beginning hears of a lock so is a chain that begins with the unlocked lock and
ends with the state that the lock has (`Desk.faithful_history`), whatever a manager of any flavour
is used for, whoever sets the states of locks, and whichever other listeners come and go.

Managers change states by `setState` alone. Everything else that they do goes unheard
(`Desk.Unheard`), so whatever has only to do with states and listeners (`Desk.Quiet`) is kept by all
moments if it is kept by `setState` (`Desk.Quiet.past`).
-/

namespace CatalogReplication.Lock

open Stateful (Stays stays_pure stays_throw stays_throw_bind)

/-! ### Histories -/

/-- Changes that follow one another lead from a state to another one. -/
def Leads : LockState → List (LockState × LockState) → LockState → Prop
  | a, [], b => a = b
  | a, c :: rest, b => c.1 = a ∧ c.1 ≠ c.2 ∧ Leads c.2 rest b

theorem Leads.append {a b c : LockState} {xs ys : List (LockState × LockState)}
    (h : Leads a xs b) (h' : Leads b ys c) : Leads a (xs ++ ys) c := by
  induction xs generalizing a with
  | nil =>
    obtain rfl : a = b := h
    exact h'
  | cons x xs ih =>
    obtain ⟨hold, hne, hrest⟩ := h
    exact ⟨hold, hne, ih hrest⟩

/-- The change of a lock that a listener hears of. -/
def Heard.news? (l : String) (r : Requirement) : Heard → Option (LockState × LockState)
  | .transition l' r' old new => if l' = l ∧ r' = r then some (old, new) else none
  | .service _ => none

namespace Desk

variable {α : Type} {P : Desk → Prop} {d d' : Desk} {r x : Requirement} {l : String}

/-- The changes of a lock that a listener has heard of. -/
def heardBy (l : String) (r : Requirement) (d : Desk) : List (LockState × LockState) :=
  d.log.filterMap (Heard.news? l r)

/-! ### What goes on unheard -/

/-- Nothing changes that listeners hear of. -/
structure Unheard (d d' : Desk) : Prop where
  states : d'.manager.states = d.manager.states
  listeners : d'.manager.listeners = d.manager.listeners
  heard : ∀ l r, d'.heardBy l r = d.heardBy l r

/-- What has to do with the states of locks, with listeners and what they heard, and with nothing
else. -/
def Quiet (P : Desk → Prop) : Prop := ∀ d d', Unheard d d' → P d → P d'

theorem Quiet.stays (hq : Quiet P) {step : AtDesk α} (h : ∀ d, Unheard d (step.run.run d).2) :
    Stays P step :=
  fun d hd => hq d _ (h d) hd

theorem unheard_service (texts : List String) (hm : d'.manager = d.manager)
    (hlog : d'.log = d.log ++ texts.map Heard.service) : Unheard d d' := by
  refine ⟨by rw [hm], by rw [hm], fun l r => ?_⟩
  have hsilent : (texts.map Heard.service).filterMap (Heard.news? l r) = [] := by
    simp [List.filterMap_eq_nil_iff, Heard.news?]
  unfold heardBy
  rw [hlog, List.filterMap_append, hsilent, List.append_nil]

theorem unheard_ensureAlive (d : Desk) : Unheard d (ensureAlive.run.run d).2 := by
  rw [run_ensureAlive]
  cases d.manager.isDisposed <;> exact ⟨rfl, rfl, fun _ _ => rfl⟩

theorem unheard_nextReply (usual : Reply) (d : Desk) :
    Unheard d ((nextReply usual).run.run d).2 := by
  rw [run_nextReply]
  exact ⟨rfl, rfl, fun _ _ => rfl⟩

theorem stays_hear (hq : Quiet P) (text : String) : Stays P (hear [.service text]) :=
  hq.stays fun _ => unheard_service [text] rfl rfl

section

variable (hq : Quiet P) (hset : ∀ new, Stays P (setState r new))
include hq hset

theorem stays_hold : Stays P (hold r) :=
  (hq.stays fun _ => ⟨rfl, rfl, fun _ _ => rfl⟩).bind fun _ => hset .locked

theorem stays_drop : Stays P (drop r) :=
  (hq.stays fun _ => ⟨rfl, rfl, fun _ _ => rfl⟩).bind fun _ => hset .unlocked

theorem stays_tryAcquire : Stays P (tryAcquire r) := by
  unfold tryAcquire
  refine (hq.stays unheard_ensureAlive).bind fun _ => ?_
  refine (hq.stays fun _ => ⟨rfl, rfl, fun _ _ => rfl⟩).bind fun d => ?_
  cases d.manager.flavour with
  | none => exact (hset .locked).bind fun _ => stays_pure true
  | process isPatient =>
    have hgrant : Stays P (register fun g => g.grant r) :=
      hq.stays fun _ => ⟨rfl, rfl, fun _ _ => rfl⟩
    refine (stays_throw_bind _ _).ite (Stays.ite ?_ ((stays_pure false).ite (stays_throw _)))
    exact hgrant.bind fun _ => (stays_hold hq hset).bind fun _ => stays_pure true
  | service s =>
    refine (stays_throw_bind _ _).ite ?_
    refine (hq.stays (unheard_nextReply _)).bind fun reply => ?_
    cases reply with
    | granted =>
      exact (stays_hear hq _).bind fun _ => (stays_hold hq hset).bind fun _ => stays_pure true
    | declined => exact (stays_hear hq _).bind fun _ => stays_throw _
    | failed e => exact (stays_hear hq _).bind fun _ => stays_throw _

theorem stays_acquire : Stays P (acquire r) := by
  unfold acquire
  refine (stays_tryAcquire hq hset).bind fun isTaken => ?_
  exact (stays_throw _).ite (stays_pure ())

theorem stays_release : Stays P (release r) := by
  unfold release
  refine (hq.stays unheard_ensureAlive).bind fun _ => ?_
  refine (hq.stays fun _ => ⟨rfl, rfl, fun _ _ => rfl⟩).bind fun d => ?_
  dsimp only
  cases d.manager.flavour with
  | none => exact hset .unlocked
  | process isPatient =>
    refine (stays_throw_bind _ _).ite ?_
    exact (hq.stays fun _ => ⟨rfl, rfl, fun _ _ => rfl⟩).bind fun _ => stays_drop hq hset
  | service s =>
    refine (stays_throw_bind _ _).ite ((stays_hear hq _).bind fun _ => ?_)
    refine (hq.stays (unheard_nextReply _)).bind fun reply => ?_
    cases reply with
    | granted => exact stays_drop hq hset
    | declined => exact stays_drop hq hset
    | failed e => exact stays_throw e

end

/-- The end of a manager all of whose locks have been given back. -/
theorem unheard_closed (h : d.manager.states = []) : Unheard d d.closed := by
  unfold closed
  cases d.manager.flavour with
  | none => exact ⟨rfl, rfl, fun _ _ => rfl⟩
  | process isPatient => exact ⟨rfl, rfl, fun _ _ => rfl⟩
  | service s =>
    have hheard : Unheard d { d with log := d.log ++ [.service "stop", .service "close"] } :=
      unheard_service ["stop", "close"] rfl rfl
    exact ⟨h.symm, rfl, hheard.heard⟩

/-- What setting the states of the locks keeps that a use is about, the use keeps. -/
theorem Quiet.used (hq : Quiet P) (hd : P d) (u : Use)
    (hset : ∀ r ∈ u.locks d, ∀ new, Stays P (setState r new)) : P (d.used u) := by
  refine u.keeps hd (fun r hr => stays_acquire hq (hset r hr))
    (fun r hr => stays_release hq (hset r hr)) ?_
    fun d' hd' hstates _ => hq d' _ (unheard_closed hstates) hd'
  rintro c rfl
  exact keeps_hearConnection hd fun r hr => hset r hr c.lockState

/-! ### One change -/

theorem news_transitions (m : Manager) (r x : Requirement) (new : LockState) (l : String) :
    (transitions m r new).filterMap (Heard.news? l x) =
      if r = x ∧ m.states.state r ≠ new then
        List.replicate (m.listeners.count l) (m.states.state r, new)
      else [] := by
  unfold transitions
  dsimp only
  by_cases hsame : m.states.state r = new
  · rw [if_pos hsame, if_neg fun h => h.2 hsame]
    rfl
  rw [if_neg hsame, List.filterMap_map]
  by_cases hx : r = x
  · rw [if_pos ⟨hx, hsame⟩]
    subst hx
    induction m.listeners with
    | nil => rfl
    | cons l' rest ih =>
      by_cases hl : l' = l
      · simp [Heard.news?, hl, List.replicate_succ, ih]
      · simp [Heard.news?, hl, ih]
  · rw [if_neg fun h => hx h.1]
    refine List.filterMap_eq_nil_iff.2 fun l' _ => ?_
    exact if_neg fun h => hx h.2

theorem heardBy_setState (l : String) (r x : Requirement) (new : LockState) (d : Desk) :
    ((setState r new).run.run d).2.heardBy l x = d.heardBy l x ++
      if r = x ∧ d.state r ≠ new then
        List.replicate (d.manager.listeners.count l) (d.state r, new)
      else [] := by
  rw [run_setState]
  exact List.filterMap_append.trans
    (congrArg (d.heardBy l x ++ ·) (news_transitions d.manager r x new l))

/-! ### Histories of all locks -/

/-- What a listener heard of each lock leads up to the state that it has; what has no state is
unlocked. -/
structure Faithful (l : String) (d : Desk) : Prop where
  listens : d.manager.listeners.count l = 1
  leads : ∀ r, Leads .unlocked (d.heardBy l r) (d.state r)
  present : ∀ r, (d.manager.states.lookup r).isSome = true ↔ d.state r ≠ .unlocked

theorem quiet_faithful (l : String) : Quiet (Faithful l) := by
  intro d d' h hd
  have hstate : ∀ r, d'.state r = d.state r := fun r => by
    unfold state
    rw [h.states]
  refine ⟨?_, fun r => ?_, fun r => ?_⟩
  · rw [h.listeners]
    exact hd.listens
  · rw [h.heard, hstate]
    exact hd.leads r
  · rw [h.states, hstate]
    exact hd.present r

theorem stays_faithful_setState (l : String) (r : Requirement) (new : LockState) :
    Stays (Faithful l) (setState r new) := by
  intro d hd
  have hself : ((setState r new).run.run d).2.state r = new := States.state_update_self r new _
  have hother : ∀ x, x ≠ r → ((setState r new).run.run d).2.state x = d.state x :=
    fun x hx => States.state_update_of_ne hx new _
  refine ⟨hd.listens, fun x => ?_, fun x => ?_⟩
  · rw [heardBy_setState]
    by_cases hx : x = r
    · subst hx
      rw [hself]
      -- A state that is set again isn't heard of; otherwise the one change goes on from the last.
      by_cases hsame : d.state x = new
      · rw [if_neg fun h => h.2 hsame, List.append_nil, ← hsame]
        exact hd.leads x
      · rw [if_pos ⟨rfl, hsame⟩, hd.listens]
        exact (hd.leads x).append ⟨rfl, hsame, rfl⟩
    · rw [if_neg fun h => hx h.1.symm, List.append_nil, hother x hx]
      exact hd.leads x
  · have hpresent := States.isSome_lookup_update r x new d.manager.states
    refine hpresent.trans ?_
    by_cases hx : x = r
    · subst hx
      rw [if_pos rfl, hself]
    · rw [if_neg hx, hother x hx]
      exact hd.present x

end Desk

/-! ### Whole lives -/

/-- Something that happens while a manager is there. -/
inductive Moment where
  | use (u : Use)
  /-- The state of a lock is set. -/
  | set (r : Requirement) (new : LockState)
  /-- A request that waited for a lock gets it. -/
  | waited (r : Requirement)
  /-- Other managers change the registry that this one works on. -/
  | elsewhere (g : Registry)
  | listen (name : String)
  | unlisten (name : String)

namespace Moment

/-- What a manager does at a moment. -/
def step : Moment → AtDesk Unit
  | use u => u.step
  | set r new => Lab.LockStep.setAlive r new
  | waited r => Desk.holdWaited r
  | elsewhere g => Desk.register fun _ => g
  | listen name => Desk.listen name
  | unlisten name => Desk.unlisten name

/-- The locks that a moment may be about. -/
def locks (d : Desk) : Moment → List Requirement
  | use u => u.locks d
  | set r _ => [r]
  | waited r => [r]
  | _ => []

end Moment

namespace Desk

variable {P : Desk → Prop} {d : Desk} {l : String}

/-- The desk after a moment. -/
def past (d : Desk) (m : Moment) : Desk := (m.step.run.run d).2

/-- A manager with its first listeners. -/
def opened (flavour : Flavour) (listeners : List String) (registry : Registry)
    (replies : List Reply) : Desk :=
  { registry, manager := { flavour, listeners }, replies }

/-- What setting the states of the locks keeps that a moment is about, and listeners that come and
go, the moment keeps. -/
theorem Quiet.past (hq : Quiet P) (hd : P d) (m : Moment)
    (hset : ∀ r ∈ m.locks d, ∀ new, Stays P (setState r new))
    (hlisten : ∀ name, Stays P (listen name))
    (hunlisten : ∀ name, m = .unlisten name → Stays P (unlisten name)) : P (d.past m) := by
  cases m with
  | use u => exact hq.used hd u hset
  | set r new =>
    have hstays : Stays P (Lab.LockStep.setAlive r new) :=
      (hq.stays unheard_ensureAlive).bind fun _ => hset r List.mem_cons_self new
    exact hstays d hd
  | waited r =>
    have hstays : Stays P (holdWaited r) :=
      (hq.stays unheard_ensureAlive).bind fun _ => stays_hold hq (hset r List.mem_cons_self)
    exact hstays d hd
  | elsewhere g => exact hq d _ ⟨rfl, rfl, fun _ _ => rfl⟩ hd
  | listen name => exact hlisten name d hd
  | unlisten name => exact hunlisten name rfl d hd

/-- Other listeners may come and go. -/
theorem stays_faithful_update {f : Manager → Manager} (hstates : ∀ m, (f m).states = m.states)
    (hcount : ∀ m, m.listeners.count l = 1 → (f m).listeners.count l = 1) :
    Stays (Faithful l) (update f) := by
  intro d hd
  have hnew : ((update f).run.run d).2.manager.states = d.manager.states := hstates d.manager
  have hstate : ∀ r, ((update f).run.run d).2.state r = d.state r := fun r => by
    unfold state
    rw [hnew]
  refine ⟨hcount d.manager hd.listens, fun r => ?_, fun r => ?_⟩
  · rw [hstate]
    exact hd.leads r
  · rw [hnew, hstate]
    exact hd.present r

theorem stays_faithful_listen (l name : String) : Stays (Faithful l) (listen name) := by
  refine ((quiet_faithful l).stays unheard_ensureAlive).bind fun _ => ?_
  refine stays_faithful_update (fun m => ?_) fun m hcount => ?_
  · split <;> rfl
  · split
    next => exact hcount
    next hnew =>
      have hmem : l ∈ m.listeners := List.count_pos_iff.1 (by omega)
      have hne : name ≠ l := by
        rintro rfl
        exact hnew (List.contains_iff_mem.2 hmem)
      simp [hcount, hne]

theorem stays_faithful_unlisten {name : String} (hname : name ≠ l) :
    Stays (Faithful l) (unlisten name) := by
  refine ((quiet_faithful l).stays unheard_ensureAlive).bind fun _ => ?_
  refine ((quiet_faithful l).stays fun _ => ⟨rfl, rfl, fun _ _ => rfl⟩).bind fun d => ?_
  have hkept : (l != name) = true := bne_iff_ne.2 hname.symm
  split
  · refine stays_faithful_update (fun _ => rfl) fun m hcount => ?_
    exact (List.count_filter (p := fun x => x != name) hkept).trans hcount
  · exact stays_throw _

/-- A lock is left alone by moments that aren't about it. -/
theorem frame_past (m : Moment) {r : Requirement} (hr : r ∉ m.locks d) :
    (d.past m).state r = d.state r ∧ ∀ l, (d.past m).heardBy l r = d.heardBy l r := by
  let IsSame (d' : Desk) : Prop := d'.state r = d.state r ∧ ∀ l, d'.heardBy l r = d.heardBy l r
  have hquiet : Quiet IsSame := by
    rintro d₁ d₂ h ⟨hstate, hheard⟩
    refine ⟨Eq.trans ?_ hstate, fun l => (h.heard l r).trans (hheard l)⟩
    unfold state
    rw [h.states]
  have hupdate : ∀ f : Manager → Manager, (∀ m, (f m).states = m.states) →
      Stays IsSame (update f) := by
    rintro f hstates d₁ ⟨hstate, hheard⟩
    refine ⟨Eq.trans ?_ hstate, hheard⟩
    exact congrArg (States.state r) (hstates d₁.manager)
  refine hquiet.past ⟨rfl, fun _ => rfl⟩ m ?_ ?_ ?_
  · rintro x hx new d₁ ⟨hstate, hheard⟩
    have hne : x ≠ r := fun h => hr (h ▸ hx)
    refine ⟨(States.state_update_of_ne hne.symm new _).trans hstate, fun l => ?_⟩
    rw [heardBy_setState, if_neg fun h => hne h.1, List.append_nil]
    exact hheard l
  · intro name
    refine (hquiet.stays unheard_ensureAlive).bind fun _ => hupdate _ fun m => ?_
    split <;> rfl
  · rintro name -
    refine (hquiet.stays unheard_ensureAlive).bind fun _ => ?_
    refine (hquiet.stays fun _ => ⟨rfl, rfl, fun _ _ => rfl⟩).bind fun _ => ?_
    split
    · exact hupdate _ fun _ => rfl
    · exact stays_throw _

theorem faithful_opened {listeners : List String} (flavour : Flavour) (registry : Registry)
    (replies : List Reply) (hlisteners : listeners.Nodup) (hl : l ∈ listeners) :
    Faithful l (opened flavour listeners registry replies) where
  listens := List.count_eq_one_of_mem hlisteners hl
  leads := fun _ => rfl
  present := fun _ => by simp [opened, state, States.state]

theorem faithful_run {ms : List Moment} (hd : Faithful l d) (hms : .unlisten l ∉ ms) :
    Faithful l (ms.foldl past d) := by
  induction ms generalizing d with
  | nil => exact hd
  | cons m rest ih =>
    rw [List.mem_cons, not_or] at hms
    obtain ⟨hm, hrest⟩ := hms
    refine ih ?_ hrest
    refine (quiet_faithful l).past hd m (fun r _ new => stays_faithful_setState l r new)
      (stays_faithful_listen l) ?_
    rintro name rfl
    exact stays_faithful_unlisten fun h => hm (h ▸ rfl)

/-- **What listeners hear of locks is a faithful history.** The changes of a lock that were heard of
follow one another from the unlocked lock to the state that is told to whoever asks, and the lock is
among those that have a state unless it is unlocked. Locks that a moment isn't about stay as they
are, and nothing is heard of them. -/
theorem faithful_history (flavour : Flavour) (listeners : List String) (registry : Registry)
    (replies : List Reply) (hlisteners : listeners.Nodup) (hl : l ∈ listeners)
    (ms : List Moment) (hms : .unlisten l ∉ ms) :
    let d := ms.foldl past (opened flavour listeners registry replies)
    (∀ r, Leads .unlocked (d.heardBy l r) (d.state r) ∧
      (d.manager.isDisposed = false → ((stateOf r).run.run d).1 = .ok (d.state r)) ∧
      ((d.manager.states.lookup r).isSome = true ↔ d.state r ≠ .unlocked)) ∧
    ∀ m r, r ∉ m.locks d →
      (d.past m).state r = d.state r ∧ ∀ l', (d.past m).heardBy l' r = d.heardBy l' r := by
  intro d
  have hfaithful : Faithful l d :=
    faithful_run (faithful_opened flavour registry replies hlisteners hl) hms
  refine ⟨fun r => ⟨hfaithful.leads r, fun halive => ?_, hfaithful.present r⟩,
    fun m r => frame_past m⟩
  exact run_stateOf_of_isAlive halive r

/-- A lock that is held while the connection to the service is lost and comes back. -/
theorem faithful_history_lost :
    let r : Requirement := ⟨.exclusive, "d.t"⟩
    let ms : List Moment :=
      [.use (.acquire r), .use (.report .lost), .use (.report .connected), .use (.release r)]
    let d := ms.foldl past (opened (.service ⟨"/locks/", []⟩) ["l"] {} [])
    d.heardBy "l" r =
        [(.unlocked, .locked), (.locked, .invalid), (.invalid, .locked), (.locked, .unlocked)] ∧
      Leads .unlocked (d.heardBy "l" r) .unlocked := by
  intro r ms d
  have h := faithful_history (.service ⟨"/locks/", []⟩) ["l"] {} [] (List.nodup_singleton "l")
    List.mem_cons_self ms (by simp [ms])
  exact ⟨rfl, (h.1 r).1⟩

end Desk

end CatalogReplication.Lock
