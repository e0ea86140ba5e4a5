import CatalogReplication.Proofs.Lock.Progress

/-!
# Holds inside of holds

While a worker is inside a block, it may hold further locks for the time of another block, and so
on. A company is a crew whose workers remember the blocks that they are within (`Frame`), and what
their last hold came to. The steps are those of the crew, and besides those down into a block and up
again (`Worker.Turns`); inside a block nothing else is begun than another hold. What a step does is
told by deeds: locks that are taken and given back, and what ends an attempt or a block.

The locks of the blocks that a worker is within stay held while it works inside of them: they stand
in the list of what is held before those of the hold at hand (`Worker.Stacked`). From this every
reachable company has an exact registry (`Company.Reachable.exact`), and managers that know the
state of exactly the locks that they hold (`Company.Reachable.steady`).
-/

namespace CatalogReplication.Lock

/-! ### Deeds -/

/-- What a worker does on its way through a hold. -/
inductive Deed where
  | took (r : Requirement)
  /-- A lock can't be taken. -/
  | failed (r : Requirement) (f : Failure)
  /-- The block comes to its end, or fails. -/
  | ended (x : Except Failure Unit)
  | gaveBack (r : Requirement)
  /-- A lock can't be given back. -/
  | stuck (r : Requirement) (f : Failure)

/-- What a hold comes to after a deed: what fails takes the place of what was to come before. -/
def Deed.outcome (x : Except Failure Unit) : Deed → Except Failure Unit
  | took _ => x
  | failed _ f => .error f
  | ended y => y
  | gaveBack _ => x
  | stuck _ f => .error f

namespace Worker

/-- The deeds of a kind of step, in a registry and by a worker before it. -/
inductive Does (g : Registry) : Act → Worker → List Deed → Prop where
  | take {m : Manager} {e : Errand} {taken rest : List Requirement} {r : Requirement} :
      Does g .take ⟨m, .taking e taken (r :: rest)⟩ [.took r]
  | wake {m : Manager} {e : Errand} {taken rest : List Requirement} {r : Requirement}
      {isNotified : Bool} : Does g .wake ⟨m, .waiting e taken r rest isNotified⟩ [.took r]
  | refuse {m : Manager} {e : Errand} {taken rest : List Requirement} {r : Requirement}
      {f : Failure} (h : (Desk.on (Desk.tryAcquire r) g m).1 = .error f) :
      Does g .refuse ⟨m, .taking e taken (r :: rest)⟩ [.failed r f]
  | giveUp {m : Manager} {e : Errand} {taken rest : List Requirement} {r : Requirement}
      {isNotified : Bool} :
      Does g .giveUp ⟨m, .waiting e taken r rest isNotified⟩ [.failed r (.lock (.timedOut r))]
  | finish {m : Manager} {e : Errand} {taken : List Requirement} (x : Except Failure Unit) :
      Does g .finish ⟨m, .inside e taken⟩ [.ended x]
  | giveBack {m : Manager} {rest : List Requirement} {isLast : Bool} {r : Requirement} :
      Does g .giveBack ⟨m, .leaving (r :: rest) isLast⟩ [.gaveBack r]
  | abort {m : Manager} {rest : List Requirement} {isLast : Bool} {r : Requirement} {f : Failure}
      (h : (Desk.on (Desk.release r) g m).1 = .error f) :
      Does g .abort ⟨m, .leaving (r :: rest) isLast⟩ [.stuck r f]
  | silent {w : Worker} {a : Act} (ha : a ∈ [.begin, .block, .doze, .enter, .leave, .dispose]) :
      Does g a w []

end Worker

/-! ### Blocks that a worker is within -/

/-- Errands that hold locks for the time of a block. -/
def Errand.IsBlock : Errand → Prop
  | task _ => True
  | hold _ => True
  | _ => False

theorem Errand.IsBlock.start_eq {e : Errand} (h : e.IsBlock) (m : Manager) :
    e.start m = .taking e [] e.locks := by
  cases e <;> first | rfl | exact h.elim

theorem Errand.IsBlock.entered_eq {e : Errand} (h : e.IsBlock) (taken : List Requirement) :
    e.entered taken = .inside e taken := by
  cases e <;> first | rfl | exact h.elim

/-- A block that a worker is within, with the locks that were taken for it. -/
abbrev Frame := Errand × List Requirement

/-- The locks of the blocks around a worker, those of the outermost first. -/
def Frame.kept : List Frame → List Requirement
  | [] => []
  | f :: frames => Frame.kept frames ++ f.2

theorem Frame.kept_append (frames frames' : List Frame) :
    Frame.kept (frames ++ frames') = Frame.kept frames' ++ Frame.kept frames := by
  induction frames with
  | nil => exact (List.append_nil _).symm
  | cons f frames ih =>
    show Frame.kept (frames ++ frames') ++ f.2 = _
    rw [ih, List.append_assoc]
    rfl

/-- What a worker may begin within some blocks. -/
def MayWithin (frames : List Frame) (e : Errand) : Prop := frames = [] ∨ e.IsBlock

namespace Place

/-- Whether a place is one of a hold, or of rest. -/
def IsOfBlock : Place → Prop
  | resting => True
  | taking e _ _ => e.IsBlock
  | waiting e _ _ _ _ => e.IsBlock
  | inside e _ => e.IsBlock
  | leaving _ isLast => isLast = false

/-- Whether a place is one before a hold is left. -/
def IsAtWork : Place → Prop
  | taking e _ _ => e.IsBlock
  | waiting e _ _ _ _ => e.IsBlock
  | inside e _ => e.IsBlock
  | resting => False
  | leaving _ _ => False

end Place

namespace Worker

/-- What a worker can do that is within some blocks: steps of its hold at hand, down into the block
for another hold and up again; and listeners may come and go. -/
inductive Turns : Registry → List Frame → Worker → List Deed → Bool → Registry → List Frame →
    Worker → Prop where
  | move {g g' : Registry} {frames : List Frame} {w w' : Worker} {a : Act} {isLoud : Bool}
      {deeds : List Deed} (h : Moves (MayWithin frames) a g w isLoud g' w')
      (hd : Does g a w deeds) : Turns g frames w deeds isLoud g' frames w'
  | descend {g : Registry} {frames : List Frame} {m : Manager} {e : Errand}
      {taken : List Requirement} (he : e.IsBlock) :
      Turns g frames ⟨m, .inside e taken⟩ [] false g ((e, taken) :: frames) ⟨m, .resting⟩
  | ascend {g : Registry} {frames : List Frame} {m : Manager} {e : Errand}
      {taken : List Requirement} :
      Turns g ((e, taken) :: frames) ⟨m, .resting⟩ [] false g frames ⟨m, .inside e taken⟩
  | listen {g : Registry} {frames : List Frame} {m : Manager} {p : Place}
      (listeners : List String) :
      Turns g frames ⟨m, p⟩ [] false g frames ⟨{ m with listeners }, p⟩

/-! ### What is held -/

/-- A worker within some blocks, beside locks that it held before: it holds these, the locks of the
blocks, and those of the hold at hand, in this order. -/
structure Stacked (base : List Requirement) (frames : List Frame) (w : Worker) : Prop where
  alive : w.manager.isDisposed = false
  held : w.manager.held = base ++ Frame.kept frames ++ w.place.kept
  frames : ∀ f ∈ frames, f.1.IsBlock ∧ f.2 = f.1.locks
  place : w.place.IsOfBlock

theorem Stacked.notified {base : List Requirement} {frames : List Frame} {w : Worker}
    (h : w.Stacked base frames) : w.notified.Stacked base frames := by
  obtain ⟨m, p⟩ := w
  cases p <;> exact ⟨h.alive, h.held, h.frames, h.place⟩

/-- Giving back the lock that was taken last leaves the others. -/
theorem filter_ne_concat {held : List Requirement} {r : Requirement} (h : (held ++ [r]).Nodup) :
    (held ++ [r]).filter (fun x => !(x == r)) = held := by
  have hr : r ∉ held := fun hmem =>
    List.disjoint_of_nodup_append h hmem (List.mem_singleton_self r)
  have hheld : held.filter (fun x => !(x == r)) = held := by
    refine List.filter_eq_self.2 fun x hx => ?_
    have hne : x ≠ r := fun heq => hr (heq ▸ hx)
    simpa using hne
  rw [List.filter_append, hheld]
  simp

section

variable {g g' : Registry} {base : List Requirement} {frames outer : List Frame} {w w' : Worker}
variable {a : Act} {isLoud : Bool} {deeds : List Deed} {frames' : List Frame}

/-- A lock of the hold at hand can be given back. -/
theorem Stacked.release_ok {m : Manager} {rest : List Requirement} {isLast : Bool}
    {r : Requirement} (hw : Sound ⟨m, .leaving (r :: rest) isLast⟩)
    (h : Stacked base frames ⟨m, .leaving (r :: rest) isLast⟩) :
    Desk.on (Desk.release r) g m = (.ok (), g.giveBack r, m.drop r) := by
  obtain ⟨isPatient, hf⟩ := hw.flavour
  have hr : m.held.contains r = true := by
    rw [h.held, List.contains_iff_mem]
    exact List.mem_append_right _ (List.mem_reverse.2 List.mem_cons_self)
  have halive : m.isDisposed = false := h.alive
  rw [Desk.on_release r g hf, if_neg (by simp [halive]), if_pos hr]

/-- A step of a hold. -/
theorem Moves.stacked (h : Moves (MayWithin (frames ++ outer)) a g w isLoud g' w') (hw : w.Sound)
    (hs : w.Stacked base frames) (hbusy : frames ≠ [] ∨ w.place ≠ .resting) :
    w'.Stacked base frames := by
  obtain ⟨isPatient, hf⟩ := hw.flavour
  have hs' := hs
  obtain ⟨halive, hheld, hframes, hplace⟩ := hs
  cases h with
  | @begin _ m e hmay _ =>
    have hne : frames ≠ [] := hbusy.resolve_right (absurd rfl)
    have he : e.IsBlock := hmay.resolve_left fun hnil => hne (List.append_eq_nil_iff.1 hnil).1
    rw [he.start_eq m]
    exact ⟨halive, hheld, hframes, he⟩
  | take h =>
    obtain ⟨-, -, -, rfl⟩ := Desk.tryAcquire_taken hf h
    refine ⟨halive, ?_, hframes, hplace⟩
    exact (congrArg (· ++ [_]) hheld).trans (List.append_assoc _ _ _)
  | refuse h hf' =>
    obtain ⟨-, rfl⟩ := Desk.tryAcquire_failed hf h
    exact ⟨halive, hheld.trans (by simp [Place.kept]), hframes, rfl⟩
  | block h hx =>
    obtain ⟨-, -, -, rfl⟩ := Desk.tryAcquire_busy hf h hx
    exact ⟨halive, hheld, hframes, hplace⟩
  | wake hgrants hawake h =>
    obtain ⟨-, rfl⟩ := Desk.holdWaited_ended h
    refine ⟨halive, ?_, hframes, hplace⟩
    exact (congrArg (· ++ [_]) hheld).trans (List.append_assoc _ _ _)
  | doze hgrants => exact ⟨halive, hheld, hframes, hplace⟩
  | giveUp hgrants himpatient => exact ⟨halive, hheld.trans (by simp [Place.kept]), hframes, rfl⟩
  | @enter _ m e taken =>
    rw [Errand.IsBlock.entered_eq hplace taken]
    exact ⟨halive, hheld, hframes, hplace⟩
  | finish => exact ⟨halive, hheld.trans (by simp [Place.kept]), hframes, rfl⟩
  | @giveBack _ _ m _ rest isLast r h =>
    rw [hs'.release_ok hw] at h
    cases h
    refine ⟨halive, ?_, hframes, hplace⟩
    have hconcat : m.held = base ++ Frame.kept frames ++ rest.reverse ++ [r] := by
      rw [hheld, Place.kept, List.reverse_cons, ← List.append_assoc]
    have hnodup := hw.nodup
    show m.held.filter _ = _
    rw [hconcat] at hnodup ⊢
    exact filter_ne_concat hnodup
  | abort h =>
    rw [hs'.release_ok hw] at h
    cases h
  | leave => exact ⟨halive, hheld, hframes, trivial⟩
  | dispose => cases hplace

/-- A turn of a worker that is busy with a hold. -/
theorem Turns.stacked (h : Turns g (frames ++ outer) w deeds isLoud g' frames' w') (hw : w.Sound)
    (hs : w.Stacked base frames) (hbusy : frames ≠ [] ∨ w.place ≠ .resting) :
    ∃ inner, frames' = inner ++ outer ∧ w'.Stacked base inner := by
  generalize hall : frames ++ outer = all at h
  cases h with
  | move h hd =>
    subst hall
    exact ⟨frames, rfl, h.stacked hw hs hbusy⟩
  | @descend _ m e taken he =>
    refine ⟨(e, taken) :: frames, by rw [List.cons_append, hall], hs.alive, ?_, ?_, trivial⟩
    · rw [Frame.kept, ← List.append_assoc]
      exact hs.held.trans (List.append_nil _).symm
    · intro f hf
      rcases List.mem_cons.1 hf with rfl | hf
      · exact ⟨he, hw.place.1⟩
      · exact hs.frames f hf
  | @ascend _ m e taken =>
    have hne : frames ≠ [] := hbusy.resolve_right (absurd rfl)
    obtain ⟨f, inner, rfl⟩ := List.exists_cons_of_ne_nil hne
    rw [List.cons_append] at hall
    obtain ⟨rfl, rfl⟩ := List.cons.inj hall
    refine ⟨inner, rfl, hs.alive, ?_, fun f hf => hs.frames f (List.mem_cons_of_mem _ hf), ?_⟩
    · refine hs.held.trans ?_
      rw [Frame.kept, ← List.append_assoc]
      exact List.append_nil _
    · exact (hs.frames _ List.mem_cons_self).1
  | listen listeners => exact ⟨frames, hall.symm, hs.alive, hs.held, hs.frames, hs.place⟩

end

/-! ### States -/

/-- A manager that knows the state of exactly the locks that it holds: they are locked. -/
def IsTidy (m : Manager) : Prop := m.states = m.held.map fun r => (r, .locked)

theorem isTidy_hold {m : Manager} {r : Requirement} (h : IsTidy m) (hr : r ∉ m.held) :
    IsTidy (m.hold r) := by
  unfold IsTidy at h ⊢
  have hkeys : r ∉ Assoc.keys m.states := by
    rw [h, Assoc.keys, List.map_map]
    simpa using hr
  show Assoc.put r .locked m.states = (m.held ++ [r]).map _
  rw [Assoc.put_of_not_mem hkeys, h, List.map_append]
  rfl

theorem isTidy_drop {m : Manager} (h : IsTidy m) (r : Requirement) : IsTidy (m.drop r) := by
  unfold IsTidy at h ⊢
  show Assoc.erase r m.states = (m.held.filter _).map _
  rw [h, Assoc.erase, List.filter_map]
  rfl

section

variable {g g' : Registry} {frames frames' : List Frame} {w w' : Worker} {a : Act} {isLoud : Bool}
variable {deeds : List Deed} {may : Errand → Prop}

theorem Moves.isTidy (h : Moves may a g w isLoud g' w') (hw : w.Sound) (ht : IsTidy w.manager) :
    IsTidy w'.manager := by
  obtain ⟨isPatient, hf⟩ := hw.flavour
  cases h with
  | take h =>
    obtain ⟨hnew, -, -, rfl⟩ := Desk.tryAcquire_taken hf h
    exact isTidy_hold ht hnew
  | refuse h hf' =>
    obtain ⟨-, rfl⟩ := Desk.tryAcquire_failed hf h
    exact ht
  | block h hx =>
    obtain ⟨-, -, -, rfl⟩ := Desk.tryAcquire_busy hf h hx
    exact ht
  | wake hgrants hawake h =>
    obtain ⟨-, rfl⟩ := Desk.holdWaited_ended h
    exact isTidy_hold ht hw.place.2.2
  | giveBack h =>
    obtain ⟨-, -, rfl⟩ := Desk.release_ended hf h
    exact isTidy_drop ht _
  | abort h =>
    obtain ⟨-, rfl⟩ := Desk.release_failed hf h
    exact ht
  | begin hmay halive => exact ht
  | doze hgrants => exact ht
  | giveUp hgrants himpatient => exact ht
  | enter => exact ht
  | finish => exact ht
  | leave => exact ht
  | dispose => exact ht

/-! ### What holds of every worker -/

/-- A worker as its turns leave it. -/
structure Steady (frames : List Frame) (w : Worker) : Prop where
  sound : w.Sound
  tidy : IsTidy w.manager
  stacked : frames ≠ [] ∨ w.place.IsAtWork → ∃ base, w.Stacked base frames

theorem Steady.notified (h : w.Steady frames) : w.notified.Steady frames := by
  refine ⟨h.sound.notified, h.tidy, fun hwork => ?_⟩
  have hbefore : frames ≠ [] ∨ w.place.IsAtWork := by
    obtain ⟨m, p⟩ := w
    cases p <;> exact hwork
  obtain ⟨base, hs⟩ := h.stacked hbefore
  exact ⟨base, hs.notified⟩

/-- A worker that comes to be at work without being within a block has just begun. -/
theorem Moves.stacked_of_begun (h : Moves may a g w isLoud g' w') (hw : w.Sound)
    (hbefore : ¬ w.place.IsAtWork) (hafter : w'.place.IsAtWork) :
    w'.Stacked w'.manager.held [] := by
  obtain ⟨isPatient, hf⟩ := hw.flavour
  cases h with
  | @begin _ m e hmay halive =>
    have he : e.IsBlock := by cases e <;> trivial
    have hplace : (Place.taking e [] e.locks).kept = [] := rfl
    rw [he.start_eq m]
    exact ⟨halive, by simp [Frame.kept, hplace], nofun, he⟩
  | take h => exact absurd hafter hbefore
  | block h hx => exact absurd hafter hbefore
  | wake hgrants hawake h => exact absurd hafter hbefore
  | doze hgrants => exact absurd hafter hbefore
  | @enter _ m e taken => cases e <;> first | exact absurd trivial hbefore | exact hafter.elim
  | refuse h hf' => exact hafter.elim
  | giveUp hgrants himpatient => exact hafter.elim
  | finish => exact hafter.elim
  | giveBack h => exact hafter.elim
  | abort h => exact hafter.elim
  | leave => exact hafter.elim
  | dispose => exact hafter.elim

theorem Turns.sound (h : Turns g frames w deeds isLoud g' frames' w') (hs : w.Steady frames) :
    w'.Sound := by
  cases h with
  | move h hd => exact h.sound hs.sound
  | descend he => exact ⟨hs.sound.flavour, hs.sound.nodup, trivial⟩
  | @ascend _ m e taken =>
    obtain ⟨base, hstacked⟩ := hs.stacked (.inl (List.cons_ne_nil _ _))
    refine ⟨hs.sound.flavour, hs.sound.nodup, (hstacked.frames _ List.mem_cons_self).2, ?_⟩
    show taken ⊆ m.held
    rw [hstacked.held, Frame.kept]
    intro r hr
    simp [hr]
  | listen listeners => exact ⟨hs.sound.flavour, hs.sound.nodup, hs.sound.place⟩

theorem Turns.steady (h : Turns g frames w deeds isLoud g' frames' w') (hs : w.Steady frames) :
    w'.Steady frames' := by
  refine ⟨h.sound hs, ?_, fun hafter => ?_⟩
  · cases h with
    | move h hd => exact h.isTidy hs.sound hs.tidy
    | descend he => exact hs.tidy
    | ascend => exact hs.tidy
    | listen listeners => exact hs.tidy
  · by_cases hbefore : frames ≠ [] ∨ w.place.IsAtWork
    · obtain ⟨base, hstacked⟩ := hs.stacked hbefore
      have hbusy : frames ≠ [] ∨ w.place ≠ .resting :=
        hbefore.imp_right fun hwork hplace => by rw [hplace] at hwork; exact hwork
      rw [← List.append_nil frames] at h
      obtain ⟨inner, rfl, hinner⟩ := h.stacked hs.sound hstacked hbusy
      rw [List.append_nil]
      exact ⟨base, hinner⟩
    · rw [not_or, not_not] at hbefore
      obtain ⟨rfl, hrest⟩ := hbefore
      cases h with
      | move h hd =>
        exact ⟨_, h.stacked_of_begun hs.sound hrest (hafter.resolve_left (absurd rfl))⟩
      | descend he => exact absurd he hrest
      | listen listeners => exact absurd (hafter.resolve_left (absurd rfl)) hrest

/-- What a turn does to the registry is what one change of a worker does to it. -/
theorem Turns.change (h : Turns g frames w deeds isLoud g' frames' w') (hw : w.Sound) :
    Change g w g' w' := by
  cases h with
  | move h hd => exact h.change hw
  | descend he => exact .none rfl rfl
  | ascend => exact .none rfl rfl
  | listen listeners => exact .none rfl rfl

end

end Worker

/-! ### Companies -/

/-- Workers that share a registry, the blocks that each of them is within, the innermost first, and
what the last hold of each has come to so far. -/
structure Company (ι : Type) where
  crew : Crew ι
  around : ι → List Frame
  outcome : ι → Except Failure Unit

namespace Company

variable {ι : Type} [DecidableEq ι]

/-- A company before it does anything. -/
def fresh (isPatient : ι → Bool) : Company ι where
  crew := .fresh isPatient
  around _ := []
  outcome _ := .ok ()

/-- The company after a turn of a worker. -/
def after (i : ι) (isLoud : Bool) (g : Registry) (frames : List Frame) (w : Worker)
    (deeds : List Deed) (c : Company ι) : Company ι where
  crew := c.crew.after i isLoud g w
  around := Function.update c.around i frames
  outcome := Function.update c.outcome i (deeds.foldl Deed.outcome (c.outcome i))

/-- A turn of one of the workers, with its deeds. -/
inductive Step : ι → List Deed → Company ι → Company ι → Prop where
  | turn {c : Company ι} {i : ι} {deeds : List Deed} {isLoud : Bool} {g : Registry}
      {frames : List Frame} {w : Worker}
      (h : Worker.Turns c.crew.registry (c.around i) (c.crew.worker i) deeds isLoud g frames w) :
      Step i deeds c (c.after i isLoud g frames w deeds)

/-- What a company that begins fresh comes to. -/
inductive Reachable (isPatient : ι → Bool) : Company ι → Prop where
  | fresh : Reachable isPatient (fresh isPatient)
  | step {c c' : Company ι} {i : ι} {deeds : List Deed} (h : Reachable isPatient c)
      (hs : Step i deeds c c') : Reachable isPatient c'

variable {isPatient : ι → Bool} {c c' : Company ι} {i j : ι} {deeds : List Deed}

/-- A turn of another worker may notify, and changes nothing else of a worker. -/
theorem Step.other (hs : Step j deeds c c') (hij : i ≠ j) :
    (c'.crew.worker i = c.crew.worker i ∨ c'.crew.worker i = (c.crew.worker i).notified) ∧
      c'.around i = c.around i ∧ c'.outcome i = c.outcome i := by
  obtain ⟨h⟩ := hs
  refine ⟨?_, Function.update_of_ne hij _ _, Function.update_of_ne hij _ _⟩
  show (c.crew.after _ _ _ _).worker i = _ ∨ (c.crew.after _ _ _ _).worker i = _
  rw [Crew.worker_after_of_ne hij]
  split
  · exact .inr rfl
  · exact .inl rfl

theorem Step.steady (hs : Step i deeds c c') (h : ∀ j, (c.crew.worker j).Steady (c.around j)) :
    ∀ j, (c'.crew.worker j).Steady (c'.around j) := by
  intro j
  by_cases hj : j = i
  · subst hj
    obtain ⟨hturn⟩ := hs
    have hsteady := hturn.steady (h j)
    simpa [after] using hsteady
  · obtain ⟨hworker, haround, -⟩ := hs.other hj
    rw [haround]
    rcases hworker with hworker | hworker <;> rw [hworker]
    · exact h j
    · exact (h j).notified

/-- **Every worker is steady**, whatever the others do. -/
theorem Reachable.steady (h : Reachable isPatient c) (i : ι) :
    (c.crew.worker i).Steady (c.around i) := by
  induction h generalizing i with
  | fresh =>
    exact ⟨Crew.sound_fresh isPatient i, rfl, fun hwork => hwork.elim (absurd rfl) False.elim⟩
  | step h hs ih => exact hs.steady ih i

/-- **The registry is always exact**, also with holds inside of holds. -/
theorem Reachable.exact [Fintype ι] (h : Reachable isPatient c) : c.crew.IsExact := by
  induction h with
  | fresh => exact Crew.exact_fresh isPatient
  | step h hs ih =>
    obtain ⟨hturn⟩ := hs
    exact Crew.exact_after ih (hturn.change (h.steady _).sound)

end Company

end CatalogReplication.Lock
