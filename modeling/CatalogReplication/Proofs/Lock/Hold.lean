import CatalogReplication.Proofs.Lock.Nest
import Mathlib.Algebra.BigOperators.Group.Finset.Piecewise

/-!
# Holds restore what they find

A hold takes its locks in their order, runs its block, and gives the locks back in reverse. Among
any other workers, and with any holds inside of its block, it has only two courses (`Course`): a
lock can't be taken, and those before it are given back; or the block ends in some way, and all are
given back. When the hold is over, the manager is as it was before (`Company.hold_restores`).

A hold is followed from its beginning (`Company.During`), through the turns of its own worker and
those of the others. What its worker does within further holds isn't among its deeds: these are
holds that begin in their turn. `Stage` says which deeds belong to the place that its worker has
come to.
-/

namespace CatalogReplication.Lock

/-! ### The way out -/

/-- Why a lock of the process can't be taken. -/
def Refusal (r : Requirement) (f : Failure) : Prop :=
  f = .lock (.alreadyAcquired r) ∨ f = .lock (.timedOut r)

/-- The deeds of a hold on its way out, with some locks still to be given back, and what it comes
to. -/
inductive Exit (locks rest : List Requirement) : List Deed → Except Failure Unit → Prop where
  | failed (done : List Requirement) {before after : List Requirement} {r : Requirement}
      {f : Failure} (hlocks : before ++ r :: after = locks) (hf : Refusal r f)
      (hdone : before.reverse = done ++ rest) :
      Exit locks rest (before.map .took ++ .failed r f :: done.map .gaveBack) (.error f)
  | ended (done : List Requirement) (x : Except Failure Unit)
      (hdone : locks.reverse = done ++ rest) :
      Exit locks rest (locks.map .took ++ .ended x :: done.map .gaveBack) x

theorem Exit.giveBack {locks rest : List Requirement} {r : Requirement} {deeds : List Deed}
    {x : Except Failure Unit} (h : Exit locks (r :: rest) deeds x) :
    Exit locks rest (deeds ++ [.gaveBack r]) x := by
  have hconcat : ∀ done : List Requirement,
      done.map Deed.gaveBack ++ [.gaveBack r] = (done ++ [r]).map .gaveBack := fun done => by
    rw [List.map_append, List.map_singleton]
  cases h with
  | failed done hlocks hf hdone =>
    rw [List.append_assoc, List.cons_append, hconcat]
    exact .failed (done ++ [r]) hlocks hf (hdone.trans (List.append_assoc _ [r] _).symm)
  | ended done x hdone =>
    rw [List.append_assoc, List.cons_append, hconcat]
    exact .ended (done ++ [r]) x (hdone.trans (List.append_assoc _ [r] _).symm)

/-- **The courses of a hold**: its deeds from beginning to end, and what it comes to. -/
inductive Course (locks : List Requirement) : List Deed → Except Failure Unit → Prop where
  /-- A lock can't be taken; what was taken before it is given back in reverse. -/
  | failed {before after : List Requirement} {r : Requirement} {f : Failure}
      (hlocks : before ++ r :: after = locks) (hf : Refusal r f) :
      Course locks (before.map .took ++ .failed r f :: before.reverse.map .gaveBack) (.error f)
  /-- The block comes to its end, or fails, with all locks held; they are given back in reverse. -/
  | ended (x : Except Failure Unit) :
      Course locks (locks.map .took ++ .ended x :: locks.reverse.map .gaveBack) x

theorem Exit.course {locks : List Requirement} {deeds : List Deed} {x : Except Failure Unit}
    (h : Exit locks [] deeds x) : Course locks deeds x := by
  cases h with
  | failed done hlocks hf hdone =>
    rw [List.append_nil] at hdone
    exact hdone ▸ .failed hlocks hf
  | ended done x hdone =>
    rw [List.append_nil] at hdone
    exact hdone ▸ .ended x

/-! ### The stages of a hold -/

/-- The deeds of a hold up to a place of its worker, and what it comes to on its way out. -/
def Stage (e : Errand) (deeds : List Deed) (x : Except Failure Unit) : Place → Prop
  | .taking e' taken _ => e' = e ∧ deeds = taken.map .took
  | .waiting e' taken _ _ _ => e' = e ∧ deeds = taken.map .took
  | .inside e' taken => e' = e ∧ deeds = taken.map .took
  | .leaving rest _ => Exit e.locks rest deeds x
  | .resting => Exit e.locks [] deeds x

theorem Stage.notified {e : Errand} {deeds : List Deed} {x : Except Failure Unit} {p : Place}
    (h : Stage e deeds x p) : Stage e deeds x p.notified := by
  cases p <;> exact h

namespace Worker

section

variable {g g' : Registry} {base : List Requirement} {frames outer frames' : List Frame}
variable {w w' : Worker} {a : Act} {isLoud : Bool} {deeds deeds' : List Deed} {e : Errand}
variable {x : Except Failure Unit} {may : Errand → Prop}

/-- A request that is refused at once is one for a lock that is held. -/
theorem refusal_of_refused {m m' : Manager} {isPatient : Bool} {r : Requirement} {f : Failure}
    (hf : m.flavour = .process isPatient) (halive : m.isDisposed = false)
    (h : Desk.on (Desk.tryAcquire r) g m = (.error f, g', m')) : Refusal r f := by
  rw [Desk.on_tryAcquire r g hf, if_neg (by simp [halive])] at h
  split at h
  · cases h
    exact .inl rfl
  split at h
  · cases h
  split at h <;> cases h
  exact .inr rfl

theorem took_concat (taken : List Requirement) (r : Requirement) :
    taken.map Deed.took ++ [.took r] = (taken ++ [r]).map .took := by
  rw [List.map_append, List.map_singleton]

/-- A step of a hold leads from stage to stage. -/
theorem Moves.stage (h : Moves may a g w isLoud g' w') (hd : Does g a w deeds') (hw : w.Sound)
    (hs : w.Stacked base frames) (hbusy : w.place ≠ .resting) (hstage : Stage e deeds x w.place) :
    Stage e (deeds ++ deeds') (deeds'.foldl Deed.outcome x) w'.place := by
  obtain ⟨isPatient, hf⟩ := hw.flavour
  cases h with
  | begin hmay halive => exact absurd rfl hbusy
  | take h =>
    cases hd with
    | silent ha => simp at ha
    | take =>
      obtain ⟨rfl, rfl⟩ := hstage
      exact ⟨rfl, took_concat _ _⟩
  | refuse h hf' =>
    cases hd with
    | silent ha => simp at ha
    | refuse hfailed =>
      rw [h] at hfailed
      cases hfailed
      obtain ⟨rfl, rfl⟩ := hstage
      exact .failed [] hw.place.1 (refusal_of_refused hf hs.alive h) rfl
  | block h hx =>
    cases hd with
    | silent ha =>
      rw [List.append_nil]
      exact hstage
  | wake hgrants hawake h =>
    cases hd with
    | silent ha => simp at ha
    | wake =>
      obtain ⟨rfl, rfl⟩ := hstage
      exact ⟨rfl, took_concat _ _⟩
  | doze hgrants =>
    cases hd with
    | silent ha =>
      rw [List.append_nil]
      exact hstage
  | giveUp hgrants himpatient =>
    cases hd with
    | silent ha => simp at ha
    | giveUp =>
      obtain ⟨rfl, rfl⟩ := hstage
      exact .failed [] hw.place.1 (.inr rfl) rfl
  | @enter _ m e' taken =>
    cases hd with
    | silent ha =>
      rw [List.append_nil, Errand.IsBlock.entered_eq hs.place taken]
      exact hstage
  | @finish _ m e' taken =>
    cases hd with
    | silent ha => simp at ha
    | finish y =>
      obtain ⟨rfl, rfl⟩ := hstage
      have htaken : taken = e'.locks := hw.place.1
      rw [htaken]
      exact .ended [] y rfl
  | giveBack h =>
    cases hd with
    | silent ha => simp at ha
    | giveBack => exact Exit.giveBack hstage
  | abort h =>
    rw [hs.release_ok hw] at h
    cases h
  | leave =>
    cases hd with
    | silent ha =>
      rw [List.append_nil]
      exact hstage
  | dispose => cases hs.place

/-- A turn of a worker at its hold: to the next stage, or down into the block. -/
theorem Turns.stage (h : Turns g outer w deeds' isLoud g' frames' w') (hw : w.Sound)
    (hs : w.Stacked base []) (hbusy : w.place ≠ .resting) (hstage : Stage e deeds x w.place) :
    frames' = outer ∧ Stage e (deeds ++ deeds') (deeds'.foldl Deed.outcome x) w'.place ∨
      frames' = (e, e.locks) :: outer ∧ deeds ++ deeds' = e.locks.map .took := by
  cases h with
  | move h hd => exact .inl ⟨rfl, h.stage hd hw hs hbusy hstage⟩
  | @descend _ m e' taken he =>
    obtain ⟨rfl, rfl⟩ := hstage
    have htaken : taken = e'.locks := hw.place.1
    rw [htaken, List.append_nil]
    exact .inr ⟨rfl, rfl⟩
  | ascend => exact absurd rfl hbusy
  | listen listeners =>
    rw [List.append_nil]
    exact .inl ⟨rfl, hstage⟩

/-- A turn within the block of a hold: there it stays, or it leads up again into the block. -/
theorem Turns.within {f : Frame}
    (h : Turns g (frames ++ f :: outer) w deeds' isLoud g' frames' w') :
    (∃ inner, frames' = inner ++ f :: outer) ∨
      frames' = outer ∧ w'.place = .inside f.1 f.2 := by
  generalize hall : frames ++ f :: outer = all at h
  cases h with
  | move h hd => exact .inl ⟨frames, hall.symm⟩
  | @descend _ m e taken he => exact .inl ⟨(e, taken) :: frames, by rw [List.cons_append, hall]⟩
  | ascend =>
    cases frames with
    | nil =>
      obtain ⟨rfl, rfl⟩ := List.cons.inj hall
      exact .inr ⟨rfl, rfl⟩
    | cons f' frames =>
      obtain ⟨-, rfl⟩ := List.cons.inj hall
      exact .inl ⟨frames, rfl⟩
  | listen listeners => exact .inl ⟨frames, hall.symm⟩

end

end Worker

/-! ### The time of a hold -/

namespace Company

section

variable {ι : Type}

/-- Whether a hold that a worker has begun in one company is over in another. -/
def IsOver (i : ι) (c c' : Company ι) : Prop :=
  (c'.crew.worker i).place = .resting ∧ c'.around i = c.around i

theorem not_isOver {i : ι} {c c' : Company ι} (h : (c'.crew.worker i).place ≠ .resting) :
    ¬ IsOver i c c' := fun hover => h hover.1

/-- Where a hold stands. -/
def Stands (i : ι) (e : Errand) (c : Company ι) (deeds : List Deed) (c' : Company ι) : Prop :=
  ∃ inner, c'.around i = inner ++ c.around i ∧
    (c'.crew.worker i).Stacked (c.crew.worker i).manager.held inner ∧
    (inner = [] ∧ Stage e deeds (c'.outcome i) (c'.crew.worker i).place ∨
      ∃ frames, inner = frames ++ [(e, e.locks)] ∧ deeds = e.locks.map .took)

variable {c c' : Company ι} {i : ι} {e : Errand} {deeds : List Deed}

/-- Inside of the block, and within the holds in it, all locks of a hold are held. -/
theorem Stands.holds (h : Stands i e c deeds c') (hsteady : (c'.crew.worker i).Steady (c'.around i))
    (hinside : c'.around i ≠ c.around i ∨
      ∃ e' taken, (c'.crew.worker i).place = .inside e' taken) {r : Requirement}
    (hr : r ∈ e.locks) : (c'.crew.worker i).Holds r := by
  obtain ⟨inner, haround, hstacked, hstage⟩ := h
  rcases hstage with ⟨rfl, hcourse⟩ | ⟨frames, rfl, -⟩
  · obtain ⟨e', taken, hplace⟩ := hinside.resolve_left fun hne => hne haround
    have hfits := hsteady.sound.place
    rw [hplace] at hcourse hfits
    obtain ⟨rfl, -⟩ := hcourse
    exact hfits.2 (hfits.1 ▸ hr)
  · unfold Worker.Holds
    rw [hstacked.held, Frame.kept_append]
    simp [Frame.kept, hr]

theorem Stands.over (h : Stands i e c deeds c') (hover : IsOver i c c') :
    (c'.crew.worker i).manager.held = (c.crew.worker i).manager.held ∧
      Course e.locks deeds (c'.outcome i) := by
  obtain ⟨inner, haround, hstacked, hstage⟩ := h
  obtain rfl : inner = [] := List.append_left_eq_self.1 (haround.symm.trans hover.2)
  obtain ⟨-, hcourse⟩ := hstage.resolve_right fun ⟨frames, hframes, _⟩ => by simp at hframes
  rw [hover.1] at hcourse
  refine ⟨?_, hcourse.course⟩
  have hheld := hstacked.held
  rw [hover.1] at hheld
  simpa [Frame.kept, Place.kept] using hheld

end

variable {ι : Type} [DecidableEq ι]

/-- From the beginning of a hold to its end: what becomes of the company, and the deeds of the hold
so far. -/
inductive During (i : ι) (e : Errand) (c : Company ι) : List Deed → Company ι → Prop where
  | begin {m : Manager} (hw : c.crew.worker i = ⟨m, .resting⟩) (halive : m.isDisposed = false) :
      During i e c [] (c.after i false c.crew.registry (c.around i) ⟨m, e.start m⟩ [])
  /-- A step of the hold, or one down into its block. -/
  | own {c' c'' : Company ι} {deeds deeds' : List Deed} (h : During i e c deeds c')
      (hlevel : c'.around i = c.around i) (hopen : ¬ IsOver i c c') (hs : Step i deeds' c' c'') :
      During i e c (deeds ++ deeds') c''
  /-- A step of a hold inside of the block. -/
  | within {c' c'' : Company ι} {deeds deeds' : List Deed} (h : During i e c deeds c')
      (hlevel : c'.around i ≠ c.around i) (hs : Step i deeds' c' c'') : During i e c deeds c''
  /-- A step of somebody else. -/
  | other {c' c'' : Company ι} {deeds deeds' : List Deed} {j : ι} (h : During i e c deeds c')
      (hj : j ≠ i) (hs : Step j deeds' c' c'') : During i e c deeds c''

section

variable {isPatient : ι → Bool} {c c' c'' : Company ι} {i j : ι} {e : Errand}
variable {deeds deeds' : List Deed}

theorem worker_after_self (i : ι) (isLoud : Bool) (g : Registry) (frames : List Frame) (w : Worker)
    (deeds : List Deed) (c : Company ι) :
    (c.after i isLoud g frames w deeds).crew.worker i = w :=
  Crew.worker_after_self i isLoud g w c.crew

theorem around_after_self (i : ι) (isLoud : Bool) (g : Registry) (frames : List Frame) (w : Worker)
    (deeds : List Deed) (c : Company ι) :
    (c.after i isLoud g frames w deeds).around i = frames := Function.update_self ..

theorem outcome_after_self (i : ι) (isLoud : Bool) (g : Registry) (frames : List Frame) (w : Worker)
    (deeds : List Deed) (c : Company ι) :
    (c.after i isLoud g frames w deeds).outcome i = deeds.foldl Deed.outcome (c.outcome i) :=
  Function.update_self ..

theorem During.reachable (h : During i e c deeds c') (he : e.IsBlock)
    (hc : Reachable isPatient c) : Reachable isPatient c' := by
  induction h with
  | @begin m hw halive =>
    have hs : Step i [] c (c.after i false c.crew.registry (c.around i) ⟨m, e.start m⟩ []) := by
      refine ⟨?_⟩
      rw [hw]
      exact .move (.begin (.inr he) halive) (.silent (by simp))
    exact hc.step hs
  | own h hlevel hopen hs ih => exact ih.step hs
  | within h hlevel hs ih => exact ih.step hs
  | other h hj hs ih => exact ih.step hs

/-- Who begins a hold is at rest. -/
theorem During.resting_before (h : During i e c deeds c') : (c.crew.worker i).place = .resting := by
  induction h with
  | begin hw halive => rw [hw]
  | own h hlevel hopen hs ih => exact ih
  | within h hlevel hs ih => exact ih
  | other h hj hs ih => exact ih

theorem stands_begin {m : Manager} (he : e.IsBlock) (hw : c.crew.worker i = ⟨m, .resting⟩)
    (halive : m.isDisposed = false) :
    Stands i e c [] (c.after i false c.crew.registry (c.around i) ⟨m, e.start m⟩ []) := by
  refine ⟨[], around_after_self .., ?_, .inl ⟨rfl, ?_⟩⟩ <;>
    rw [worker_after_self, he.start_eq m]
  · rw [hw]
    have hkept : (Place.taking e [] e.locks).kept = [] := rfl
    exact ⟨halive, by simp [Frame.kept, hkept], nofun, he⟩
  · exact ⟨rfl, rfl⟩

theorem Stands.own (h : Stands i e c deeds c') (hsteady : (c'.crew.worker i).Steady (c'.around i))
    (hlevel : c'.around i = c.around i) (hopen : ¬ IsOver i c c') (hs : Step i deeds' c' c'') :
    Stands i e c (deeds ++ deeds') c'' := by
  obtain ⟨inner, haround, hstacked, hstage⟩ := h
  have hnil : inner = [] := List.append_left_eq_self.1 (haround.symm.trans hlevel)
  subst hnil
  have hbusy : (c'.crew.worker i).place ≠ .resting := fun hplace => hopen ⟨hplace, hlevel⟩
  have hcourse := hstage.resolve_right fun ⟨frames, hframes, _⟩ => by simp at hframes
  obtain ⟨hturn⟩ := hs
  rw [hlevel, ← List.nil_append (c.around i)] at hturn
  obtain ⟨inner, hinner, hstacked'⟩ := hturn.stacked hsteady.sound hstacked (.inr hbusy)
  refine ⟨inner, ?_, ?_, ?_⟩
  · rw [around_after_self, hinner]
  · rwa [worker_after_self]
  · rw [worker_after_self, outcome_after_self]
    rcases hturn.stage hsteady.sound hstacked hbusy hcourse.2 with
      ⟨hframes, hnext⟩ | ⟨hframes, hall⟩
    · exact .inl ⟨List.append_left_eq_self.1 (hinner.symm.trans hframes), hnext⟩
    · exact .inr ⟨[], List.append_cancel_right (hinner.symm.trans hframes), hall⟩

theorem Stands.within (h : Stands i e c deeds c')
    (hsteady : (c'.crew.worker i).Steady (c'.around i)) (hlevel : c'.around i ≠ c.around i)
    (hs : Step i deeds' c' c'') : Stands i e c deeds c'' := by
  obtain ⟨inner, haround, hstacked, hstage⟩ := h
  have hne : inner ≠ [] := fun hnil => hlevel (by rw [haround, hnil, List.nil_append])
  obtain ⟨frames, rfl, hall⟩ := hstage.resolve_left fun hnil => hne hnil.1
  obtain ⟨hturn⟩ := hs
  rw [haround] at hturn
  obtain ⟨inner, hinner, hstacked'⟩ := hturn.stacked hsteady.sound hstacked (.inl hne)
  refine ⟨inner, ?_, ?_, ?_⟩
  · rw [around_after_self, hinner]
  · rwa [worker_after_self]
  · rw [worker_after_self]
    rw [List.append_assoc] at hturn
    rcases hturn.within with ⟨frames', hframes⟩ | ⟨hframes, hplace⟩
    · refine .inr ⟨frames', List.append_cancel_right (hinner.symm.trans (hframes.trans ?_)), hall⟩
      exact (List.append_assoc _ [_] _).symm
    · refine .inl ⟨List.append_left_eq_self.1 (hinner.symm.trans hframes), ?_⟩
      rw [hplace]
      exact ⟨rfl, hall⟩

theorem Stands.other (h : Stands i e c deeds c') (hj : j ≠ i) (hs : Step j deeds' c' c'') :
    Stands i e c deeds c'' := by
  obtain ⟨inner, haround, hstacked, hstage⟩ := h
  obtain ⟨hworker, haround', houtcome⟩ := hs.other hj.symm
  refine ⟨inner, haround'.trans haround, ?_, ?_⟩
  · rcases hworker with hworker | hworker <;> rw [hworker]
    · exact hstacked
    · exact hstacked.notified
  · refine hstage.imp_left fun ⟨hnil, hcourse⟩ => ⟨hnil, ?_⟩
    rw [houtcome]
    rcases hworker with hworker | hworker <;> rw [hworker]
    · exact hcourse
    · exact hcourse.notified

/-- **Every hold stands somewhere on its course.** -/
theorem During.stands (h : During i e c deeds c') (he : e.IsBlock) (hc : Reachable isPatient c) :
    Stands i e c deeds c' := by
  induction h with
  | begin hw halive => exact stands_begin he hw halive
  | own h hlevel hopen hs ih => exact ih.own ((h.reachable he hc).steady i) hlevel hopen hs
  | within h hlevel hs ih => exact ih.within ((h.reachable he hc).steady i) hlevel hs
  | other h hj hs ih => exact ih.other hj hs

end

end Company

/-! ### What a hold leaves -/

/-- What a worker counts for in the registry, for one lock: whether it holds it, and whether it
waits for it. -/
def Worker.share (r : Requirement) (w : Worker) : Nat × Nat :=
  (if w.Holds r then 1 else 0, if w.WaitsFor r then 1 else 0)

theorem Worker.share_of_resting {w w' : Worker} (hheld : w'.manager.held = w.manager.held)
    (hw : w.place = .resting) (hw' : w'.place = .resting) (r : Requirement) :
    w'.share r = w.share r := by
  have hwaits : w'.place.waitsFor = w.place.waitsFor := by rw [hw, hw']
  unfold share
  simp only [holds_congr hheld, waitsFor_congr hwaits]

namespace Company

variable {ι : Type} [DecidableEq ι] [Fintype ι] {isPatient : ι → Bool} {c c' : Company ι}

/-- The registry says of each lock just what the shares of all workers add up to. -/
def IsShared (c : Company ι) : Prop :=
  c.crew.registry.Exact (fun r => ∑ j, ((c.crew.worker j).share r).1)
    fun r => ∑ j, ((c.crew.worker j).share r).2

theorem Reachable.isShared (h : Reachable isPatient c) : c.IsShared := by
  have hheld : Crew.count Worker.Holds c.crew = fun r => ∑ j, ((c.crew.worker j).share r).1 :=
    funext fun r => Finset.card_filter _ _
  have hwaits : Crew.count Worker.WaitsFor c.crew =
      fun r => ∑ j, ((c.crew.worker j).share r).2 := funext fun r => Finset.card_filter _ _
  unfold IsShared
  rw [← hheld, ← hwaits]
  exact h.exact

/-- **A hold restores the state of the locks.** Whatever workers at one registry have done before
one of them begins to hold a set of locks, and whatever the others and the holds inside of its block
do in the meantime: inside of the block all locks of the set are held. When the hold is over, the
manager holds what it held before and knows the same states, and counts in the registry for what it
did before, where all workers' shares add up to what the registry says. And the hold has taken its
locks in order until one couldn't be taken or the block was entered, has given them back in reverse,
and comes to what it failed with or what its block came to. -/
theorem hold_restores {i : ι} {e : Errand} {deeds : List Deed} (he : e.IsBlock)
    (hc : Reachable isPatient c) (h : During i e c deeds c') :
    ((c'.around i ≠ c.around i ∨ ∃ e' taken, (c'.crew.worker i).place = .inside e' taken) →
      ∀ r ∈ e.locks, (c'.crew.worker i).Holds r) ∧
    (IsOver i c c' →
      (c'.crew.worker i).manager.held = (c.crew.worker i).manager.held ∧
      (c'.crew.worker i).manager.states = (c.crew.worker i).manager.states ∧
      (∀ r, (c'.crew.worker i).share r = (c.crew.worker i).share r) ∧
      Course e.locks deeds (c'.outcome i)) ∧
    c.IsShared ∧ c'.IsShared := by
  have hc' := h.reachable he hc
  have hstands := h.stands he hc
  refine ⟨fun hinside r hr => hstands.holds (hc'.steady i) hinside hr, fun hover => ?_,
    hc.isShared, hc'.isShared⟩
  obtain ⟨hheld, hcourse⟩ := hstands.over hover
  refine ⟨hheld, ?_, ?_, hcourse⟩
  · rw [(hc'.steady i).tidy, (hc.steady i).tidy, hheld]
  · exact Worker.share_of_resting hheld h.resting_before hover.1

/-- A hold in whose block another one is refused: the locks that the inner one has taken are given
back before the block of the outer one ends with the same error. -/
theorem hold_restores_nested : ∃ c' : Company (Fin 1), ∃ deeds,
    During 0 (.hold (.ofList [⟨.exclusive, "b"⟩])) (fresh fun _ => false) deeds c' ∧
    c'.outcome 0 = .error (.lock (.alreadyAcquired ⟨.exclusive, "b"⟩)) ∧
    (c'.crew.worker 0).manager.held = [] ∧
    Course [⟨.exclusive, "b"⟩] deeds (c'.outcome 0) := by
  have h₀ := During.begin (i := (0 : Fin 1)) (e := .hold (.ofList [⟨.exclusive, "b"⟩]))
    (c := fresh fun _ => false) rfl rfl
  have h₁ := h₀.own rfl (not_isOver nofun) ⟨.move (.take rfl) .take⟩
  have h₂ := h₁.own rfl (not_isOver nofun) ⟨.move .enter (.silent (by simp))⟩
  have h₃ := h₂.own rfl (not_isOver nofun) ⟨.descend trivial⟩
  have h₄ := h₃.within (List.cons_ne_nil _ _) ⟨.move
    (.begin (e := .hold (.ofList [⟨.shared, "a"⟩, ⟨.exclusive, "b"⟩])) (.inr trivial) rfl)
    (.silent (by simp))⟩
  have h₅ := h₄.within (List.cons_ne_nil _ _) ⟨.move (.take rfl) .take⟩
  have h₆ := h₅.within (List.cons_ne_nil _ _) ⟨.move (.refuse rfl nofun) (.refuse rfl)⟩
  have h₇ := h₆.within (List.cons_ne_nil _ _) ⟨.move (.giveBack rfl) .giveBack⟩
  have h₈ := h₇.within (List.cons_ne_nil _ _) ⟨.move .leave (.silent (by simp))⟩
  have h₉ := h₈.within (List.cons_ne_nil _ _) ⟨.ascend⟩
  have h₁₀ := h₉.own rfl (not_isOver nofun)
    ⟨.move .finish (.finish (.error (.lock (.alreadyAcquired ⟨.exclusive, "b"⟩))))⟩
  have h₁₁ := h₁₀.own rfl (not_isOver nofun) ⟨.move (.giveBack rfl) .giveBack⟩
  have h₁₂ := h₁₁.own rfl (not_isOver nofun) ⟨.move .leave (.silent (by simp))⟩
  have hblock : Errand.IsBlock (.hold (.ofList [⟨.exclusive, "b"⟩])) := trivial
  obtain ⟨-, hover, -, -⟩ := hold_restores hblock .fresh h₁₂
  obtain ⟨hheld, -, -, hcourse⟩ := hover ⟨rfl, rfl⟩
  exact ⟨_, _, h₁₂, rfl, hheld, hcourse⟩

end Company

end CatalogReplication.Lock
