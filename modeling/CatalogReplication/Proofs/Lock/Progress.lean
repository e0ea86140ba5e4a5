import CatalogReplication.Proofs.Lock.Conflict
import Mathlib.Data.Finset.Max

/-!
# Workers don't wait for ever

Nobody sleeps through a chance: a request that is asleep can't be granted
(`Crew.Reachable.grants_of_asleep`), since a step that may make a request grantable notifies all.

If patient managers hold one set of locks at a time, with at most one kind a key, then a worker that
asks for a lock holds only locks of smaller keys (`Worker.IsOrderly.key_lt`). So nobody who asks for
the largest key is kept waiting by another one who asks, and somebody can always go on
(`Crew.progress`). A shared request may also be kept waiting by an exclusive one that waits itself;
what this one waits for is held by a worker that asks for a still larger key.
-/

namespace CatalogReplication.Lock

/-! ### Nobody sleeps through a chance -/

namespace Worker

/-- Whether the worker waits for a lock and has not been notified. -/
def IsAsleep (r : Requirement) (w : Worker) : Prop :=
  ∃ e taken rest, w.place = .waiting e taken r rest false

theorem not_isAsleep_of_waitsFor {r : Requirement} {w : Worker} (h : w.place.waitsFor = none) :
    ¬ w.IsAsleep r := by
  rintro ⟨e, taken, rest, hplace⟩
  rw [hplace] at h
  cases h

theorem not_isAsleep_notified (r : Requirement) (w : Worker) : ¬ w.notified.IsAsleep r := by
  rintro ⟨e, taken, rest, hplace⟩
  obtain ⟨m, p⟩ := w
  cases p <;> cases hplace

section

variable {may : Errand → Prop} {a : Act} {g g' : Registry} {w w' : Worker} {isLoud : Bool}
variable {r : Requirement}

/-- A step that doesn't notify makes no request grantable. -/
theorem Moves.grants_of_quiet (h : Moves may a g w isLoud g' w') (hw : w.Sound)
    (hquiet : isLoud = false) (hg : g'.grants r = true) : g.grants r = true := by
  obtain ⟨isPatient, hf⟩ := hw.flavour
  cases h with
  | take h =>
    obtain ⟨-, -, rfl, -⟩ := Desk.tryAcquire_taken hf h
    exact Registry.grants_of_grant hg
  | refuse h hf' =>
    obtain ⟨rfl, -⟩ := Desk.tryAcquire_failed hf h
    exact hg
  | block h hx =>
    obtain ⟨-, -, rfl, -⟩ := Desk.tryAcquire_busy hf h hx
    exact Registry.grants_of_startWaiting hg
  | wake hgrants hawake h =>
    obtain ⟨rfl, -⟩ := Desk.holdWaited_ended h
    rw [Registry.notifies_grant] at hquiet
    exact Registry.grants_of_stopWaiting hquiet (Registry.grants_of_grant hg)
  | giveUp hgrants himpatient => exact Registry.grants_of_stopWaiting hquiet hg
  | giveBack h => cases hquiet
  | abort h =>
    obtain ⟨rfl, -⟩ := Desk.release_failed hf h
    exact hg
  | begin hmay halive => exact hg
  | doze hgrants => exact hg
  | enter => exact hg
  | finish => exact hg
  | leave => exact hg
  | dispose => exact hg

/-- Who falls asleep asks for something that can't be granted. -/
theorem Moves.grants_of_asleep (h : Moves may a g w isLoud g' w') (hw : w.Sound)
    (hr : w'.IsAsleep r) : g'.grants r = false := by
  obtain ⟨isPatient, hf⟩ := hw.flavour
  cases h with
  | block h hx =>
    obtain ⟨-, hgrants, rfl, -⟩ := Desk.tryAcquire_busy hf h hx
    obtain ⟨e, taken, rest, hplace⟩ := hr
    cases hplace
    rw [Bool.eq_false_iff] at hgrants ⊢
    exact fun hg => hgrants (Registry.grants_of_startWaiting hg)
  | doze hgrants =>
    obtain ⟨e, taken, rest, hplace⟩ := hr
    cases hplace
    exact hgrants
  | @begin _ m e hmay halive => exact absurd hr (not_isAsleep_of_waitsFor (e.waitsFor_start m))
  | @enter _ m e taken => exact absurd hr (not_isAsleep_of_waitsFor (e.waitsFor_entered taken))
  | take h => exact absurd hr (not_isAsleep_of_waitsFor rfl)
  | refuse h hf' => exact absurd hr (not_isAsleep_of_waitsFor rfl)
  | wake hgrants hawake h => exact absurd hr (not_isAsleep_of_waitsFor rfl)
  | giveUp hgrants himpatient => exact absurd hr (not_isAsleep_of_waitsFor rfl)
  | finish => exact absurd hr (not_isAsleep_of_waitsFor rfl)
  | giveBack h => exact absurd hr (not_isAsleep_of_waitsFor rfl)
  | abort h => exact absurd hr (not_isAsleep_of_waitsFor rfl)
  | leave => exact absurd hr (not_isAsleep_of_waitsFor rfl)
  | dispose => exact absurd hr (not_isAsleep_of_waitsFor rfl)

end

end Worker

namespace Crew

variable {ι : Type} [DecidableEq ι] {may : Errand → Prop} {isPatient : ι → Bool} {c : Crew ι}

/-- **No wake-up is lost**: a request that is asleep can't be granted. -/
theorem Reachable.grants_of_asleep (h : Reachable may isPatient c) (i : ι) (r : Requirement)
    (hr : (c.worker i).IsAsleep r) : c.registry.grants r = false := by
  induction h generalizing i r with
  | fresh => exact absurd hr (Worker.not_isAsleep_of_waitsFor rfl)
  | @step c _ j a h hs ih =>
    obtain ⟨hm⟩ := hs
    by_cases hij : i = j
    · subst hij
      rw [worker_after_self] at hr
      exact hm.grants_of_asleep (h.sound i) hr
    · rw [worker_after_of_ne hij] at hr
      split at hr
      · exact absurd hr (Worker.not_isAsleep_notified r _)
      · rename_i hquiet
        have hgrants := ih i r hr
        rw [Bool.eq_false_iff] at hgrants ⊢
        exact fun hg => hgrants
          (hm.grants_of_quiet (h.sound j) (Bool.eq_false_iff.2 hquiet) hg)

end Crew

/-! ### One set of locks at a time -/

/-- Whether a set has at most one kind of lock for each key. -/
def LockSet.OneKind (s : LockSet) : Prop :=
  ∀ r ∈ s.requirements, ∀ r' ∈ s.requirements, r.key = r'.key → r = r'

/-- The locks that replicating an object needs are of one kind for each key. -/
theorem oneKind_requiredLocks (s : Spec) : s.requiredLocks.OneKind := by
  intro r hr r' hr' hkey
  exact List.inj_on_of_nodup_map (Spec.nodup_keys_requiredLocks s) hr hr' hkey

/-- Errands that hold one set of locks, with at most one kind a key, for the time of a block. -/
def Errand.IsOrderly : Errand → Prop
  | task _ => True
  | hold s => s.OneKind
  | _ => False

/-- An orderly errand asks for greater and greater keys. -/
theorem Errand.IsOrderly.key_lt {e : Errand} (h : e.IsOrderly) {taken rest : List Requirement}
    {r x : Requirement} (hlocks : taken ++ r :: rest = e.locks) (hx : x ∈ taken) :
    x.key < r.key := by
  have hset : ∃ s : LockSet, s.OneKind ∧ s.requirements = e.locks := by
    cases e with
    | task s => exact ⟨s.requiredLocks, oneKind_requiredLocks s, rfl⟩
    | hold s => exact ⟨s, h, rfl⟩
    | keep r => exact h.elim
    | giveBack r => exact h.elim
    | dispose => exact h.elim
  obtain ⟨s, hkind, hs⟩ := hset
  have hordered := s.ordered
  rw [hs, ← hlocks] at hordered
  have hbefore : x.Before r := (List.pairwise_append.1 hordered).2.2 x hx r List.mem_cons_self
  have hmem : x ∈ s.requirements := hs ▸ hlocks ▸ List.mem_append_left _ hx
  have hmem' : r ∈ s.requirements := hs ▸ hlocks ▸ List.mem_append_right _ List.mem_cons_self
  rcases hbefore with hlt | ⟨hkey, hxkind, hrkind⟩
  · exact hlt
  · rw [hkind x hmem r hmem' hkey, hrkind] at hxkind
    cases hxkind

namespace Place

/-- The locks that are held at a place of an orderly errand. -/
def kept : Place → List Requirement
  | resting => []
  | taking _ taken _ => taken
  | waiting _ taken _ _ _ => taken
  | inside _ taken => taken
  | leaving rest _ => rest.reverse

/-- Whether a place is one of an orderly errand. -/
def IsOrderly : Place → Prop
  | resting => True
  | taking e _ _ => e.IsOrderly
  | waiting e _ _ _ _ => e.IsOrderly
  | inside e _ => e.IsOrderly
  | leaving _ isLast => isLast = false

end Place

/-- The lock that is asked for next. -/
def Place.asksFor : Place → Option Requirement
  | taking _ _ (r :: _) => some r
  | waiting _ _ r _ _ => some r
  | _ => none

/-- An orderly errand begins with taking its locks. -/
theorem Errand.IsOrderly.start_eq {e : Errand} (h : e.IsOrderly) (m : Manager) :
    e.start m = .taking e [] e.locks := by
  cases e <;> first | rfl | exact h.elim

/-- An orderly errand has a block. -/
theorem Errand.IsOrderly.entered_eq {e : Errand} (h : e.IsOrderly) (taken : List Requirement) :
    e.entered taken = .inside e taken := by
  cases e <;> first | rfl | exact h.elim

namespace Worker

/-- Whether a worker with a patient manager runs orderly errands, and holds exactly what its place
says that it has taken. -/
structure IsOrderly (w : Worker) : Prop where
  patient : w.manager.flavour = .process true
  alive : w.manager.isDisposed = false
  held : w.manager.held = w.place.kept
  place : w.place.IsOrderly

theorem IsOrderly.notified {w : Worker} (h : w.IsOrderly) : w.notified.IsOrderly := by
  obtain ⟨m, p⟩ := w
  cases p <;> exact ⟨h.patient, h.alive, h.held, h.place⟩

section

variable {may : Errand → Prop} {a : Act} {g g' : Registry} {w w' : Worker} {isLoud : Bool}

/-- Of what is held, giving back the next lock leaves the rest. -/
theorem filter_ne_kept_leaving {r : Requirement} {rest : List Requirement} {isLast : Bool}
    (h : r ∉ rest.reverse) :
    (Place.leaving (r :: rest) isLast).kept.filter (fun x => !(x == r)) = rest.reverse := by
  have hrest : rest.reverse.filter (fun x => !(x == r)) = rest.reverse := by
    refine List.filter_eq_self.2 fun x hx => ?_
    have hne : x ≠ r := fun heq => h (heq ▸ hx)
    simpa using hne
  rw [Place.kept, List.reverse_cons, List.filter_append, hrest]
  simp

theorem Moves.isOrderly (h : Moves Errand.IsOrderly a g w isLoud g' w') (hw : w.Sound)
    (ho : w.IsOrderly) : w'.IsOrderly := by
  obtain ⟨hf, halive, hheld, hplace⟩ := ho
  cases h with
  | @begin _ m e hmay halive' =>
    rw [hmay.start_eq m]
    exact ⟨hf, halive, hheld, hmay⟩
  | take h =>
    obtain ⟨-, -, -, rfl⟩ := Desk.tryAcquire_taken hf h
    exact ⟨hf, halive, congrArg (· ++ [_]) hheld, hplace⟩
  | refuse h hf' =>
    obtain ⟨-, rfl⟩ := Desk.tryAcquire_failed hf h
    exact ⟨hf, halive, hheld.trans (List.reverse_reverse _).symm, rfl⟩
  | block h hx =>
    obtain ⟨-, -, -, rfl⟩ := Desk.tryAcquire_busy hf h hx
    exact ⟨hf, halive, hheld, hplace⟩
  | wake hgrants hawake h =>
    obtain ⟨-, rfl⟩ := Desk.holdWaited_ended h
    exact ⟨hf, halive, congrArg (· ++ [_]) hheld, hplace⟩
  | doze hgrants => exact ⟨hf, halive, hheld, hplace⟩
  | giveUp hgrants himpatient => exact ⟨hf, halive, hheld.trans (List.reverse_reverse _).symm, rfl⟩
  | @enter _ m e taken =>
    rw [Errand.IsOrderly.entered_eq hplace taken]
    exact ⟨hf, halive, hheld, hplace⟩
  | finish => exact ⟨hf, halive, hheld.trans (List.reverse_reverse _).symm, rfl⟩
  | @giveBack _ _ m _ rest _ r h =>
    obtain ⟨-, -, rfl⟩ := Desk.release_ended hf h
    have hnodup := hw.nodup
    rw [hheld] at hnodup
    have hr : r ∉ rest.reverse := by
      have hcons : (r :: rest).Nodup := List.nodup_reverse.1 hnodup
      rw [List.mem_reverse]
      exact (List.nodup_cons.1 hcons).1
    refine ⟨hf, halive, ?_, hplace⟩
    show m.held.filter _ = rest.reverse
    rw [hheld]
    exact filter_ne_kept_leaving hr
  | @abort _ _ m _ rest _ r _ h =>
    have hr : m.held.contains r = true := by
      rw [hheld, List.contains_iff_mem]
      exact List.mem_reverse.2 List.mem_cons_self
    rw [Desk.on_release r _ hf, if_neg (by rw [halive]; exact Bool.false_ne_true), if_pos hr] at h
    cases h
  | leave => exact ⟨hf, halive, hheld, trivial⟩
  | dispose => cases hplace

end

/-! ### Who can go on -/

section

variable {w : Worker} {g : Registry} {r x : Requirement}

theorem asksFor_of_waitsFor (h : w.WaitsFor r) : w.place.asksFor = some r := by
  obtain ⟨m, p⟩ := w
  cases p <;> cases h
  rfl

theorem ne_resting_of_asksFor (h : w.place.asksFor = some r) : w.place ≠ .resting := by
  intro hplace
  rw [hplace] at h
  cases h

/-- A worker that asks for a lock holds only locks of smaller keys. -/
theorem IsOrderly.key_lt (ho : w.IsOrderly) (hw : w.Sound) (hr : w.place.asksFor = some r)
    (hx : w.Holds x) : x.key < r.key := by
  obtain ⟨m, p⟩ := w
  obtain ⟨-, -, hheld, hplace⟩ := ho
  have hfits := hw.place
  unfold Holds at hx
  rw [hheld] at hx
  cases p with
  | resting => cases hr
  | inside e taken => cases hr
  | leaving rest isLast => cases hr
  | waiting e taken r' rest isNotified =>
    cases hr
    exact Errand.IsOrderly.key_lt hplace hfits.1 hx
  | taking e taken rest =>
    cases rest with
    | nil => cases hr
    | cons r' rest =>
      cases hr
      exact Errand.IsOrderly.key_lt hplace hfits.1 hx

theorem IsOrderly.not_holds (ho : w.IsOrderly) (hw : w.Sound) (hr : w.place.asksFor = some r) :
    r ∉ w.manager.held := fun hx => String.lt_irrefl _ (ho.key_lt hw hr hx)

/-- A worker in the middle of an orderly errand can go on, unless it asks for a lock that can't be
granted. -/
theorem IsOrderly.goes_on (ho : w.IsOrderly) (hw : w.Sound) (hplace : w.place ≠ .resting)
    (hasleep : ∀ r, w.IsAsleep r → g.grants r = false) :
    (∃ a isLoud g' w', Moves Errand.IsOrderly a g w isLoud g' w' ∧ a.isWaiting = false) ∨
      ∃ r, w.place.asksFor = some r ∧ g.grants r = false := by
  have hnew := fun r => ho.not_holds hw (r := r)
  obtain ⟨m, p⟩ := w
  obtain ⟨hf, halive, hheld, horderly⟩ := ho
  have halive' : ¬ m.isDisposed = true := Bool.eq_false_iff.1 halive
  cases p with
  | resting => exact absurd rfl hplace
  | inside e taken => exact .inl ⟨_, _, _, _, .finish, rfl⟩
  | waiting e taken r rest isNotified =>
    cases hg : g.grants r with
    | false => exact .inr ⟨r, rfl, hg⟩
    | true =>
      have hnotified : isNotified = true := by
        cases isNotified with
        | true => rfl
        | false => exact absurd (hasleep r ⟨e, taken, rest, rfl⟩) (by rw [hg]; decide)
      have hheld := Desk.on_holdWaited r ((g.stopWaiting r).grant r) m
      rw [if_neg halive'] at hheld
      exact .inl ⟨_, _, _, _, .wake hg (.inl hnotified) hheld, rfl⟩
  | taking e taken rest =>
    cases rest with
    | nil => exact .inl ⟨_, _, _, _, .enter, rfl⟩
    | cons r rest =>
      cases hg : g.grants r with
      | false => exact .inr ⟨r, rfl, hg⟩
      | true =>
        have hnot : ¬ m.held.contains r = true := by simpa using hnew r rfl
        have htake := Desk.on_tryAcquire r g hf
        rw [if_neg halive', if_neg hnot, if_pos hg] at htake
        exact .inl ⟨_, _, _, _, .take htake, rfl⟩
  | leaving rest isLast =>
    cases rest with
    | nil =>
      obtain rfl : isLast = false := horderly
      exact .inl ⟨_, _, _, _, .leave, rfl⟩
    | cons r rest =>
      have hr : m.held.contains r = true := by
        rw [hheld, List.contains_iff_mem]
        exact List.mem_reverse.2 List.mem_cons_self
      have hrelease := Desk.on_release r g hf
      rw [if_neg halive', if_pos hr] at hrelease
      exact .inl ⟨_, _, _, _, .giveBack hrelease, rfl⟩

end

end Worker

namespace Crew

/-- What keeps a request waiting: somebody holds its key, or it is a shared one and an exclusive one
for its key waits. -/
theorem IsExact.cause_of_not_grants {ι : Type} [Fintype ι] {c : Crew ι} (h : c.IsExact)
    {r : Requirement} (hr : c.registry.grants r = false) :
    (∃ i kind, (c.worker i).Holds ⟨kind, r.key⟩) ∨
      r.kind = .shared ∧ ∃ i, (c.worker i).WaitsFor ⟨.exclusive, r.key⟩ := by
  by_contra hcause
  rw [not_or, not_and] at hcause
  obtain ⟨hheld, hwaits⟩ := hcause
  have hfree : ∀ kind, count Worker.Holds c ⟨kind, r.key⟩ = 0 := fun kind =>
    count_eq_zero_iff.2 fun i hi => hheld ⟨i, kind, hi⟩
  refine absurd ((h.grants_iff r).2 ⟨hfree .exclusive, ?_⟩) (Bool.eq_false_iff.1 hr)
  cases hkind : r.kind with
  | exclusive => exact hfree .shared
  | shared => exact count_eq_zero_iff.2 fun i hi => hwaits hkind ⟨i, hi⟩

variable {ι : Type} [DecidableEq ι] {c : Crew ι}

theorem Reachable.isOrderly (h : Reachable Errand.IsOrderly (fun _ => true) c) (i : ι) :
    (c.worker i).IsOrderly := by
  induction h generalizing i with
  | fresh => exact ⟨rfl, rfl, rfl, trivial⟩
  | @step c _ j a h hs ih =>
    obtain ⟨hm⟩ := hs
    by_cases hij : i = j
    · subst hij
      rw [worker_after_self]
      exact hm.isOrderly (h.sound i) (ih i)
    · rw [worker_after_of_ne hij]
      split
      · exact (ih i).notified
      · exact ih i

/-- Whether everybody in the middle of an errand asks for a lock that can't be granted. -/
def IsStuck (c : Crew ι) : Prop :=
  ∀ i, (c.worker i).place ≠ .resting →
    ∃ r, (c.worker i).place.asksFor = some r ∧ c.registry.grants r = false

/-- In a crew that is stuck, whoever holds a key asks for a larger one. -/
theorem IsStuck.asks_of_holds (hstuck : c.IsStuck)
    (h : Reachable Errand.IsOrderly (fun _ => true) c) {i : ι} {x : Requirement}
    (hx : (c.worker i).Holds x) : ∃ r, (c.worker i).place.asksFor = some r ∧ x.key < r.key := by
  have hbusy : (c.worker i).place ≠ .resting := by
    intro hresting
    unfold Worker.Holds at hx
    rw [(h.isOrderly i).held, hresting] at hx
    cases hx
  obtain ⟨r, hr, -⟩ := hstuck i hbusy
  exact ⟨r, hr, (h.isOrderly i).key_lt (h.sound i) hr hx⟩

variable [Fintype ι]

/-- In a crew that is stuck, there is always a request for a larger key. -/
theorem IsStuck.exists_larger (hstuck : c.IsStuck)
    (h : Reachable Errand.IsOrderly (fun _ => true) c) {r : Requirement}
    (hr : c.registry.grants r = false) :
    ∃ i r', (c.worker i).place.asksFor = some r' ∧ r.key < r'.key := by
  rcases h.exact.cause_of_not_grants hr with ⟨i, kind, hi⟩ | ⟨-, i, hi⟩
  · obtain ⟨r', hr', hlt⟩ := hstuck.asks_of_holds h hi
    exact ⟨i, r', hr', hlt⟩
  · -- the exclusive request that waits is itself kept waiting by somebody who holds the key
    have hasks := Worker.asksFor_of_waitsFor hi
    obtain ⟨r', hr', hblocked⟩ := hstuck i (Worker.ne_resting_of_asksFor hasks)
    rw [hasks] at hr'
    cases hr'
    rcases h.exact.cause_of_not_grants hblocked with ⟨j, kind, hj⟩ | ⟨hshared, -⟩
    · obtain ⟨r', hr', hlt⟩ := hstuck.asks_of_holds h hj
      exact ⟨j, r', hr', hlt⟩
    · cases hshared

/-- A crew is stuck only if it is at rest. -/
theorem IsStuck.resting (hstuck : c.IsStuck)
    (h : Reachable Errand.IsOrderly (fun _ => true) c) (i : ι) :
    (c.worker i).place = .resting := by
  by_contra hi
  -- the workers that ask for something, one of which asks for the largest key
  let asking := Finset.univ.filter fun j => (c.worker j).place.asksFor.isSome
  let key := fun j => ((c.worker j).place.asksFor.map Requirement.key).getD ""
  obtain ⟨r, hr, -⟩ := hstuck i hi
  have hnonempty : asking.Nonempty := ⟨i, by simp [asking, hr]⟩
  obtain ⟨j, hj, hmax⟩ := Finset.exists_max_image asking key hnonempty
  obtain ⟨r, hr⟩ := Option.isSome_iff_exists.1 (Finset.mem_filter.1 hj).2
  obtain ⟨r', hr', hblocked⟩ := hstuck j (Worker.ne_resting_of_asksFor hr)
  obtain ⟨l, r'', hr'', hlt⟩ := hstuck.exists_larger h hblocked
  have hle : key l ≤ key j := hmax l (by simp [asking, hr''])
  have hkeyl : key l = r''.key := by simp [key, hr'']
  have hkeyj : key j = r'.key := by simp [key, hr']
  rw [hkeyl, hkeyj] at hle
  exact absurd hlt (String.not_lt.2 hle)

/-- **Somebody can go on.** Of the workers of a crew, with patient managers, that hold one set of
locks at a time with at most one kind a key, as tasks do: whenever one is in the middle of an
errand, one of those in the middle of an errand can take a step that isn't waiting; and no request
is asleep that could be granted. -/
theorem progress (h : Reachable Errand.IsOrderly (fun _ => true) c) :
    ((∃ i, (c.worker i).place ≠ .resting) → ∃ i a c', Step Errand.IsOrderly i a c c' ∧
      (c.worker i).place ≠ .resting ∧ a.isWaiting = false) ∧
    (∀ i r, (c.worker i).IsAsleep r → c.registry.grants r = false) ∧
    ∀ s : Spec, s.requiredLocks.OneKind := by
  refine ⟨fun hbusy => ?_, fun i r => h.grants_of_asleep i r, oneKind_requiredLocks⟩
  by_contra hnone
  have hstuck : c.IsStuck := by
    intro i hi
    refine ((h.isOrderly i).goes_on (h.sound i) hi (h.grants_of_asleep i)).resolve_left ?_
    rintro ⟨a, isLoud, g', w', hm, ha⟩
    exact hnone ⟨i, a, _, ⟨hm⟩, hi, ha⟩
  obtain ⟨i, hi⟩ := hbusy
  exact hi (hstuck.resting h i)

/-- Progress at work: while a worker sleeps for the lock of a table, another one, inside a task for
the table, can go on. -/
theorem progress_sample : ∃ c : Crew (Fin 2),
    Reachable Errand.IsOrderly (fun _ => true) c ∧
    (c.worker 0).IsInside { database := "db", table := "t" } ∧
    (c.worker 1).IsAsleep ⟨.shared, "db.t"⟩ ∧ c.registry.grants ⟨.shared, "db.t"⟩ = false ∧
    ∃ i a c', Step Errand.IsOrderly i a c c' ∧ (c.worker i).place ≠ .resting ∧
      a.isWaiting = false := by
  have h₀ : Reachable Errand.IsOrderly (fun _ : Fin 2 => true) _ := .fresh
  have h₁ := h₀.step (i := 0) ⟨.begin (e := .task { database := "db", table := "t" }) trivial rfl⟩
  have h₂ := h₁.step (i := 0) ⟨.take rfl⟩
  have h₃ := h₂.step (i := 0) ⟨.enter⟩
  have h₄ := h₃.step (i := 1) ⟨.begin
    (e := .task { database := "db", table := "t", partition := some "p" }) trivial rfl⟩
  have h₅ := h₄.step (i := 1) ⟨.block rfl (.inl rfl)⟩
  obtain ⟨hgoes, hasleep, -⟩ := progress h₅
  exact ⟨_, h₅, ⟨_, rfl⟩, ⟨_, _, _, rfl⟩, hasleep 1 _ ⟨_, _, _, rfl⟩, hgoes ⟨0, nofun⟩⟩

end Crew

end CatalogReplication.Lock
