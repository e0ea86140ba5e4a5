import CatalogReplication.Proofs.Catalog.Service
import CatalogReplication.Proofs.Program
import CatalogReplication.Proofs.Transfer.Carrier

/-!
# Who answers the calls of a task

A task works between two catalogs and a carrier of data, its partners. What these hold is a world;
a moment is a world with the clock readings that are still to come and the calls made so far.
Partners answer as their contracts say (`Partners.serve`). With faults, any call may instead end in
an error, before or after it had its effect (`Partners.Answers`).
-/

namespace CatalogReplication.Task

open Catalog (Service View)
open Transfer (Carrier)

/-- The catalogs and the carrier that a task works between. -/
structure Partners where
  source : Service
  destination : Service
  carrier : Carrier

/-- A call that changes nothing, and doesn't report that a table has to come first. -/
def Call.isQuiet : Call → Bool
  | .source r | .destination r => r.isLookup
  | .transfer (.exists _) | .transfer (.equal _ _) => true
  | .transfer _ => false
  | .hear e => e.kind != .tableCascade

namespace Partners

/-- What the partners hold. -/
structure World (E : Partners) where
  source : E.source.State
  destination : E.destination.State
  files : E.carrier.State

namespace World

variable {E : Partners}

/-- The content of the catalog of the source. -/
def sourceView (w : E.World) : View := E.source.view w.source

/-- The content of the catalog of the destination. -/
def view (w : E.World) : View := E.destination.view w.destination

end World

/-- A world in the course of a run. -/
structure Moment (E : Partners) where
  world : E.World
  /-- The clock readings to come. -/
  clock : Nat → Int
  /-- The calls made so far, the latest first. -/
  log : List Call := []

variable {E : Partners}

/-- The moment after a call that leaves a world behind. -/
def Moment.after (c : Call) (w : E.World) (m : E.Moment) : E.Moment :=
  { world := w, clock := fun n => m.clock (n + 1), log := c :: m.log }

/-- How the partners answer a call; whoever hears an event has nothing to say. -/
def serve (E : Partners) : (c : Call) → E.Moment → Except Failure c.Answer × E.Moment
  | .source r, m =>
    let x := E.source.serve (m.clock 0) r m.world.source
    (x.1, m.after (.source r) { m.world with source := x.2 })
  | .destination r, m =>
    let x := E.destination.serve (m.clock 0) r m.world.destination
    (x.1, m.after (.destination r) { m.world with destination := x.2 })
  | .transfer r, m =>
    let x := E.carrier.serve r m.world.files
    (x.1, m.after (.transfer r) { m.world with files := x.2 })
  | .hear e, m => (.ok (), m.after (.hear e) m.world)

/-- A run of a procedure of tasks, from a world and with clock readings. -/
def run {α : Type} (E : Partners) (p : TaskProgram α) (clock : Nat → Int) (w : E.World) :
    Except Failure α × E.Moment :=
  p.run E.serve (fun _ m => m) { world := w, clock }

/-- How a call may be answered: as the partners answer it, or, with faults, by an error, with its
effect or without. -/
def Answers (E : Partners) (faulty : Prop) (c : Call) (m : E.Moment)
    (a : Except Failure c.Answer) (m' : E.Moment) : Prop :=
  (a = (E.serve c m).1 ∧ m' = (E.serve c m).2) ∨
    (faulty ∧ (∃ e, a = .error e) ∧ (m' = m.after c m.world ∨ m' = (E.serve c m).2))

/-- What a procedure keeps to in all runs from a moment, see `Program.Ensures`. -/
abbrev Ensures {α : Type} (E : Partners) (faulty : Prop) (before : Call → E.Moment → Prop)
    (after : Except Failure α → E.Moment → Prop) (p : TaskProgram α) (m : E.Moment) : Prop :=
  Program.Ensures (E.Answers faulty) (fun _ m => m) before after p m

/-- How far a procedure may get, perhaps with faults. -/
abbrev Reaches {α : Type} (E : Partners) (p : TaskProgram α) (m : E.Moment) (p' : TaskProgram α)
    (m' : E.Moment) : Prop :=
  Program.Reaches (E.Answers True) (fun _ m => m) p m p' m'

/-- What holds of all runs holds of the run without faults. -/
theorem run_of_ensures {α : Type} {E : Partners} {faulty : Prop} {before : Call → E.Moment → Prop}
    {after : Except Failure α → E.Moment → Prop} {p : TaskProgram α} {clock : Nat → Int}
    {w : E.World} (h : E.Ensures faulty before after p { world := w, clock }) :
    after (E.run p clock w).1 (E.run p clock w).2 :=
  Program.Ensures.run h fun _ _ => .inl ⟨rfl, rfl⟩

/-! ### Calls that look -/

/-- In a world, a call is answered by a value and leaves the world as it is. -/
def Looks (E : Partners) (c : Call) (w : E.World) (v : c.Answer) : Prop :=
  ∀ m : E.Moment, m.world = w → (E.serve c m).1 = .ok v ∧ (E.serve c m).2.world = w

theorem looks_source {r : Catalog.Request} {w : E.World} {v : r.Answer}
    (hr : r.isLookup = true) (hv : ∀ now a v', w.sourceView.Accepts now r a v' → a = v) :
    E.Looks (.source r) w v := by
  rintro m rfl
  obtain ⟨a, ha, hview⟩ := E.source.accepts (View.rejection?_eq_none_of_isLookup hr _)
  refine ⟨?_, ?_⟩
  · rw [← hv _ _ _ hview]
    exact ha
  · show ({ m.world with source := _ } : E.World) = m.world
    rw [E.source.looks hr]

theorem looks_destination {r : Catalog.Request} {w : E.World} {v : r.Answer}
    (hr : r.isLookup = true) (hv : ∀ now a v', w.view.Accepts now r a v' → a = v) :
    E.Looks (.destination r) w v := by
  rintro m rfl
  obtain ⟨a, ha, hview⟩ := E.destination.accepts (View.rejection?_eq_none_of_isLookup hr _)
  refine ⟨?_, ?_⟩
  · rw [← hv _ _ _ hview]
    exact ha
  · show ({ m.world with destination := _ } : E.World) = m.world
    rw [E.destination.looks hr]

theorem looks_equal (a b : String) (w : E.World) :
    E.Looks (.transfer (.equal a b)) w (E.carrier.agrees a b w.files) := by
  rintro m rfl
  have hserve := E.carrier.serve_equal a b m.world.files
  refine ⟨congrArg Prod.fst hserve, ?_⟩
  show ({ m.world with files := _ } : E.World) = m.world
  rw [hserve]

theorem looks_exists (a : String) (w : E.World) :
    E.Looks (.transfer (.exists a)) w (E.carrier.tree a w.files).isSome := by
  rintro m rfl
  have hserve := E.carrier.serve_exists a m.world.files
  refine ⟨congrArg Prod.fst hserve, ?_⟩
  show ({ m.world with files := _ } : E.World) = m.world
  rw [hserve]

theorem looks_hear (e : Event) (w : E.World) : E.Looks (.hear e) w () := by
  rintro m rfl
  exact ⟨rfl, rfl⟩

/-! ### Rules for calls -/

section

variable {α β : Type} {faulty : Prop} {before : Call → E.Moment → Prop}
  {after : Except Failure α → E.Moment → Prop} {m : E.Moment}

theorem log_of_answers {c : Call} {a : Except Failure c.Answer} {m' : E.Moment}
    (h : E.Answers faulty c m a m') : m'.log = c :: m.log := by
  have hserve : (E.serve c m).2.log = c :: m.log := by cases c <;> rfl
  obtain ⟨-, rfl⟩ | ⟨-, -, rfl | rfl⟩ := h
  · exact hserve
  · rfl
  · exact hserve

/-- A call that looks: its answer is known, or it fails; the world stays as it is. -/
theorem ensures_look {c : Call} {w : E.World} {v : c.Answer} {f : c.Answer → TaskProgram α}
    (hlook : E.Looks c w v) (hw : m.world = w) (hbefore : before c m)
    (hnext : ∀ m' : E.Moment, m'.world = w → m'.log = c :: m.log →
      E.Ensures faulty before after (f v) m')
    (hfault : faulty → ∀ e (m' : E.Moment), m'.world = w → m'.log = c :: m.log →
      after (.error e) m') :
    E.Ensures faulty before after ((Program.perform c).bind f) m := by
  obtain ⟨hanswer, hworld⟩ := hlook m hw
  refine ⟨hbefore, fun a m' ha => ?_⟩
  have hlog := log_of_answers ha
  obtain ⟨rfl, rfl⟩ | ⟨hf, ⟨e, rfl⟩, rfl | rfl⟩ := ha
  · rw [hanswer]
    exact hnext _ hworld hlog
  · exact hfault hf e _ hw hlog
  · exact hfault hf e _ hworld hlog

/-- Any call: it is answered as the partners answer it, or it fails, with its effect or without. -/
theorem ensures_call {c : Call} {next : Except Failure c.Answer → TaskProgram α}
    (hbefore : before c m)
    (hserved : E.Ensures faulty before after (next (E.serve c m).1) (E.serve c m).2)
    (hfault : faulty → ∀ e (m' : E.Moment), m'.world = m.world ∨ m'.world = (E.serve c m).2.world →
      m'.log = c :: m.log → E.Ensures faulty before after (next (.error e)) m') :
    E.Ensures faulty before after (.call c next) m := by
  refine ⟨hbefore, fun a m' ha => ?_⟩
  have hlog := log_of_answers ha
  obtain ⟨rfl, rfl⟩ | ⟨hf, ⟨e, rfl⟩, rfl | rfl⟩ := ha
  · exact hserved
  · exact hfault hf e _ (.inl rfl) hlog
  · exact hfault hf e _ (.inr rfl) hlog

/-- A request to the destination: it is rejected or lost, or leaves what an accepted request
leaves. -/
theorem ensures_destination {r : Catalog.Request} {w : E.World} {f : r.Answer → TaskProgram α}
    (hw : m.world = w) (hbefore : before (.destination r) m)
    (hstay : faulty ∨ (∃ e, w.view.rejection? r = some e) → ∀ e (m' : E.Moment), m'.world = w →
      after (.error e) m')
    (haccepted : w.view.rejection? r = none → ∀ now a (w' : E.World), w'.source = w.source →
      w'.files = w.files → w.view.Accepts now r a w'.view → ∀ m' : E.Moment, m'.world = w' →
        E.Ensures faulty before after (f a) m' ∧ (faulty → ∀ e, after (.error e) m')) :
    E.Ensures faulty before after ((Program.perform (Call.destination r)).bind f) m := by
  subst hw
  have hanswer : (E.serve (.destination r) m).1 =
      (E.destination.serve (m.clock 0) r m.world.destination).1 := rfl
  cases hr : m.world.view.rejection? r with
  | some e =>
    have hserve : E.destination.serve (m.clock 0) r m.world.destination = _ :=
      E.destination.rejects hr
    have hworld : (E.serve (.destination r) m).2.world = m.world := by
      show ({ m.world with destination := _ } : E.World) = m.world
      rw [hserve]
    refine ensures_call hbefore ?_ fun hf e m' hm' _ => ?_
    · rw [hanswer, hserve]
      exact hstay (.inr ⟨e, hr⟩) _ _ hworld
    · rw [hworld, or_self] at hm'
      exact hstay (.inl hf) e m' hm'
  | none =>
    obtain ⟨a, ha, hview⟩ :
        ∃ a, (E.destination.serve (m.clock 0) r m.world.destination).1 = .ok a ∧ _ :=
      E.destination.accepts hr
    have hserved := haccepted hr (m.clock 0) a (E.serve (.destination r) m).2.world rfl rfl hview
    refine ensures_call hbefore ?_ fun hf e m' hm' _ => ?_
    · rw [hanswer, ha]
      exact (hserved _ rfl).1
    · rcases hm' with hm' | hm'
      · exact hstay (.inl hf) e m' hm'
      · exact (hserved m' hm').2 hf e

/-- The end of a procedure that looks once more. -/
theorem ensures_look_last {c : Call} {w : E.World} {v : c.Answer}
    {after : Except Failure c.Answer → E.Moment → Prop}
    (hlook : E.Looks c w v) (hw : m.world = w) (hbefore : before c m)
    (hafter : ∀ m' : E.Moment, m'.world = w → m'.log = c :: m.log → after (.ok v) m')
    (hfault : faulty → ∀ e (m' : E.Moment), m'.world = w → m'.log = c :: m.log →
      after (.error e) m') :
    E.Ensures faulty before after (Program.perform c) m := by
  rw [← Program.bind_done (Program.perform c)]
  exact ensures_look hlook hw hbefore hafter hfault

end

/-! ### How far a run gets -/

section

variable {α : Type} {m m' : E.Moment}

/-- The first calls of a run without faults. -/
def upTo (E : Partners) : TaskProgram α → Nat → E.Moment → TaskProgram α × E.Moment
  | .call c next, n + 1, m => upTo E (next (E.serve c m).1) n (E.serve c m).2
  | .note _ rest, n, m => upTo E rest n m
  | p, _, m => (p, m)

/-- The partners' own answers lead that far, if they are among those that may be given. -/
theorem reaches_upTo_of_serve
    {answers : (c : Call) → E.Moment → Except Failure c.Answer → E.Moment → Prop}
    (hserve : ∀ c m, answers c m (E.serve c m).1 (E.serve c m).2) (p : TaskProgram α) (n : Nat)
    (m : E.Moment) :
    Program.Reaches answers (fun _ m => m) p m (E.upTo p n m).1 (E.upTo p n m).2 := by
  induction p generalizing n m with
  | done a => exact .here
  | fail e => exact .here
  | note _ rest ih => exact .note (ih n m)
  | call c next ih =>
    cases n with
    | zero => exact .here
    | succ n => exact .call (hserve c m) (ih _ n _)

theorem reaches_upTo (p : TaskProgram α) (n : Nat) (m : E.Moment) :
    E.Reaches p m (E.upTo p n m).1 (E.upTo p n m).2 :=
  reaches_upTo_of_serve (fun _ _ => .inl ⟨rfl, rfl⟩) p n m

theorem log_of_reaches {P : Call → Prop} {p q : TaskProgram α} (hp : p.CallsOnly P)
    (h : E.Reaches p m q m') : ∀ c ∈ m'.log, c ∈ m.log ∨ P c := by
  induction h with
  | here => exact fun c hc => .inl hc
  | note _ ih => exact ih hp
  | call ha _ ih =>
    intro c hc
    rcases ih (hp.2 _) c hc with hc | hc
    · rw [log_of_answers ha, List.mem_cons] at hc
      rcases hc with rfl | hc
      · exact .inr hp.1
      · exact .inl hc
    · exact .inr hc

/-- A run that begins with a look is still there or failed, or it goes on from the answer. -/
theorem reaches_look {c : Call} {w : E.World} {v : c.Answer} {f : c.Answer → TaskProgram α}
    {q : TaskProgram α} (hlook : E.Looks c w v) (hw : m.world = w)
    (h : E.Reaches ((Program.perform c).bind f) m q m') :
    (m'.world = w ∧ ∀ a, q ≠ .done a) ∨
      ∃ m₁, m₁.world = w ∧ m₁.log = c :: m.log ∧
        E.Reaches ((Program.perform c).bind f) m (f v) m₁ ∧ E.Reaches (f v) m₁ q m' := by
  obtain ⟨hanswer, hworld⟩ := hlook m hw
  cases h with
  | here => exact .inl ⟨hw, nofun⟩
  | @call _ _ _ a _ m₁ _ ha h =>
    have hlog := log_of_answers ha
    have hfailed : ∀ e, a = .error e → m₁.world = w → m'.world = w ∧ ∀ a, q ≠ .done a := by
      rintro e rfl hm₁
      cases h with
      | here => exact ⟨hm₁, nofun⟩
    rcases id ha with ⟨rfl, rfl⟩ | ⟨-, ⟨e, he⟩, rfl | rfl⟩
    · rw [hanswer] at h
      have hstep : E.Answers True c m (.ok v) (E.serve c m).2 := .inl ⟨hanswer.symm, rfl⟩
      exact .inr ⟨_, hworld, hlog, .call hstep .here, h⟩
    · exact .inl (hfailed e he hw)
    · exact .inl (hfailed e he hworld)

end

end Partners

end CatalogReplication.Task
