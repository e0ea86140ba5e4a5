import CatalogReplication.Proofs.Race.Strand

/-!
# How tasks for partitions of one table end

Tasks for partitions of one table are run at one time, their calls in any order: each of them comes
to its end, and either succeeds or is refused because another one created the table. If the table
was missing it is created once. When the tasks that were refused are run again, one after the other,
they succeed, and all is as if the tasks had been run one after the other in the first place
(`Race.concludes`).
-/

namespace CatalogReplication

open CatalogReplication.Task
open Catalog (Request View)

/-! ### Creating tables -/

/-- The table that a request creates if it is accepted. -/
def Catalog.Request.tableMade? : Request → Option Spec
  | .createTable t => some t.spec
  | _ => none

/-- What tables there are after a request that was accepted. -/
theorem Catalog.View.isSome_table_of_accepts {now : Int} {q : Request} {a : q.Answer} {v v' : View}
    (hr : v.rejection? q = none) (h : v.Accepts now q a v') (k : Spec) :
    (v'.table k).isSome = ((v.table k).isSome || q.tableMade? == some k) := by
  have hput : ∀ (t : TableRecord) (x : TableRecord), ((v.putTable t.spec x).table k).isSome
      = ((v.table k).isSome || (some t.spec == some k)) := fun t x => by
    by_cases hk : k = t.spec
    · subst hk
      simp [View.putTable]
    · have hne : (t.spec == k) = false := beq_eq_false_iff_ne.2 (Ne.symm hk)
      simp [View.putTable, Function.update_of_ne hk, hne]
  cases q with
  | createTable t =>
    obtain ⟨id, rfl⟩ := h
    exact hput t _
  | alterTable t =>
    obtain ⟨id, created, rfl⟩ := h
    have ht := View.alterTable_accepted.1 hr
    rw [hput]
    by_cases hk : k = t.spec
    · subst hk
      simp [ht]
    · have hne : (t.spec == k) = false := beq_eq_false_iff_ne.2 (Ne.symm hk)
      simp [Request.tableMade?, hne]
  | createDatabaseIfAbsent d =>
    obtain ⟨-, rfl⟩ := h
    simp [Request.tableMade?]
  | addPartition x =>
    obtain ⟨id, rfl⟩ := h
    simp [Request.tableMade?, View.putPartition]
  | alterPartition k' x =>
    obtain ⟨id, created, rfl⟩ := h
    simp [Request.tableMade?, View.putPartition]
  | listPartitionNames k' =>
    obtain rfl : v' = v := h
    simp [Request.tableMade?]
  | getDatabase name =>
    obtain ⟨-, rfl⟩ := h
    simp [Request.tableMade?]
  | getTable k' =>
    obtain ⟨-, rfl⟩ := h
    simp [Request.tableMade?]
  | getPartition k' =>
    obtain ⟨-, rfl⟩ := h
    simp [Request.tableMade?]

/-- A table that is created was missing. -/
theorem Catalog.View.isSome_table_of_tableMade? {q : Request} {v : View} {k : Spec}
    (hr : v.rejection? q = none) (hk : q.tableMade? = some k) : (v.table k).isSome = false := by
  cases q with
  | createTable t =>
    cases hk
    exact (View.createTable_accepted.1 hr).2
  | _ => cases hk

namespace Task

/-- A call that was answered created a table. -/
def Call.creates : (c : Call) → Except Failure c.Answer → Bool
  | .destination q, .ok _ => q.tableMade?.isSome
  | _, _ => false

/-- How many of the calls that were answered created a table. -/
def creations {ι : Type} (l : List (Program.Reply ι Call Call.Answer Failure)) : Nat :=
  l.countP fun x => x.call.creates x.answer

variable {E : Partners} {ι : Type}

/-- A run succeeded. -/
def Succeeded (a : Except Failure Outcome) : Prop := ∃ out, a = .ok out ∧ out.isSuccessful = true

/-- Runs tasks one after the other, each with its own clock readings. -/
def Lineup.runEach (r : Lineup E ι) (clock : ι → Nat → Int) :
    List ι → E.World → List (Except Failure Outcome) × E.World
  | [], w => ([], w)
  | i :: turns, w =>
    let (a, m) := E.run ((r.task i).program r.setup) (clock i) w
    let (rest, w') := r.runEach clock turns m.world
    (a :: rest, w')

namespace Race

variable {r : Race E ι}

namespace Plan

variable {p : r.Plan} {i j : ι} {w w' : E.World} {m : E.Moment}

theorem Effect.tables (he : p.Effect i w w') {k : Spec} (hk : k ≠ r.table.spec) :
    w'.view.table k = w.view.table k := by
  cases he with
  | nothing => rfl
  | housed _ _ _ hv => rw [hv, View.table_ensureDatabase]
  | tabled _ _ _ _ hv =>
    rw [hv]
    exact Function.update_of_ne hk ..
  | partitioned _ _ hv =>
    rw [hv]
    rfl
  | copied _ hd _ => rw [view_eq_of_destination_eq hd]

/-- **The table appears by being created**, and no other table does. -/
theorem isSome_table_serve {c : Call} (he : p.Effect i m.world (E.serve c m).2.world) :
    ((E.serve c m).2.world.view.table r.table.spec).isSome.toNat =
      (m.world.view.table r.table.spec).isSome.toNat + (c.creates (E.serve c m).1).toNat := by
  cases c with
  | source q => rfl
  | transfer q => rfl
  | hear e => rfl
  | destination q =>
    have hanswer : (E.serve (.destination q) m).1
        = (E.destination.serve (m.clock 0) q m.world.destination).1 := rfl
    cases hr : m.world.view.rejection? q with
    | some e =>
      have hserve : E.destination.serve (m.clock 0) q m.world.destination = _ :=
        E.destination.rejects hr
      have hview : (E.serve (.destination q) m).2.world.view = m.world.view :=
        congrArg E.destination.view (congrArg Prod.snd hserve)
      rw [hanswer, hview, hserve]
      rfl
    | none =>
      obtain ⟨a, ha, hview⟩ :
          ∃ a, (E.destination.serve (m.clock 0) q m.world.destination).1 = .ok a ∧ _ :=
        E.destination.accepts hr
      have htables : ∀ k, ((E.serve (.destination q) m).2.world.view.table k).isSome = _ :=
        View.isSome_table_of_accepts hr hview
      rw [hanswer, ha, htables]
      show _ = _ + q.tableMade?.isSome.toNat
      cases hmade : q.tableMade? with
      | none => simp
      | some k =>
        have hmissing := View.isSome_table_of_tableMade? hr hmade
        have hk : k = r.table.spec := by
          by_contra hne
          have hkeeps := htables k
          rw [he.tables hne, hmade, hmissing] at hkeeps
          simp at hkeeps
        subst hk
        simp [hmissing]

/-! ### One after the other -/

/-- **A task that runs alone** succeeds, and leaves the others their own. -/
theorem run_alone (clock : Nat → Int) (h : p.Fresh i w) :
    Succeeded (E.run ((r.task i).program r.setup) clock w).1 ∧
      p.Done i (E.run ((r.task i).program r.setup) clock w).2.world ∧
      ∀ j, j ≠ i → p.Kept j w (E.run ((r.task i).program r.setup) clock w).2.world := by
  have hgoes : p.Goes True i (fun out w => out.isSuccessful = true ∧ p.Done i w)
      ((r.task i).program r.setup) { world := w, clock } := partition_goes h
  obtain ⟨out, hout, hs, hdone⟩ | ⟨-, halone, -⟩ := hgoes.run fun _ _ => ⟨rfl, .refl⟩
  · refine ⟨⟨out, hout, hs⟩, hdone, fun j hj => ?_⟩
    exact hgoes.run_keeps (R := fun m m' => p.Kept j m.world m'.world) (fun _ => .refl)
      (fun _ => .refl) (fun _ _ _ => Kept.trans) fun _ _ he => he.kept hj
  · exact absurd trivial halone

/-- **Tasks that run one after the other** succeed, and leave the others their own. -/
theorem runEach_done (clock : ι → Nat → Int) {turns : List ι} (hturns : turns.Nodup)
    (h : ∀ i ∈ turns, p.Fresh i w) :
    (∀ a ∈ (r.runEach clock turns w).1, Succeeded a) ∧
      (∀ i ∈ turns, p.Done i (r.runEach clock turns w).2) ∧
      ∀ j, j ∉ turns → p.Kept j w (r.runEach clock turns w).2 := by
  induction turns generalizing w with
  | nil => exact ⟨nofun, nofun, fun _ _ => .refl⟩
  | cons i turns ih =>
    obtain ⟨hi, hnodup⟩ := List.nodup_cons.1 hturns
    obtain ⟨hs, hdone, hkept⟩ := run_alone (clock i) (h i List.mem_cons_self)
    obtain ⟨hrest, hdones, hkepts⟩ := ih hnodup fun j hj =>
      (hkept j (ne_of_mem_of_not_mem hj hi)).fresh (h j (List.mem_cons_of_mem _ hj))
    refine ⟨fun a ha => ?_, fun j hj => ?_, fun j hj => ?_⟩
    · rcases List.mem_cons.1 ha with rfl | ha
      · exact hs
      · exact hrest a ha
    · rcases List.mem_cons.1 hj with rfl | hj
      · exact (hkepts j hi).done hdone
      · exact hdones j hj
    · rw [List.mem_cons, not_or] at hj
      obtain ⟨hji, hj⟩ := hj
      exact (hkept j hji).trans (hkepts j hj)

end Plan

/-! ### At one time -/

section

variable (r)

/-- The tasks at their beginnings. -/
def begin (clock : Nat → Int) :
    Program.Weave ι Call Call.Answer Overwrite Failure Outcome E.Moment where
  strand i := (r.task i).program r.setup
  state := { world := r.start, clock }

/-- How tasks that ran at one time ended: with which answers to their calls, in which world, and
with which results. -/
structure Concluded (l : List (Program.Reply ι Call Call.Answer Failure)) (w : E.World)
    (a : ι → Except Failure Outcome) : Prop where
  /-- Each succeeded, or was refused. -/
  ended : ∀ i, Succeeded (a i) ∨ a i = .error (.catalog (.tableExists r.table.spec))
  /-- If the table was missing, it was created once. -/
  once : r.start.view.table r.table.spec = none → creations l = 1
  /-- When those that were refused are run again, they succeed, as all do that are run one after
  the other from the start, and all is as it is then. -/
  again : ∀ (clock clock' : ι → Nat → Int) (refused all : List ι), refused.Nodup →
    (∀ i, i ∈ refused ↔ ¬ Succeeded (a i)) → all.Nodup → (∀ i, i ∈ all) →
      (∀ x ∈ (r.runEach clock refused w).1, Succeeded x) ∧
        (∀ x ∈ (r.runEach clock' all r.start).1, Succeeded x) ∧
        r.Alike (r.runEach clock refused w).2 (r.runEach clock' all r.start).2

end

namespace Plan

variable {p : r.Plan} {w : E.World} {l : List (Program.Reply ι Call Call.Answer Failure)}
  {a : ι → Except Failure Outcome} {x : Program.Weave ι Call Call.Answer Overwrite Failure Outcome
    E.Moment}

/-- How a task ends among the others. -/
abbrev Finished (p : r.Plan) (i : ι) (a : Except Failure Outcome) (w : E.World) : Prop :=
  p.Ended False i (fun out w => out.isSuccessful = true ∧ p.Done i w) a w

/-- What the tasks keep to, each among the others. -/
abbrev Keeps [DecidableEq ι] (p : r.Plan)
    (x : Program.Weave ι Call Call.Answer Overwrite Failure Outcome E.Moment) : Prop :=
  x.Keeps E.serve (fun i m m' => p.Rely False i m.world m'.world)
    (fun i c m => p.Effect i m.world (E.serve c m).2.world) fun i a m => p.Finished i a m.world

theorem keeps_begin [DecidableEq ι] (p : r.Plan) (clock : Nat → Int) : p.Keeps (r.begin clock) :=
  fun _ _ h => partition_goes (h.kept.fresh .start)

/-- **Wherever the tasks end, each is done or refused.** -/
theorem finished_of_runs [DecidableEq ι] {clock : Nat → Int} {i : ι} {b : Except Failure Outcome}
    (h : Program.Weave.Runs E.serve (r.begin clock) l x) (hi : x.strand i = .ofExcept b) :
    p.Finished i b x.state.world :=
  (p.keeps_begin clock).ended (fun _ _ => .refl) (fun _ _ _ _ => Rely.trans)
    (fun _ _ _ _ he hj => ⟨he.kept hj, False.elim⟩) h hi

/-- **A missing table is created once**: as often as it is there. -/
theorem creations_of_runs [DecidableEq ι] {clock : Nat → Int}
    (h : Program.Weave.Runs E.serve (r.begin clock) l x)
    (hs : r.start.view.table r.table.spec = none) :
    creations l = (x.state.world.view.table r.table.spec).isSome.toNat := by
  obtain ⟨p⟩ := r.exists_plan
  refine (p.keeps_begin clock).invariant
    (Q := fun l m => creations l = (m.world.view.table r.table.spec).isSome.toNat)
    (fun _ _ => .refl) (fun _ _ _ _ => Rely.trans)
    (fun _ _ _ _ he hj => ⟨he.kept hj, False.elim⟩) ?_ (fun i c m l he hl => ?_) h
  · show 0 = (r.start.view.table r.table.spec).isSome.toNat
    rw [hs]
    rfl
  · rw [isSome_table_serve he, ← hl, creations, List.countP_cons, creations]
    cases c.creates (E.serve c m).1 <;> rfl

theorem Finished.done {i : ι} {b : Except Failure Outcome} (h : p.Finished i b w)
    (hb : Succeeded b) : p.Done i w := by
  obtain ⟨out, hout, -⟩ := hb
  obtain ⟨out', -, -, hdone⟩ | ⟨hrefused, -⟩ := h
  · exact hdone
  · rw [hrefused] at hout
    cases hout

theorem Finished.fresh {i : ι} {b : Except Failure Outcome} (h : p.Finished i b w)
    (hb : ¬ Succeeded b) : p.Fresh i w := by
  obtain ⟨out, hout, hs, -⟩ | ⟨-, -, hfresh, -⟩ := h
  · exact absurd ⟨out, hout, hs⟩ hb
  · exact hfresh

theorem Finished.isSome_table {i : ι} {b : Except Failure Outcome} (h : p.Finished i b w) :
    (w.view.table r.table.spec).isSome = true := by
  obtain ⟨out, -, -, hdone⟩ | ⟨-, -, -, htable⟩ := h
  · exact isSome_table_of_hasTable hdone.hasTable
  · exact htable

/-- Where each task is done or refused, running the refused ones again makes all of them done. -/
theorem done_of_finished (clock : ι → Nat → Int) (h : ∀ i, p.Finished i (a i) w) {refused : List ι}
    (hnodup : refused.Nodup) (hrefused : ∀ i, i ∈ refused ↔ ¬ Succeeded (a i)) :
    (∀ x ∈ (r.runEach clock refused w).1, Succeeded x) ∧
      ∀ i, p.Done i (r.runEach clock refused w).2 := by
  obtain ⟨hs, hdone, hkept⟩ := runEach_done clock hnodup fun i hi =>
    (h i).fresh ((hrefused i).1 hi)
  refine ⟨hs, fun i => ?_⟩
  by_cases hi : i ∈ refused
  · exact hdone i hi
  · exact (hkept i hi).done ((h i).done (Classical.not_not.1 fun hn => hi ((hrefused i).2 hn)))

end Plan

/-- **Tasks for partitions of one table that run at one time** come to their ends in whatever order
their calls are made. Each of them succeeds, or is refused because another one created the table; a
table that was missing is created once; and running those that were refused again leaves what
running all of them one after the other does. -/
theorem concludes [DecidableEq ι] [Finite ι] [Nonempty ι] (r : Race E ι) (clock : Nat → Int) :
    Acc (fun y x => ∃ e, Program.Weave.Step E.serve x e y) (r.begin clock) ∧
      ∀ l x, Program.Weave.Runs E.serve (r.begin clock) l x →
        (∃ e y, Program.Weave.Step E.serve x e y) ∨
          ∃ a : ι → Except Failure Outcome, (∀ i, x.strand i = .ofExcept (a i)) ∧
            r.Concluded l x.state.world a := by
  refine ⟨(Program.Weave.wellFounded_step E.serve).apply _, fun l x hruns => ?_⟩
  refine (Program.Weave.ended_or_step E.serve x).symm.imp_right fun ⟨a, ha⟩ => ⟨a, ha, ?_⟩
  obtain ⟨p⟩ := r.exists_plan
  have hfinished : ∀ i, p.Finished i (a i) x.state.world := fun i =>
    Plan.finished_of_runs hruns (ha i)
  refine ⟨fun i => ?_, fun hs => ?_,
    fun clock clock' refused all hnodup hrefused hnodup' hall => ?_⟩
  · exact (hfinished i).imp (fun ⟨out, hout, hsuccess, _⟩ => ⟨out, hout, hsuccess⟩) And.left
  · obtain ⟨i⟩ := ‹Nonempty ι›
    rw [Plan.creations_of_runs hruns hs, (hfinished i).isSome_table]
    rfl
  · obtain ⟨hagain, hdone⟩ := Plan.done_of_finished clock hfinished hnodup hrefused
    obtain ⟨hfirst, hdone', -⟩ := Plan.runEach_done (p := p) clock' hnodup' fun i _ => .start
    exact ⟨hagain, hfirst, Plan.alike_of_done hdone fun i => hdone' i (hall i)⟩

/-! ### An example -/

namespace Sample

def location : Bool → String
  | false => "hdfs://here/orders/1"
  | true => "hdfs://here/orders/2"

def partition : Bool → PartitionRecord
  | false => Task.Sample.partition
  | true => { Task.Sample.partition with
      name := "day=2"
      values := ["2"]
      body := { location := some "hdfs://here/orders/2" } }

def catalog : Catalog.Keyed :=
  { Task.Sample.catalog with
    partitions :=
      [((partition false).spec, partition false), ((partition true).spec, partition true)] }

/-- The source has two partitions with their data, the destination has nothing. -/
def world : Task.Sample.partners.World where
  source := ⟨catalog, Task.Sample.named_catalog⟩
  destination := ⟨{}, Catalog.Relational.sound_empty⟩
  files a := if a = location false ∨ a = location true then some [(["part"], 3)] else none

def lineup : Lineup Task.Sample.partners Bool where
  setup := { Task.Sample.setup with stagingRoot := .null }
  builder := {}
  sourceRoot := "hdfs://here"
  destinationRoot := "s3://there"
  start := world
  table := Task.Sample.table
  partition := partition
  location := location
  place
    | false => "/orders/1".toList
    | true => "/orders/2".toList

/-- Two tasks that may run at one time. -/
def race : Race Task.Sample.partners Bool where
  toLineup := lineup
  builds := rfl
  textual _ h := nomatch h
  logs := rfl
  copies := rfl
  unstaged := rfl
  source_root := rfl
  destination_root := rfl
  table_found := rfl
  partitioned := rfl
  partition_found i := by cases i <;> rfl
  partition_table i := by cases i <;> rfl
  distinct i j h := by revert i j; decide
  database_named d h := by cases h; rfl
  table_rebases := ⟨_, rfl⟩
  database_rebases d h := by cases h; exact ⟨_, rfl⟩
  located i := by cases i <;> rfl
  below i := by cases i <;> rfl
  present i := by cases i <;> rfl
  sources_apart := (by decide : ∀ i j, i ≠ j → lineup.location i ≠ lineup.location j)
  targets_apart := (by decide : ∀ i j, lineup.location i ≠ lineup.target j)
  dependable := Transfer.isDependable_flat
  rebases := Transfer.rebases_flat _ _

/-- Both tasks find the table missing, and then the first goes on to its end before the second. -/
def turns : List Bool :=
  List.replicate 6 false ++ List.replicate 6 true ++ List.replicate 20 false ++
    List.replicate 20 true

/-- What becomes of them then. -/
def result : List (Program.Reply Bool Call Call.Answer Failure) ×
    Program.Weave Bool Call Call.Answer Overwrite Failure Outcome Task.Sample.partners.Moment :=
  Program.Weave.follow Task.Sample.partners.serve turns (race.begin fun _ => 7)

end Sample

/-- The second task is refused. -/
theorem concludes_sample :
    Sample.result.2.strand false = .done { status := .successful, bytes := 3 } ∧
      Sample.result.2.strand true = .fail (.catalog (.tableExists Task.Sample.table.spec)) ∧
      ∃ a, (∀ i, Sample.result.2.strand i = .ofExcept (a i)) ∧
        Sample.race.Concluded Sample.result.1 Sample.result.2.state.world a := by
  have hfirst : Sample.result.2.strand false = .done { status := .successful, bytes := 3 } := rfl
  have hsecond : Sample.result.2.strand true
      = .fail (.catalog (.tableExists Task.Sample.table.spec)) := rfl
  obtain ⟨-, hends⟩ := concludes Sample.race fun _ => 7
  refine ⟨hfirst, hsecond, (hends _ _ (Program.Weave.runs_follow _ Sample.turns _)).resolve_left ?_⟩
  -- both tasks are at their ends
  have hended : ∀ i, ∃ a, Sample.result.2.strand i = .ofExcept a
    | false => ⟨.ok _, hfirst⟩
    | true => ⟨.error _, hsecond⟩
  rintro ⟨e, y, hstep⟩
  exact Program.Weave.not_step_of_ended _ hended hstep

end Race

end Task

end CatalogReplication
