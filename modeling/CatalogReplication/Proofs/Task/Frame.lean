import CatalogReplication.Proofs.Task.Calls
import CatalogReplication.Proofs.Task.Consistency

/-!
# What a task leaves alone

Whatever the carrier answers and whichever calls fail, a task touches only what is its own: at the
destination the record of its object, a database that wasn't there, and for a partition the table
if that had to come first; among the data the places where the builder puts what it makes
(`ReplicationTask.framed_of_reaches`). `Framed` is shown call by call (`Framed.step`).
-/

namespace CatalogReplication.Task

open Catalog (View Site)

/-- The builder puts the data of a record at a location, see `Builder.rebase_of_build`. -/
def Setup.Puts {ρ : Type} [Maintained ρ] (o : Setup) (record : ρ) (location : String) : Prop :=
  o.source.rebase o.destination (.ofText? (Maintained.body record).location) = .ok (some location)

namespace Item

variable {ρ : Type} [Sited ρ] {E : Partners} {o : Setup} {i : Item ρ} {w : E.World} {m : E.Moment}
  {c : Call}

/-- An update writes at the place of its record, and at that of its database. -/
theorem Makes.site_owned {s : Site} (h : i.Makes o w m c) (hi : i.IsIdentified)
    (hd : ∀ d, w.sourceView.database i.spec.database = some d → d.name = i.spec.database)
    (hs : c.site? = some s) : s = Sited.site ρ i.spec ∨ s = .database i.spec.database := by
  rcases h.site hi hs with hsite | ⟨x, d, hx, hhouses, rfl⟩
  · exact .inl hsite
  · have hdatabase : (Replicable.spec x).database = i.spec.database := by
      rw [spec_of_wants hx, hi, Sited.database_key]
    unfold Houses at hhouses
    rw [hdatabase] at hhouses
    exact .inr (congrArg Site.database (Builder.name_of_buildDatabase hd hhouses))

/-- An update puts data only where the builder puts that of its record, and only if it has any. -/
theorem Makes.puts {location : String} (h : i.Makes o w m c) (ht : c.target? = some location) :
    i.ownsData = true ∧ o.Puts i.record location := by
  cases h with
  | look _ => cases ht
  | report _ => cases ht
  | house _ _ _ => cases ht
  | create _ _ => cases ht
  | alter _ _ => cases ht
  | transfer hx _ _ htarget =>
    obtain ⟨howns, hlocation⟩ := htarget location ht
    refine ⟨howns, ?_⟩
    unfold Setup.Puts
    rw [rebase_of_wants hx, hlocation]

end Item

end CatalogReplication.Task

namespace CatalogReplication.ReplicationTask

open CatalogReplication.Task
open Catalog (View Site)

section

variable {E : Partners} (o : Setup) (w : E.World)

/-- The database of the source that a task may copy names itself. -/
def HasNamedDatabase (t : ReplicationTask) : Prop :=
  ∀ d, w.sourceView.database t.spec.database = some d → d.name = t.spec.database

/-- The places of the destination that are a task's own: its object, the database of it, and for a
partition the table if the destination lacks it or has it with another schema. -/
inductive Owns : ReplicationTask → Site → Prop where
  | database (t : ReplicationTask) : Owns t (.database t.spec.database)
  | table (spec : Spec) (hint : Value) : Owns (table spec hint) (.table spec.tableSpec)
  | partition (spec : Spec) : Owns (partition spec) (.partition spec)
  | tableOf {spec : Spec} {t : TableRecord} (ht : w.sourceView.table spec.tableSpec = some t)
      (h : ∀ t', w.view.table spec.tableSpec = some t' → schemasMatch t t' = false) :
      Owns (partition spec) (.table spec.tableSpec)

/-- The places of the data that are a task's own: where the builder puts the data of its object, and
for a partition that of the table if it has any. -/
inductive PutsAt (location : String) : ReplicationTask → Prop where
  | table {spec : Spec} {hint : Value} {t : TableRecord}
      (ht : w.sourceView.table spec.tableSpec = some t) (hdata : t.isPartitioned = false)
      (h : o.Puts t location) : PutsAt location (table spec hint)
  | partition {spec : Spec} {p : PartitionRecord} (hp : w.sourceView.partition spec = some p)
      (h : o.Puts p location) : PutsAt location (partition spec)
  | tableOf {spec : Spec} {t : TableRecord} (ht : w.sourceView.table spec.tableSpec = some t)
      (hdata : t.isPartitioned = false) (h : o.Puts t location) : PutsAt location (partition spec)

/-- What a task that began in a world has left alone of it at a moment. -/
structure Framed (t : ReplicationTask) (m : E.Moment) : Prop where
  source : m.world.source = w.source
  record : ∀ s, ¬ t.Owns w s → m.world.view.record? s = w.view.record? s
  database : ∀ name d, w.view.database name = some d → m.world.view.database name = some d
  target : ∀ c ∈ m.log, ∀ location, c.target? = some location → t.PutsAt o w location

end

variable {E : Partners} {o : Setup} {w : E.World} {t : ReplicationTask} {m m' : E.Moment} {c : Call}
  {may : Call → Failure → Prop}

/-- A table that has to come first is missing, or has another schema. -/
theorem owns_of_reason {c : Cascade} {reason : String} (hfound : c.Found w)
    (hreason : c.reason? w = some reason) :
    (partition c.spec).Owns w (.table c.spec.tableSpec) := by
  refine .tableOf hfound.table fun t' ht' => ?_
  have hcascade : cascadeReason? c.table (w.view.table c.spec.tableSpec) = some reason := hreason
  cases hmatch : schemasMatch c.table t' with
  | false => rfl
  | true =>
    rw [cascadeReason?_eq_none_iff.2 ⟨t', ht', hmatch⟩] at hcascade
    cases hcascade

/-- **A task writes only at its own places.** -/
theorem Makes.owns {s : Site} (hi : t.IsIdentified w) (hd : t.HasNamedDatabase w)
    (h : t.Makes o w m c) (hs : c.site? = some s) : t.Owns w s := by
  cases h with
  | look h _ =>
    rw [Call.site?_of_isLook h] at hs
    cases hs
  | @table spec hint t _ ht h =>
    rcases h.site_owned (isIdentified_ofTable ht) hd hs with rfl | rfl
    · exact .table spec hint
    · exact .database (ReplicationTask.table spec hint)
  | @cascade c reason _ hfound hreason h =>
    rcases h.site_owned (isIdentified_ofTable hfound.table) hd hs with rfl | rfl
    · exact owns_of_reason hfound hreason
    · exact .database (ReplicationTask.partition c.spec)
  | @partition c w₁ _ hfound hb h =>
    have hsource : w₁.sourceView = w.sourceView := congrArg E.source.view hb.source
    have hd₁ : ∀ d, w₁.sourceView.database c.spec.database = some d →
        d.name = c.spec.database := by
      rw [hsource]
      exact hd
    rcases h.site_owned (hi _ hfound.partition) hd₁ hs with rfl | rfl
    · exact .partition c.spec
    · exact .database (ReplicationTask.partition c.spec)

/-- **A task puts data only at its own places.** -/
theorem Makes.putsAt {location : String} (h : t.Makes o w m c)
    (ht : c.target? = some location) : t.PutsAt o w location := by
  have hdata : ∀ {spec : Spec} {t : TableRecord}, (Item.ofTable spec t).ownsData = true →
      t.isPartitioned = false := fun h => Bool.not_eq_true' _ ▸ h
  cases h with
  | look h _ =>
    cases c with
    | transfer r => cases h
    | _ => cases ht
  | table htable h =>
    obtain ⟨howns, hputs⟩ := h.puts ht
    exact .table htable (hdata howns) hputs
  | cascade hfound _ h =>
    obtain ⟨howns, hputs⟩ := h.puts ht
    exact .tableOf hfound.table (hdata howns) hputs
  | partition hfound _ h => exact .partition hfound.partition (h.puts ht).2

/-- A call of a task touches nothing but what is the task's own. -/
theorem Framed.step {a : Except Failure c.Answer} (hi : t.IsIdentified w)
    (hd : t.HasNamedDatabase w) (hmakes : t.Makes o w m c)
    (ha : E.AnswersFreely may c m a m') (h : t.Framed o w m) : t.Framed o w m' := by
  refine ⟨?_, fun s hs => ?_, fun name d hname => ?_, fun c' hc' location ht => ?_⟩
  · have hlooks : ∀ r, c = .source r → r.isLookup = true := by
      rintro r rfl
      exact hmakes.looks
    exact (Partners.source_of_answers hlooks ha).trans h.source
  · have hother : c.site? ≠ some s := fun hsite => hs (hmakes.owns hi hd hsite)
    exact (Partners.record?_of_answers ha hother).trans (h.record s hs)
  · exact Partners.database_of_answers ha (h.database name d hname)
  · rw [Partners.log_of_answersFreely ha] at hc'
    rcases List.mem_cons.1 hc' with rfl | hearlier
    · exact hmakes.putsAt ht
    · exact h.target c' hearlier location ht

/-- **The frame of a task**: wherever a run is cut off, whatever the carrier answered and whichever
calls failed, the source is as it was, and so is the destination but for the places that are the
task's own; databases that were there are as they were; and data was put only at the task's own
places. -/
theorem framed_of_reaches (E : Partners) (o : Setup) (t : ReplicationTask) (clock : Nat → Int)
    (w : E.World) {p : TaskProgram Outcome} {m : E.Moment} (hi : t.IsIdentified w)
    (hd : t.HasNamedDatabase w)
    (h : E.ReachesFreely (fun _ _ => True) (t.program o) { world := w, clock } p m) :
    t.Framed o w m := by
  have hensures : EnsuresFinishes E o t w (fun _ _ => True) (t.program o) { world := w, clock } :=
    program_finishes rfl rfl
  have hstart : t.Framed o w { world := w, clock } :=
    ⟨rfl, fun _ _ => rfl, fun _ _ hname => hname, fun _ hc => nomatch hc⟩
  have hframed := hensures.invariant (fun _ _ hm => hm)
    (fun _ _ _ _ hmakes ha hm => hm.step hi hd hmakes ha) hstart
  exact (hframed.reaches h).holds (fun _ _ => rfl) (fun _ _ hm => hm.2) fun _ _ hm => hm.2

theorem framed_of_reaches_sample :
    (Sample.partners.upTo (Sample.task.program Sample.setup) 30
        { world := Sample.world, clock := fun _ => 7 }).1 =
        .done { status := .successful, bytes := 3 } ∧
      Sample.task.Framed Sample.setup Sample.world
        (Sample.partners.upTo (Sample.task.program Sample.setup) 30
          { world := Sample.world, clock := fun _ => 7 }).2 := by
  refine ⟨rfl, framed_of_reaches Sample.partners Sample.setup Sample.task (fun _ => 7) Sample.world
    Sample.isIdentified ?_ (Partners.reachesFreely_upTo (fun _ _ _ _ => trivial) _ 30 _)⟩
  intro d hd
  cases hd
  rfl

end CatalogReplication.ReplicationTask
