import CatalogReplication.Proofs.Interleaving
import CatalogReplication.Proofs.Race.Effect

/-!
# One task among the others

What one of the tasks for partitions of one table does, whatever the others do between its calls:
it succeeds and leaves nothing to do for its partition, or it is refused because another task
created the table in the meantime, before it touched anything of its own
(`Race.Plan.partition_goes`). A task that runs alone is not refused.
-/

namespace CatalogReplication.Task.Race.Plan

open TaskProgram
open Catalog (Request View)

-- comparing places must not compute their texts
attribute [local irreducible] Lineup.target

variable {E : Partners} {ι : Type} {r : Race E ι}

section

variable (p : r.Plan) (alone : Prop) (i : ι)

/-- What may happen to the world between two calls of a task; nothing happens to the tables if it
runs alone. -/
structure Rely (w w' : E.World) : Prop where
  kept : p.Kept i w w'
  tables : alone → w'.view.table = w.view.table

/-- A task ends well, or it is refused because another one created the table in the meantime. -/
def Ended {α : Type} (good : α → E.World → Prop) (a : Except Failure α) (w : E.World) : Prop :=
  (∃ x, a = .ok x ∧ good x w) ∨
    (a = .error (.catalog (.tableExists r.table.spec)) ∧ ¬ alone ∧ p.Fresh i w ∧
      (w.view.table r.table.spec).isSome = true)

/-- Each call of a procedure has an effect that the others can bear, and the procedure ends well or
is refused, whatever the others do. -/
abbrev Goes {α : Type} (good : α → E.World → Prop) (q : TaskProgram α) (m : E.Moment) : Prop :=
  q.Ensures (Program.Among E.serve fun m m' => p.Rely alone i m.world m'.world) (fun _ m => m)
    (fun c m => p.Effect i m.world (E.serve c m).2.world)
    (fun a m => p.Ended alone i good a m.world) m

end

variable {p : r.Plan} {alone : Prop} {i : ι} {w w' w'' : E.World} {m : E.Moment} {α β : Type}
  {good : α → E.World → Prop}

theorem Rely.refl : p.Rely alone i w w := ⟨.refl, fun _ => rfl⟩

theorem Rely.trans (h : p.Rely alone i w w') (h' : p.Rely alone i w' w'') :
    p.Rely alone i w w'' :=
  ⟨h.kept.trans h'.kept, fun ha => (h'.tables ha).trans (h.tables ha)⟩

/-! ### Rules -/

theorem goes_done {x : α} (h : good x m.world) : p.Goes alone i good (.done x) m := .inl ⟨x, rfl, h⟩

/-- One procedure after the other: a refusal ends both. -/
theorem goes_bind {good' : β → E.World → Prop} {q : TaskProgram α} {f : α → TaskProgram β}
    (h : p.Goes alone i good q m)
    (hnext : ∀ x (m' : E.Moment), good x m'.world → p.Goes alone i good' (f x) m') :
    p.Goes alone i good' (q.bind f) m := by
  refine Program.Ensures.bind h (fun x m' hx => ?_) fun e m' he => ?_
  · obtain ⟨y, hy, hgood⟩ | ⟨hy, -⟩ := hx
    · cases hy
      exact hnext x m' hgood
    · cases hy
  · obtain ⟨y, hy, -⟩ | ⟨hy, hrefused⟩ := he
    · cases hy
    · cases hy
      exact .inr ⟨rfl, hrefused⟩

/-- A call that looks. -/
theorem goes_look {c : Call} {v : c.Answer} {f : c.Answer → TaskProgram α}
    (hlook : E.Looks c m.world v)
    (hnext : ∀ m' : E.Moment, p.Rely alone i m.world m'.world → p.Goes alone i good (f v) m') :
    p.Goes alone i good ((Program.perform c).bind f) m := by
  obtain ⟨hanswer, hworld⟩ := hlook m rfl
  refine ⟨?_, fun a m' ha => ?_⟩
  · show p.Effect i m.world (E.serve c m).2.world
    rw [hworld]
    exact .nothing
  · obtain ⟨rfl, hrely⟩ := ha
    rw [hworld] at hrely
    rw [hanswer]
    exact hnext m' hrely

/-- An event at the end of a procedure. -/
theorem goes_emit {spec : Spec} {kind : EventKind} {details : List (String × Value)}
    {good : Unit → E.World → Prop} (h : ∀ w', p.Rely alone i m.world w' → good () w') :
    p.Goes alone i good (emit spec kind details) m := by
  unfold emit
  rw [← Program.bind_done (Program.perform _)]
  exact goes_look (Partners.looks_hear _ _) fun m' hm' => goes_done (h _ hm')

/-- A request that the destination accepts. -/
theorem goes_accepted {q : Request} {f : q.Answer → TaskProgram α}
    (hr : m.world.view.rejection? q = none)
    (hnext : ∀ now a (w' : E.World), w'.source = m.world.source → w'.files = m.world.files →
      m.world.view.Accepts now q a w'.view →
        p.Effect i m.world w' ∧
          ∀ m' : E.Moment, p.Rely alone i w' m'.world → p.Goes alone i good (f a) m') :
    p.Goes alone i good ((Program.perform (Call.destination q)).bind f) m := by
  obtain ⟨a, ha, hview⟩ :
      ∃ a, (E.destination.serve (m.clock 0) q m.world.destination).1 = .ok a ∧ _ :=
    E.destination.accepts hr
  have hserved := hnext (m.clock 0) a (E.serve (.destination q) m).2.world rfl rfl hview
  refine ⟨hserved.1, fun b m' hb => ?_⟩
  obtain ⟨rfl, hrely⟩ := hb
  have hanswer : (E.serve (.destination q) m).1 = .ok a := ha
  rw [hanswer]
  exact hserved.2 m' hrely

/-- Creating the table where it is already: the task is refused. -/
theorem goes_refused {q : Request} {f : q.Answer → TaskProgram α}
    (hr : m.world.view.rejection? q = some (.tableExists r.table.spec)) (ha : ¬ alone)
    (hf : p.Fresh i m.world) (ht : (m.world.view.table r.table.spec).isSome = true) :
    p.Goes alone i good ((Program.perform (Call.destination q)).bind f) m := by
  have hserve : E.destination.serve (m.clock 0) q m.world.destination
      = (.error (.catalog (.tableExists r.table.spec)), m.world.destination) :=
    E.destination.rejects hr
  have hanswer : (E.serve (.destination q) m).1
      = .error (.catalog (.tableExists r.table.spec)) := congrArg Prod.fst hserve
  have hworld : (E.serve (.destination q) m).2.world = m.world := by
    show ({ m.world with destination := _ } : E.World) = m.world
    rw [hserve]
  refine ⟨?_, fun b m' hb => ?_⟩
  · show p.Effect i m.world (E.serve (.destination q) m).2.world
    rw [hworld]
    exact .nothing
  · obtain ⟨rfl, hrely⟩ := hb
    rw [hworld] at hrely
    rw [hanswer]
    exact .inr ⟨rfl, ha, hrely.kept.fresh hf, hrely.kept.table ht⟩

/-- Copying the data of the partition where it may go. -/
theorem goes_copy {tags : List Value} {f : Except Transfer.Error Int → TaskProgram α}
    (hpresent : (E.carrier.tree (r.location i) m.world.files).isSome = true)
    (hnext : ∀ n (w' : E.World), 0 ≤ n → w'.source = m.world.source →
      w'.destination = m.world.destination →
      E.carrier.tree (r.target i) w'.files = E.carrier.tree (r.location i) m.world.files →
      (∀ a, E.carrier.Apart a (r.target i) →
        E.carrier.tree a w'.files = E.carrier.tree a m.world.files) →
      ∀ m' : E.Moment, p.Rely alone i w' m'.world → p.Goes alone i good (f (.ok n)) m') :
    p.Goes alone i good
      ((tryTransfer (.copy (r.location i) (r.target i) tags)).bind f) m := by
  have hapart := r.targets_apart i i
  obtain ⟨n, files, hn, hserve⟩ := r.dependable _ _ tags m.world.files hapart hpresent
  obtain ⟨htree, hrest⟩ := E.carrier.tree_copy hserve hapart
  have hanswer : (E.serve (.transfer (.copy (r.location i) (r.target i) tags)) m).1 = .ok n :=
    congrArg Prod.fst hserve
  have hworld : (E.serve (.transfer (.copy (r.location i) (r.target i) tags)) m).2.world
      = { m.world with files } := by
    show ({ m.world with files := _ } : E.World) = _
    rw [hserve]
  refine ⟨?_, fun b m' hb => ?_⟩
  · show p.Effect i m.world
      (E.serve (.transfer (.copy (r.location i) (r.target i) tags)) m).2.world
    rw [hworld]
    exact .copied rfl rfl hrest
  · obtain ⟨rfl, hrely⟩ := hb
    rw [hworld] at hrely
    rw [hanswer]
    exact hnext n { m.world with files } hn rfl rfl htree hrest m' hrely

/-- The policy lets everything be overwritten. -/
theorem goes_checkConflict {spec : Spec} {parameters : Parameters} {f : Unit → TaskProgram α}
    (hnext : p.Goes alone i good (f ()) m) :
    p.Goes alone i good ((checkConflict r.setup spec parameters).bind f) m := by
  unfold checkConflict ConflictPolicy.check
  rw [r.logs]
  by_cases h : parameters.isReplicaOf r.setup.source
  · simp only [if_pos h]
    exact hnext
  · simp only [if_neg h]
    exact hnext

/-! ### Making the database -/

/-- After the database was made, or found to be there. -/
theorem goes_ensureDatabase {spec : Spec} {f : Unit → TaskProgram α} (hc : p.Course m.world)
    (hn : r.NeedsDatabase i)
    (hnext : ∀ m' : E.Moment, p.Rely alone i m.world m'.world → r.HasDatabase m'.world →
      p.Goes alone i good (f ()) m') :
    p.Goes alone i good ((ensureDatabase r.setup spec r.table.database).bind f) m := by
  have hlook : E.Looks (.source (.getDatabase r.table.database)) m.world
      (r.start.sourceView.database r.table.database) :=
    Partners.looks_source rfl fun _ _ _ ha => by rw [ha.1, hc.sourceView]
  unfold ensureDatabase
  simp only [Program.bind_eq_bind, Program.pure_eq_done, Program.bind_assoc]
  refine goes_look hlook fun m₁ h₁ => ?_
  rw [p.houses]
  refine goes_accepted rfl fun now a w₂ hs hf hview => ?_
  have hv : w₂.view = m₁.world.view.ensureDatabase p.database := hview.2
  have hrely : p.Rely alone i m₁.world w₂ :=
    ⟨.of_housed hs hf hn hv, fun _ => by rw [hv, View.table_ensureDatabase]⟩
  have hdatabase : r.HasDatabase w₂ := hasDatabase_of_ensureDatabase hv
  refine ⟨.housed hs hf hn hv, fun m₂ h₂ => ?_⟩
  have hgoes : ∀ m' : E.Moment, p.Rely alone i w₂ m'.world → p.Goes alone i good (f ()) m' :=
    fun m' h' => hnext m' ((h₁.trans hrely).trans h') (h'.kept.hasDatabase hdatabase)
  cases a with
  | false => exact hgoes m₂ h₂
  | true => exact goes_look (Partners.looks_hear _ _) fun m₃ h₃ => hgoes m₃ (h₂.trans h₃)

/-! ### Updates -/

section

variable {ρ : Type} [Catalogued ρ] [DecidableEq ρ] {item : Item ρ} {x : ρ} {n : Int}
  {good : Outcome → E.World → Prop} {P : E.World → Prop}

/-- An update from where the record that is there was looked up. -/
theorem goes_update (hx : item.Wants r.setup w x)
    (hcarry : ∀ m' : E.Moment, p.Rely alone i m.world m'.world →
      p.Goes alone i good (Item.carry r.setup item (item.existing w) x) m') :
    p.Goes alone i good
      (update r.setup item.spec item.ownsData item.record (item.existing w)) m := by
  rw [Item.update_eq, Item.expect_of_wants hx]
  simp only [Program.done_bind]
  cases hexisting : item.existing w with
  | none =>
    rw [hexisting] at hcarry
    exact hcarry m .refl
  | some e =>
    rw [hexisting] at hcarry
    exact goes_look (Partners.looks_hear _ _) fun m₁ h₁ => goes_checkConflict (hcarry m₁ h₁)

/-- An update from where the data is in place. -/
theorem goes_finish {existing : Option ρ} (hP : ∀ {w w'}, p.Rely alone i w w' → P w → P w')
    (hn : 0 ≤ n) (h : p.Goes alone i (fun _ => P) (publish r.setup item.spec existing x) m) :
    p.Goes alone i (fun out w => out.isSuccessful = true ∧ P w)
      (Item.finish r.setup item existing x n) m := by
  unfold Item.finish
  refine goes_bind h fun _ m₁ h₁ => ?_
  refine goes_look (Partners.looks_hear _ _) fun m₂ h₂ => ?_
  obtain ⟨k, rfl⟩ := Int.eq_ofNat_of_zero_le hn
  exact goes_done ⟨rfl, hP h₂ h₁⟩

end

/-! ### The table -/

/-- The table is there, and the task has not begun with its partition. -/
def Tabled (p : r.Plan) (i : ι) (w : E.World) : Prop := p.Fresh i w ∧ r.HasTable w

theorem Rely.tabled (h : p.Rely alone i w w') (hw : p.Tabled i w) : p.Tabled i w' :=
  ⟨h.kept.fresh hw.1, h.kept.hasTable hw.2⟩

theorem not_hasTable_of_missing (h : r.start.view.table r.table.spec = none) :
    ¬ r.HasTable r.start := by
  intro ht
  obtain ⟨e, he, -⟩ := cascadeReason?_eq_none_iff.1 ht
  rw [h] at he
  cases he

/-- What is not there in the course of the race was not there at the start. -/
theorem Course.not_hasTable (h : p.Course w) (hw : ¬ r.HasTable w) : ¬ r.HasTable r.start := by
  rcases h.table with htable | ⟨hc, -⟩
  · rwa [HasTable, htable] at hw
  · exact hc

theorem isSome_table_of_hasTable (h : r.HasTable w) :
    (w.view.table r.table.spec).isSome = true := by
  obtain ⟨e, he, -⟩ := cascadeReason?_eq_none_iff.1 h
  rw [he]
  rfl

/-- What a task that has to begin with the table finds: no table, the table of the start, or the
table as another task wrote it. -/
inductive Finds (p : r.Plan) (w : E.World) (x : TableRecord) : Prop where
  | missing (hx : x = p.table) (hs : r.start.view.table r.table.spec = none)
      (hw : w.view.table r.table.spec = none)
  | other (hx : x = p.table) (hw : (w.view.table r.table.spec).isSome = true)
      (hd : Action.decide (r.tableItem.existing w) x = .alter)
  | written (hw : r.HasTable w) (hd : Action.decide (r.tableItem.existing w) x = .keep)

/-- Whatever a task finds, the builder makes a record of it. -/
theorem exists_finds (h : p.Course w) (hc : ¬ r.HasTable r.start) :
    ∃ x, r.tableItem.Wants r.setup w x ∧ p.Finds w x := by
  rcases h.table with htable | ⟨-, time, id, created, htable⟩
  · refine ⟨p.table, p.wants_table.congr htable, ?_⟩
    cases hstart : r.start.view.table r.table.spec with
    | none => exact .missing rfl hstart (htable.trans hstart)
    | some e =>
      have hexisting : r.tableItem.existing w = some e := htable.trans hstart
      refine .other rfl (by rw [htable, hstart]; rfl) ?_
      rw [hexisting]
      unfold Action.decide
      refine if_neg fun hcomparable => hc ?_
      -- with the comparable part of what is wanted it had the schema of the source
      have hschema := (schema_eq_of_comparable_eq hcomparable).trans p.schema_table
      exact cascadeReason?_eq_none_iff.2 ⟨e, hstart, decide_eq_true hschema.symm⟩
  · have hexisting : r.tableItem.existing w = some (Catalog.stamp time id created p.table) := htable
    have hcomparable := comparable_stamp time id created p.table
    obtain ⟨b, hb, hbuild⟩ := p.wants_table
    obtain rfl : r.builder = b := Option.some.inj (r.builds.symm.trans hb)
    obtain ⟨x, hx, hcomparable'⟩ := Builder.build_again r.textual hbuild hcomparable
    exact ⟨x, ⟨r.builder, hb, by rw [hexisting]; exact hx⟩,
      .written (hasTable_of_stamp htable)
        (Action.decide_eq_keep_iff.2 ⟨_, hexisting, hcomparable'.symm⟩)⟩

/-- Creating the table, as it was found missing. -/
theorem createTable_goes {spec : Spec} (hf : p.Fresh i m.world)
    (hs : r.start.view.table r.table.spec = none)
    (ha : alone → m.world.view.table r.table.spec = none) :
    p.Goes alone i (fun _ => p.Tabled i)
      ((ensureDatabase r.setup spec p.table.database).bind fun _ =>
        (write (.createTable p.table)).bind fun _ => emit spec .metadataCreated []) m := by
  have hdatabase : p.table.database = r.table.database := congrArg Spec.database p.spec_table
  rw [hdatabase]
  refine goes_ensureDatabase hf.course (.inl hs) fun m₁ h₁ hd => ?_
  have hf₁ := h₁.kept.fresh hf
  unfold write
  simp only [Program.bind_eq_bind, Program.pure_eq_done, Program.bind_assoc, Program.done_bind]
  cases ht : m₁.world.view.table r.table.spec with
  | none =>
    refine goes_accepted (View.createTable_accepted.2 ⟨?_, ?_⟩) fun now a w₂ hs₂ hf₂ hview => ?_
    · rw [hdatabase]
      exact hd
    · rw [p.spec_table, ht]
      rfl
    · obtain ⟨id, hv⟩ := hview
      rw [p.spec_table] at hv
      have hc := not_hasTable_of_missing hs
      refine ⟨.tabled hs₂ hf₂ hc (fun _ => hd) hv, fun m₂ h₂ => goes_emit fun w₃ h₃ => ?_⟩
      have hkept : p.Kept i m₁.world w₂ := .of_tabled hs₂ hf₂ hc (fun _ => hd) hv
      exact h₃.tabled (h₂.tabled
        ⟨hkept.fresh hf₁, hasTable_of_stamp (table_of_putTable hv)⟩)
  | some t =>
    have hsome : (m₁.world.view.table r.table.spec).isSome = true := by rw [ht]; rfl
    refine goes_refused ?_ (fun halone => ?_) hf₁ hsome
    · have hd' : (m₁.world.view.database p.table.database).isNone = false := by
        rw [hdatabase, ← Option.not_isSome, hd]
        rfl
      simp [View.rejection?, hd', p.spec_table, ht]
    · rw [h₁.tables halone, ha halone] at ht
      cases ht

/-- Altering the table, as it was found with another schema. -/
theorem alterTable_goes {spec : Spec} (hf : p.Fresh i m.world) (hc : ¬ r.HasTable r.start)
    (ht : (m.world.view.table r.table.spec).isSome = true) :
    p.Goes alone i (fun _ => p.Tabled i)
      ((write (.alterTable p.table)).bind fun _ => emit spec .metadataAltered []) m := by
  unfold write
  simp only [Program.bind_eq_bind, Program.pure_eq_done, Program.bind_assoc, Program.done_bind]
  refine goes_accepted (View.alterTable_accepted.2 ?_) fun now a w₁ hs₁ hf₁ hview => ?_
  · rw [p.spec_table]
    exact ht
  · obtain ⟨id, created, hv⟩ := hview
    rw [p.spec_table] at hv
    have hd : r.start.view.table r.table.spec = none → r.HasDatabase m.world :=
      fun hs => hf.course.housed hs ht
    refine ⟨.tabled hs₁ hf₁ hc hd hv, fun m₁ h₁ => goes_emit fun w₂ h₂ => ?_⟩
    have hkept : p.Kept i m.world w₁ := .of_tabled hs₁ hf₁ hc hd hv
    exact h₂.tabled (h₁.tabled ⟨hkept.fresh hf, hasTable_of_stamp (table_of_putTable hv)⟩)

/-- **Bringing the table up to date**: afterwards it is there, unless another task created it in the
meantime. -/
theorem table_goes (hf : p.Fresh i m.world) (hc : ¬ r.HasTable r.start) :
    p.Goes alone i (fun out w => out.isSuccessful = true ∧ p.Tabled i w)
      (Task.table r.setup r.table.spec) m := by
  refine goes_look (looks_sourceTable _ _) fun m₁ h₁ => ?_
  have hf₁ := h₁.kept.fresh hf
  have htable : m.world.sourceView.table r.table.spec.tableSpec = some r.table := by
    rw [hf.course.sourceView]
    exact r.table_found
  rw [htable]
  refine goes_look (looks_destinationTable _ _) fun m₂ h₂ => ?_
  obtain ⟨x, hx, hfinds⟩ := exists_finds hf₁.course hc
  show p.Goes alone i _ (update r.setup r.tableItem.spec r.tableItem.ownsData r.tableItem.record
    (r.tableItem.existing m₁.world)) m₂
  refine goes_update hx fun m₃ h₃ => ?_
  have h := h₂.trans h₃
  have hf₃ := h.kept.fresh hf₁
  have howns : r.tableItem.ownsData = false := by
    show (!r.table.isPartitioned) = false
    rw [r.partitioned]
    rfl
  unfold Item.carry
  rw [howns]
  refine goes_finish (fun h => h.tabled) (Int.le_refl 0) ?_
  unfold publish
  cases hfinds with
  | missing hx hs hw =>
    subst hx
    have hd : Action.decide (r.tableItem.existing m₁.world) p.table = .create :=
      Action.decide_eq_create_iff.2 hw
    rw [hd]
    exact createTable_goes hf₃ hs fun halone => by rw [h.tables halone, hw]
  | other hx hw hd =>
    subst hx
    rw [hd]
    exact alterTable_goes hf₃ hc (h.kept.table hw)
  | written hw hd =>
    rw [hd]
    exact goes_emit fun w₄ h₄ => h₄.tabled (h.tabled ⟨hf₁, hw⟩)

/-! ### The data of the partition -/

/-- The table is there and the data is in place; the partition is as it was. -/
structure Placed (p : r.Plan) (i : ι) (w : E.World) : Prop where
  course : p.Course w
  hasTable : r.HasTable w
  partition : w.view.partition (r.spec i) = r.start.view.partition (r.spec i)
  tree : r.Delivers i (E.carrier.tree (r.target i) w.files)

theorem Rely.placed (h : p.Rely alone i w w') (hw : p.Placed i w) : p.Placed i w' where
  course := h.kept.course hw.course
  hasTable := h.kept.hasTable hw.hasTable
  partition := h.kept.partition.trans hw.partition
  tree := by rw [h.kept.tree]; exact hw.tree

/-- Data that is in place at the start stays as it is. -/
theorem Tabled.placed (h : p.Tabled i w) (hi : r.IsInPlace i) : p.Placed i w :=
  ⟨h.1.course, h.2, h.1.partition, .inl ⟨hi, h.1.tree⟩⟩

theorem tree_location (h : p.Course w) : E.carrier.tree (r.location i) w.files
    = E.carrier.tree (r.location i) r.start.files :=
  h.files _ fun j => r.targets_apart i j

/-- A data step that leaves the data in place. -/
def Delivered (p : r.Plan) (i : ι) (d : DataResult) (w : E.World) : Prop :=
  d.outcome = none ∧ 0 ≤ d.bytes ∧ p.Placed i w

theorem copyData_goes {spec : Spec} (h : p.Tabled i m.world) :
    p.Goes alone i (p.Delivered i)
      (copyData r.setup.dataOptions spec (r.location i) (r.target i)) m := by
  have hagrees : E.carrier.agrees (r.location i) (r.target i) m.world.files
      = E.carrier.agrees (r.location i) (r.target i) r.start.files :=
    E.carrier.agrees_congr (tree_location h.1.course) h.1.tree
  refine goes_look (Partners.looks_equal _ _ _) fun m₁ h₁ => ?_
  rw [hagrees]
  cases hi : E.carrier.agrees (r.location i) (r.target i) r.start.files with
  | true =>
    refine goes_look (Partners.looks_hear _ _) fun m₂ h₂ => goes_done ?_
    exact ⟨rfl, Int.le_refl 0, ((h₁.trans h₂).tabled h).placed hi⟩
  | false =>
    have hpresent : ∀ {w : E.World}, p.Course w →
        (E.carrier.tree (r.location i) w.files).isSome = true := fun hc => by
      rw [tree_location hc]
      exact r.present i
    have hallow : r.setup.dataOptions.allowCopy = true := r.copies
    simp only [hallow, Bool.not_true, Bool.false_eq_true, if_false]
    have ht₁ := h₁.tabled h
    refine goes_look (Partners.looks_exists _ _) fun m₂ h₂ => ?_
    rw [hpresent ht₁.1.course]
    have ht₂ := h₂.tabled ht₁
    refine goes_copy (hpresent ht₂.1.course) fun n w₃ hn hs hd htree hrest m₃ h₃ => ?_
    refine goes_look (Partners.looks_hear _ _) fun m₄ h₄ => goes_done ⟨rfl, hn, ?_⟩
    have hview := view_eq_of_destination_eq hd
    have hplaced : p.Placed i w₃ := by
      refine ⟨Effect.course (.copied hs hd hrest) ht₂.1.course, ?_, ?_, .inr ⟨?_, ?_⟩⟩
      · rw [HasTable, hview]
        exact ht₂.2
      · rw [hview]
        exact ht₂.1.partition
      · rw [IsInPlace, hi]
        exact Bool.false_ne_true
      · rw [htree, tree_location ht₂.1.course]
    exact (h₃.trans h₄).placed hplaced

/-- **The data step** leaves the data in place. -/
theorem reconcileData_goes {spec : Spec} (h : p.Tabled i m.world) :
    p.Goes alone i (p.Delivered i)
      (reconcileData r.setup.dataOptions spec (some (r.location i)) (some (r.target i))) m := by
  unfold reconcileData
  rcases eq_or_ne (r.location i) (r.target i) with hab | hab
  · simp only [if_pos hab]
    have hi : r.IsInPlace i :=
      E.carrier.agrees_of_tree_eq (congrArg (E.carrier.tree · r.start.files) hab) (r.present i)
    refine goes_look (Partners.looks_hear _ _) fun m₁ h₁ => goes_done ?_
    exact ⟨rfl, Int.le_refl 0, (h₁.tabled h).placed hi⟩
  · simp only [if_neg hab]
    have hroot : r.setup.dataOptions.stagingRoot.isNull = true := r.unstaged
    unfold reconcileLocations
    rw [hroot]
    exact copyData_goes h

/-! ### The partition -/

/-- Where the table is there but the partition was not missing, nobody needs the database, or it is
there. -/
theorem Placed.hasDatabase (h : p.Placed i w)
    (hp : r.start.view.partition (r.spec i) ≠ none) (hn : r.NeedsDatabase i) :
    r.HasDatabase w :=
  h.course.housed (hn.resolve_right hp) (isSome_table_of_hasTable h.hasTable)

/-- Writing the partition is the last thing to do. -/
theorem Placed.done {time id : Int} {created : Option Int} (h : p.Placed i w)
    (hd : r.HasDatabase w ∨ ¬ r.NeedsDatabase i) (hw : p.Writes i) (hs : w'.source = w.source)
    (hf : w'.files = w.files)
    (hv : w'.view = w.view.putPartition (r.spec i)
      (Catalog.stamp time id created (p.partition i))) : p.Done i w' where
  course := Effect.course (.partitioned hs hf hv) h.course
  hasTable := by rw [HasTable, hv]; exact h.hasTable
  hasDatabase hn := by rw [HasDatabase, hv]; exact hd.resolve_right fun hno => hno hn
  partition := .inr ⟨hw, time, id, created, by rw [hv]; exact Function.update_self ..⟩
  tree := by rw [hf]; exact h.tree

theorem database_spec : (r.spec i).database = r.table.database :=
  congrArg Spec.database (r.partition_table i)

/-- Adding the partition, as it was found missing. -/
theorem addPartition_goes {spec : Spec} (h : p.Placed i m.world)
    (hs : r.start.view.partition (r.spec i) = none) :
    p.Goes alone i (fun _ => p.Done i)
      ((ensureDatabase r.setup spec (p.partition i).spec.database).bind fun _ =>
        (write (.addPartition (p.partition i))).bind fun _ => emit spec .metadataCreated []) m := by
  rw [p.spec_partition, database_spec]
  refine goes_ensureDatabase h.course (.inr hs) fun m₁ h₁ hd => ?_
  have hp := h₁.placed h
  have hw : p.Writes i := by
    rw [Writes, hs, Action.decide_eq_create_iff.2 rfl]
    exact nofun
  unfold write
  simp only [Program.bind_eq_bind, Program.pure_eq_done, Program.bind_assoc, Program.done_bind]
  refine goes_accepted (View.addPartition_accepted.2 ⟨?_, ?_⟩) fun now a w₂ hs₂ hf₂ hview => ?_
  · rw [p.spec_partition, r.partition_table]
    exact isSome_table_of_hasTable hp.hasTable
  · rw [p.spec_partition, hp.partition, hs]
    rfl
  · obtain ⟨id, hv⟩ := hview
    rw [p.spec_partition] at hv
    refine ⟨.partitioned hs₂ hf₂ hv, fun m₂ h₂ => goes_emit fun w₃ h₃ => ?_⟩
    exact (h₂.trans h₃).kept.done (hp.done (.inl hd) hw hs₂ hf₂ hv)

/-- Altering the partition, as it was found to differ. -/
theorem alterPartition_goes {spec : Spec} (h : p.Placed i m.world)
    (hs : Action.decide (r.start.view.partition (r.spec i)) (p.partition i) = .alter) :
    p.Goes alone i (fun _ => p.Done i)
      ((write (.alterPartition (r.spec i) (p.partition i))).bind fun _ =>
        emit spec .metadataAltered []) m := by
  have hw : p.Writes i := by
    rw [Writes, hs]
    exact nofun
  have hsome : r.start.view.partition (r.spec i) ≠ none := fun hnone => by
    rw [hnone, Action.decide_eq_create_iff.2 rfl] at hs
    cases hs
  unfold write
  simp only [Program.bind_eq_bind, Program.pure_eq_done, Program.bind_assoc, Program.done_bind]
  refine goes_accepted (View.alterPartition_accepted.2 ?_) fun now a w₁ hs₁ hf₁ hview => ?_
  · rw [h.partition]
    exact Option.isSome_iff_ne_none.2 hsome
  · obtain ⟨id, created, hv⟩ := hview
    refine ⟨.partitioned hs₁ hf₁ hv, fun m₁ h₁ => goes_emit fun w₂ h₂ => ?_⟩
    have hd : r.HasDatabase m.world ∨ ¬ r.NeedsDatabase i :=
      Classical.or_iff_not_imp_right.2 fun hn =>
        h.hasDatabase hsome (Classical.not_not.1 hn)
    exact (h₁.trans h₂).kept.done (h.done hd hw hs₁ hf₁ hv)

/-- A partition that is to be left as it is. -/
theorem Placed.kept_done (h : p.Placed i w)
    (hs : Action.decide (r.start.view.partition (r.spec i)) (p.partition i) = .keep) :
    p.Done i w where
  course := h.course
  hasTable := h.hasTable
  hasDatabase := h.hasDatabase fun hnone => by
    rw [hnone, Action.decide_eq_create_iff.2 rfl] at hs
    cases hs
  partition := .inl ⟨fun hw => hw hs, h.partition⟩
  tree := h.tree

theorem publishPartition_goes (h : p.Placed i m.world) :
    p.Goes alone i (fun _ => p.Done i)
      (publish r.setup (r.spec i) (r.start.view.partition (r.spec i)) (p.partition i)) m := by
  unfold publish
  cases hs : Action.decide (r.start.view.partition (r.spec i)) (p.partition i) with
  | create => exact addPartition_goes h (Action.decide_eq_create_iff.1 hs)
  | alter => exact alterPartition_goes h hs
  | keep => exact goes_emit fun w₁ h₁ => h₁.kept.done (h.kept_done hs)

/-- **Bringing the partition up to date**, once its table is there. -/
theorem updatePartition_goes (h : p.Tabled i m.world) :
    p.Goes alone i (fun out w => out.isSuccessful = true ∧ p.Done i w)
      (updatePartition r.setup (r.spec i) (r.partition i)) m := by
  refine goes_look (looks_destinationPartition _ _) fun m₁ h₁ => ?_
  have hexisting : (r.item i).existing m.world = (r.item i).existing r.start := h.1.partition
  show p.Goes alone i _ (update r.setup (r.item i).spec (r.item i).ownsData (r.item i).record
    ((r.item i).existing m.world)) m₁
  refine goes_update ((p.wants_partition i).congr hexisting) fun m₂ h₂ => ?_
  have ht := (h₁.trans h₂).tabled h
  rw [hexisting]
  unfold Item.carry
  have hsource : (Maintained.body (r.item i).record).location = some (r.location i) := r.located i
  have htarget : (Maintained.body (p.partition i)).location = some (r.target i) :=
    p.location_partition i
  rw [hsource, htarget]
  have hdata : p.Goes alone i (p.Delivered i) (reconcileData r.setup.dataOptions (r.item i).spec
      (some (r.location i)) (some (r.target i))) m₂ := reconcileData_goes ht
  refine goes_bind hdata fun d m₃ h₃ => ?_
  obtain ⟨hout, hn, hplaced⟩ := h₃
  simp only [hout]
  exact goes_finish (fun h => h.kept.done) hn (publishPartition_goes hplaced)

/-- **A task among the others** succeeds and leaves nothing to do for its partition, or it is
refused because another one created the table in the meantime. -/
theorem partition_goes (h : p.Fresh i m.world) :
    p.Goes alone i (fun out w => out.isSuccessful = true ∧ p.Done i w)
      ((r.task i).program r.setup) m := by
  refine goes_look (looks_sourcePartition _ _) fun m₁ h₁ => ?_
  rw [h.course.sourceView, r.partition_found i]
  have hf₁ := h₁.kept.fresh h
  refine goes_look (looks_sourceTable _ _) fun m₂ h₂ => ?_
  have hf₂ := h₂.kept.fresh hf₁
  refine goes_look (looks_destinationTable _ _) fun m₃ h₃ => ?_
  have hf₃ := h₃.kept.fresh hf₂
  have hspec : (r.spec i).tableSpec.tableSpec = r.table.spec := r.partition_table i
  rw [hf₁.course.sourceView, hspec, r.table_found]
  cases hreason : cascadeReason? r.table (m₂.world.view.table r.table.spec) with
  | none =>
    simp only [hreason]
    exact updatePartition_goes (h₃.tabled ⟨hf₂, hreason⟩)
  | some reason =>
    simp only [hreason]
    have hc : ¬ r.HasTable r.start := hf₂.course.not_hasTable fun ht => by
      rw [HasTable, hreason] at ht
      cases ht
    refine goes_look (Partners.looks_hear _ _) fun m₄ h₄ => ?_
    rw [r.partition_table]
    refine goes_bind (table_goes (h₄.kept.fresh hf₃) hc) fun out m₅ h₅ => ?_
    obtain ⟨hout, ht⟩ := h₅
    rw [hout]
    exact updatePartition_goes ht

end CatalogReplication.Task.Race.Plan
