import CatalogReplication.Proofs.Task.Consistency

/-!
# Data before metadata

Wherever a run is cut off, and whichever of its calls failed, the record of an object is as it was
before the run unless its data is in place (`ReplicationTask.data_before_metadata`). A task that
ends without success leaves the records of its kind alone, and the whole destination where the
cascade to a table failed.
-/

namespace CatalogReplication

open Catalog (View)
open CatalogReplication.Task
open TaskProgram

/-! ### Updates report no failure of a cascade -/

namespace Task

/-- Whether a call reports that the table of a partition could not be brought up to date. -/
def Call.isCascadeFailure : Call → Bool
  | .hear e => e.kind == .tableCascadeFailed
  | _ => false

/-- A procedure that doesn't report a failed cascade, whatever the answers are. -/
abbrev Steady {α : Type} (p : TaskProgram α) : Prop :=
  p.CallsOnly fun c => c.isCascadeFailure = false

variable {α : Type} {o : DataOptions} {spec : Spec} {a b : String}

/-- A call that is no such report, and then something steady. -/
theorem steady_perform {c : Call} {f : c.Answer → TaskProgram α} (h : c.isCascadeFailure = false)
    (hf : ∀ v, Steady (f v)) : Steady ((Program.perform c).bind f) := by
  have hcall : Steady (Program.perform c : TaskProgram c.Answer) := Program.callsOnly_perform h
  exact hcall.bind hf

theorem steady_emit {kind : EventKind} {details : List (String × Value)}
    {f : Unit → TaskProgram α} (h : (kind == .tableCascadeFailed) = false) (hf : Steady (f ())) :
    Steady ((emit spec kind details).bind f) := steady_perform h fun _ => hf

theorem steady_ofExcept {r : Except Failure α} : Steady (.ofExcept r : TaskProgram α) :=
  Program.callsOnly_ofExcept r

theorem steady_tryTransfer {r : Transfer.Request} {f : _ → TaskProgram α}
    (hf : ∀ a, Steady (f a)) : Steady ((tryTransfer r).bind f) := by
  refine ⟨rfl, fun a => ?_⟩
  rcases a with e | a
  · cases e with
    | transfer e => exact hf (.error e)
    | _ => trivial
  · exact hf (.ok a)

theorem steady_copyData : Steady (copyData o spec a b) := by
  refine steady_perform rfl fun agrees => ?_
  cases agrees with
  | true => exact steady_emit rfl trivial
  | false =>
    cases hallow : o.allowCopy with
    | false => exact steady_emit rfl trivial
    | true =>
      refine steady_perform rfl fun found => ?_
      cases found with
      | false => exact steady_emit rfl trivial
      | true => exact steady_tryTransfer fun r => by cases r <;> exact steady_emit rfl trivial

theorem steady_reconcileLocations : Steady (reconcileLocations o spec a b) := by
  unfold reconcileLocations
  cases o.stagingRoot.isNull with
  | true => exact steady_copyData
  | false =>
    refine steady_ofExcept.bind fun staged => steady_perform rfl fun agrees => ?_
    cases agrees with
    | true => exact steady_tryTransfer fun r => by cases r <;> exact steady_emit rfl trivial
    | false => exact steady_emit rfl steady_copyData

theorem steady_reconcileData {a b : Option String} : Steady (reconcileData o spec a b) := by
  unfold reconcileData
  cases a with
  | none => trivial
  | some a =>
    cases b with
    | none => trivial
    | some b =>
      simp only
      split
      · exact steady_emit rfl trivial
      · exact steady_reconcileLocations

theorem steady_write {r : Catalog.Request} : Steady (write r) :=
  steady_perform (f := fun _ => .done ()) rfl fun _ => trivial

section

variable {ρ : Type} [Catalogued ρ] [DecidableEq ρ] {o : Setup}

theorem steady_publish {existing : Option ρ} {x : ρ} : Steady (publish o spec existing x) := by
  unfold publish
  cases Action.decide existing x with
  | create =>
    have hdatabase : ∀ name, Steady (ensureDatabase o spec name) := fun name =>
      steady_perform rfl fun _ => steady_ofExcept.bind fun _ => steady_perform rfl fun made => by
        cases made with
        | true => exact Program.callsOnly_perform rfl
        | false => trivial
    exact (hdatabase _).bind fun _ => steady_write.bind fun _ => Program.callsOnly_perform rfl
  | alter => exact steady_write.bind fun _ => Program.callsOnly_perform rfl
  | keep => exact Program.callsOnly_perform rfl

theorem steady_finish {i : Item ρ} {existing : Option ρ} {x : ρ} {n : Int} :
    Steady (Item.finish o i existing x n) :=
  steady_publish.bind fun _ => steady_emit rfl steady_ofExcept

theorem steady_carry {i : Item ρ} {existing : Option ρ} {x : ρ} :
    Steady (Item.carry o i existing x) := by
  unfold Item.carry
  cases i.ownsData with
  | false => exact steady_finish
  | true =>
    refine steady_reconcileData.bind fun d => ?_
    cases d.outcome with
    | none => exact steady_finish
    | some out => trivial

/-- An update doesn't report a failed cascade. -/
theorem steady_update {i : Item ρ} {existing : Option ρ} :
    Steady (update o i.spec i.ownsData i.record existing) := by
  rw [Item.update_eq]
  have hexpect : Steady (expect o i.record existing) := by
    unfold expect
    cases o.builder with
    | none => trivial
    | some b => exact steady_ofExcept
  refine hexpect.bind fun x => ?_
  cases existing with
  | none => exact steady_carry
  | some e =>
    refine steady_emit rfl (Program.CallsOnly.bind ?_ fun _ => steady_carry)
    unfold checkConflict
    cases o.policy with
    | none => trivial
    | some policy => simp only; split <;> trivial

theorem steady_updatePartition {p : PartitionRecord} : Steady (updatePartition o spec p) :=
  steady_perform rfl fun _ => steady_update (i := .ofPartition spec p)

theorem steady_table : Steady (Task.table o spec) := by
  refine steady_perform rfl fun t => ?_
  cases t with
  | none => exact steady_emit rfl trivial
  | some t =>
    exact steady_perform rfl fun _ =>
      steady_update (i := .ofTable spec t)

end

end Task

/-! ### The way of a partition task -/

namespace Task.Cascade

variable {E : Partners} {o : Setup} {c : Cascade} {m m₀ m' : E.Moment} {q : TaskProgram Outcome}

/-- How far a partition task got: it is looking, or updating the partition, or trying the table, or
reporting that this failed, or updating the partition after the table. -/
inductive Passage (E : Partners) (o : Setup) (c : Cascade) (m₀ : E.Moment)
    (q : TaskProgram Outcome) (m' : E.Moment) : Prop where
  | looking (hw : m'.world = m₀.world) (hq : ∀ out, q ≠ .done out)
  | direct {m : E.Moment} (hw : m.world = m₀.world)
      (hlog : ∀ call ∈ m.log, call ∈ m₀.log ∨ call.isCascadeFailure = false)
      (h : E.Reaches (updatePartition o c.spec c.partition) m q m')
  | table {m : E.Moment} {p : TaskProgram Outcome} (hw : m.world = m₀.world)
      (h : E.Reaches (Task.table o c.spec.tableSpec) m p m') (hq : q = p.bind (c.afterTable o))
  | failed {m m₁ : E.Moment} {out : Outcome} (hw : m.world = m₀.world)
      (h : E.Reaches (Task.table o c.spec.tableSpec) m (.done out) m₁)
      (hout : out.isSuccessful = false) (hw' : m'.world = m₁.world)
  | after {m m₁ : E.Moment} {out : Outcome} (hw : m.world = m₀.world)
      (hlog : ∀ call ∈ m.log, call ∈ m₀.log ∨ call.isCascadeFailure = false)
      (h : E.Reaches (Task.table o c.spec.tableSpec) m (.done out) m₁)
      (hfrom : E.Reaches (Task.partition o c.spec) m₀
        (updatePartition o c.spec c.partition) m₁)
      (h' : E.Reaches (updatePartition o c.spec c.partition) m₁ q m')

/-- From where the table is tried. -/
theorem passage_of_reaches_afterTable (hw : m.world = m₀.world)
    (hlog : ∀ call ∈ m.log, call ∈ m₀.log ∨ call.isCascadeFailure = false)
    (hfrom : E.Reaches (Task.partition o c.spec) m₀
      ((Task.table o c.spec.tableSpec).bind (c.afterTable o)) m)
    (h : E.Reaches ((Task.table o c.spec.tableSpec).bind (c.afterTable o)) m q m') :
    Passage E o c m₀ q m' := by
  rcases h.of_bind with ⟨p, hp, rfl⟩ | ⟨out, m₁, htable, hrest⟩
  · exact .table hw hp rfl
  · have hpass := hfrom.trans (htable.bind (c.afterTable o))
    unfold afterTable at hrest hpass
    cases hout : out.isSuccessful with
    | true =>
      simp only [hout, if_true, Program.done_bind] at hrest hpass
      exact .after hw hlog htable hpass hrest
    | false =>
      simp only [hout, Bool.false_eq_true, if_false] at hrest
      rcases Partners.reaches_look (Partners.looks_hear _ m₁.world) rfl hrest with
        ⟨hm', -⟩ | ⟨m₂, hm₂, -, -, hlast⟩
      · exact .failed hw htable hout hm'
      · cases hlast with
        | here => exact .failed hw htable hout hm₂

/-- Every point that a partition task gets to is on its way. -/
theorem passage_of_reaches (hfound : c.Found m₀.world)
    (h : E.Reaches (Task.partition o c.spec) m₀ q m') : Passage E o c m₀ q m' := by
  rcases Partners.reaches_look (looks_sourcePartition m₀.world c.spec) rfl h with
    ⟨hm, hq⟩ | ⟨m₁, hm₁, hlog₁, hfrom₁, h₁⟩
  · exact .looking hm hq
  rw [hfound.partition] at hfrom₁ h₁
  rcases Partners.reaches_look (looks_sourceTable m₀.world c.spec.tableSpec) hm₁ h₁ with
    ⟨hm, hq⟩ | ⟨m₂, hm₂, hlog₂, hfrom₂, h₂⟩
  · exact .looking hm hq
  rcases Partners.reaches_look (looks_destinationTable m₀.world c.spec.tableSpec) hm₂ h₂ with
    ⟨hm, hq⟩ | ⟨m₃, hm₃, hlog₃, hfrom₃, h₃⟩
  · exact .looking hm hq
  have ht : m₀.world.sourceView.table c.spec.tableSpec.tableSpec = some c.table := hfound.table
  have hfrom := (hfrom₁.trans hfrom₂).trans hfrom₃
  rw [ht] at hfrom h₃
  cases hreason : c.reason? m₀.world with
  | none =>
    have hr : cascadeReason? c.table (m₀.world.view.table c.spec.tableSpec.tableSpec) = none :=
      hreason
    simp only [hr] at h₃
    refine .direct hm₃ (fun call hcall => ?_) h₃
    rw [hlog₃, hlog₂, hlog₁] at hcall
    simp only [List.mem_cons] at hcall
    rcases hcall with rfl | rfl | rfl | hcall
    · exact .inr rfl
    · exact .inr rfl
    · exact .inr rfl
    · exact .inl hcall
  | some reason =>
    have hr : cascadeReason? c.table (m₀.world.view.table c.spec.tableSpec.tableSpec) =
        some reason := hreason
    simp only [hr] at hfrom h₃
    rcases Partners.reaches_look (Partners.looks_hear _ m₀.world) hm₃ h₃ with
      ⟨hm, hq⟩ | ⟨m₄, hm₄, hlog₄, hfrom₄, h₄⟩
    · exact .looking hm hq
    refine passage_of_reaches_afterTable hm₄ (fun call hcall => ?_) (hfrom.trans hfrom₄) h₄
    rw [hlog₄, hlog₃, hlog₂, hlog₁] at hcall
    simp only [List.mem_cons] at hcall
    rcases hcall with rfl | rfl | rfl | rfl | hcall
    · exact .inr rfl
    · exact .inr rfl
    · exact .inr rfl
    · exact .inr rfl
    · exact .inl hcall

end Task.Cascade

/-! ### Records and data -/

/-- The data step of an item is behind it: it has no data of its own, or the data is in place. -/
def Task.Item.DataDone {ρ : Type} [Catalogued ρ] {E : Partners} (o : Setup) (i : Item ρ)
    (w : E.World) : Prop :=
  i.ownsData = true → ∃ b,
    o.source.rebase o.destination (.ofText? (Maintained.body i.record).location) = .ok b ∧
      InPlace E.carrier w.files (Maintained.body i.record).location b

theorem Task.Item.kept_or_done {ρ : Type} [Catalogued ρ] [DecidableEq ρ] {E : Partners} {o : Setup}
    {i : Item ρ} {w w' : E.World} (ha : i.DataApart E o) (hu : i.Underway o w w') :
    i.existing w' = i.existing w ∨ i.DataDone o w' := by
  cases hu with
  | early _ hd _ =>
    exact .inl (congrArg (fun s => Catalogued.find i.spec (E.destination.view s)) hd)
  | late _ hx _ hc _ =>
    exact .inr fun howns => ⟨_, rebase_of_wants hx, (settled_of_carried ha hx hc howns).inPlace⟩

namespace ReplicationTask

section

variable {E : Partners} (o : Setup)

/-- The record of the destination that a task is for is as it was. -/
def RecordKept (w w' : E.World) : ReplicationTask → Prop
  | table spec _ => w'.view.table spec.tableSpec = w.view.table spec.tableSpec
  | partition spec => w'.view.partition spec = w.view.partition spec

/-- The data step of a task is behind it. -/
def DataDone (w : E.World) : ReplicationTask → Prop
  | table spec _ =>
    ∃ t, w.sourceView.table spec.tableSpec = some t ∧ (Item.ofTable spec t).DataDone o w
  | partition spec =>
    ∃ p, w.sourceView.partition spec = some p ∧ (Item.ofPartition spec p).DataDone o w

end

variable {E : Partners} {o : Setup} {t : ReplicationTask} {w w' : E.World}

theorem kept_or_done (ha : t.DataApart o w) (hu : t.Underway o w w') :
    t.RecordKept w w' ∨ t.DataDone o w' := by
  have hsource : w'.sourceView = w.sourceView := congrArg E.source.view hu.source
  cases hu with
  | missing _ => cases t <;> exact .inl rfl
  | @table spec hint t _ ht hu =>
    refine (Item.kept_or_done (ha _ ht) hu).imp_right fun hdone => ⟨t, ?_, hdone⟩
    rwa [hsource]
  | @partition c _ hfound hu =>
    cases hu with
    | table _ hu => exact .inl (congrFun (partition_of_underway hu) c.spec)
    | partition hb hu =>
      rcases Item.kept_or_done (ha _ hfound.partition) hu with hkept | hdone
      · exact .inl (hkept.trans (congrFun hb.partition c.spec))
      · refine .inr ⟨c.partition, ?_, hdone⟩
        rw [hsource]
        exact hfound.partition

/-! ### Along the way of a partition task -/

section

variable {c : Cascade} {m m₀ m' : E.Moment} {q : TaskProgram Outcome}

theorem underway_of_updatePartition
    (h : E.Reaches (updatePartition o c.spec c.partition) m q m') :
    c.partitionItem.Underway o m.world m'.world := by
  have hensures : c.partitionItem.EnsuresUpdate E o m.world True
      (updatePartition o c.spec c.partition) m := updatePartition_ensures rfl
  exact (hensures.reaches h).holds (fun _ _ => rfl) (fun _ _ hu => hu)
    fun _ _ hend => hend.underway

/-- In a partition task, the record of the table is as it was, or its data step was behind it at
some point that the run passed. -/
theorem table_kept_or_done (hta : (table c.spec.tableSpec .null).DataApart o m₀.world)
    (hfound : c.Found m₀.world) (h : E.Reaches (Task.partition o c.spec) m₀ q m') :
    (table c.spec.tableSpec .null).RecordKept m₀.world m'.world ∨
      ∃ p m, E.Reaches (Task.partition o c.spec) m₀ p m ∧ E.Reaches p m q m' ∧
        (table c.spec.tableSpec .null).DataDone o m.world := by
  have hpoint : ∀ {m m₁ : E.Moment} {p : TaskProgram Outcome}, m.world = m₀.world →
      E.Reaches (Task.table o c.spec.tableSpec) m p m₁ →
      (table c.spec.tableSpec .null).RecordKept m₀.world m₁.world ∨
        (table c.spec.tableSpec .null).DataDone o m₁.world := fun hw hp =>
    kept_or_done hta (underway_of_reaches (t := table c.spec.tableSpec .null) hw hp)
  cases Cascade.passage_of_reaches hfound h with
  | looking hw _ => exact .inl (by rw [hw]; exact rfl)
  | direct hw _ hp =>
    refine .inl (congrFun ?_ _)
    rw [table_of_underway (underway_of_updatePartition hp), hw]
  | table hw hp _ => exact (hpoint hw hp).imp_right fun hdone => ⟨q, m', h, .here, hdone⟩
  | failed hw hp _ hw' =>
    rw [hw']
    exact (hpoint hw hp).imp_right fun hdone => ⟨q, m', h, .here, hw' ▸ hdone⟩
  | @after _ m₁ _ hw _ hp hfrom hrest =>
    have htables := table_of_underway (underway_of_updatePartition hrest)
    refine (hpoint hw hp).imp (fun hkept => ?_) fun hdone => ⟨_, m₁, hfrom, hrest, hdone⟩
    exact (congrFun htables _).trans hkept

/-- A partition task that ends after it reported a failed cascade leaves the destination as it
was. -/
theorem destination_of_cascadeFailure {out : Outcome} (hfound : c.Found m₀.world)
    (h : E.Reaches (Task.partition o c.spec) m₀ (.done out) m')
    (hlog : ∀ call ∈ m₀.log, call.isCascadeFailure = false)
    (hfail : ∃ call ∈ m'.log, call.isCascadeFailure = true) :
    m'.world.destination = m₀.world.destination := by
  obtain ⟨call, hcall, hreport⟩ := hfail
  -- only the way through a failed table reports anything
  have hquiet : (call ∈ m₀.log ∨ call.isCascadeFailure = false) → False := by
    rintro (hmem | hsteady)
    · rw [hlog call hmem] at hreport
      cases hreport
    · rw [hsteady] at hreport
      cases hreport
  cases Cascade.passage_of_reaches hfound h with
  | looking _ hq => exact absurd rfl (hq out)
  | @direct m _ hsofar hp =>
    refine (hquiet ?_).elim
    exact (Partners.log_of_reaches steady_updatePartition hp call hcall).elim (hsofar call) .inr
  | @table m p _ hp hq =>
    cases p with
    | done out' =>
      rw [Program.done_bind, Cascade.afterTable] at hq
      split at hq <;> cases hq
    | fail e => cases hq
    | note n rest => cases hq
    | call c next => cases hq
  | @failed m m₁ out' hw hp hout hw' =>
    have hend := ended_of_reaches (t := table c.spec.tableSpec .null) rfl hp
    have hkept : m₁.world.destination = m.world.destination := hend.unchanged out' rfl hout
    rw [hw', hkept, hw]
  | @after m m₁ out' _ hsofar hp _ hrest =>
    refine (hquiet ?_).elim
    rcases Partners.log_of_reaches steady_updatePartition hrest call hcall with hmem | hsteady
    · exact (Partners.log_of_reaches steady_table hp call hmem).elim (hsofar call) .inr
    · exact .inr hsteady

end

/-! ### The main result -/

/-- A task without its object at the source never changes anything. -/
theorem world_of_isMissing {p : TaskProgram Outcome} {m m₀ : E.Moment}
    (hmissing : t.IsMissing m₀.world) (h : E.Reaches (t.program o) m₀ p m) :
    m.world = m₀.world := by
  have hensures : EnsuresMissing E True m₀.world (t.program o) m₀ := by
    cases t with
    | table spec hint => exact table_ensures_of_missing rfl hmissing
    | partition spec => exact partition_ensures_of_missing rfl hmissing
  exact (hensures.reaches h).holds (fun _ _ => rfl) (fun _ _ hw => hw) fun _ _ hend => hend.1

/-- **Data before metadata**: wherever the run of a task is cut off, the record of its object is as
it was or its data step is behind it, and in a partition task the same goes for the table, whose
data step was behind it at some point that the run passed. A run that ends without success leaves
alone the records of the task's kind, and the whole destination if the source lacks the object or
the cascade failed. -/
theorem data_before_metadata (E : Partners) (o : Setup) (t : ReplicationTask)
    {clock : Nat → Int} {w : E.World} {p : TaskProgram Outcome} {m : E.Moment}
    (ha : t.DataApart o w) (hta : (table t.spec.tableSpec .null).DataApart o w)
    (h : E.Reaches (t.program o) { world := w, clock } p m) :
    (t.RecordKept w m.world ∨ t.DataDone o m.world) ∧
      ((table t.spec.tableSpec .null).RecordKept w m.world ∨
        ∃ p₁ m₁, E.Reaches (t.program o) { world := w, clock } p₁ m₁ ∧ E.Reaches p₁ m₁ p m ∧
          (table t.spec.tableSpec .null).DataDone o m₁.world) ∧
      ∀ out, p = .done out → out.isSuccessful = false →
        t.Unchanged w m.world ∧
          (t.IsMissing w ∨ (∃ call ∈ m.log, call.isCascadeFailure = true) →
            m.world.destination = w.destination) := by
  have hunderway := underway_of_reaches rfl h
  refine ⟨kept_or_done ha hunderway, ?_, ?_⟩
  · cases hunderway with
    | missing hmissing =>
      left
      rw [world_of_isMissing hmissing h]
      exact rfl
    | @table spec hint t _ ht hu =>
      have hown : (table spec hint).RecordKept w m.world ∨ (table spec hint).DataDone o m.world :=
        kept_or_done ha (.table ht hu)
      exact hown.imp_right fun hdone => ⟨p, m, h, .here, hdone⟩
    | partition hfound _ => exact table_kept_or_done hta hfound h
  · rintro out rfl hout
    have hend := ended_of_reaches rfl h
    refine ⟨hend.unchanged out rfl hout, ?_⟩
    rintro (hmissing | hfail)
    · rw [world_of_isMissing hmissing h]
    · cases hunderway with
      | missing hmissing => rw [world_of_isMissing hmissing h]
      | table _ _ => exact hend.unchanged out rfl hout
      | partition hfound _ => exact destination_of_cascadeFailure hfound h (by simp) hfail

/-- A copy that reports a failure after it was made: the run ends without success, and no partition
was added. -/
theorem data_before_metadata_sample :
    ∃ m, Sample.partners.Reaches (Sample.task.program Sample.setup)
        { world := Sample.world, clock := fun _ => 7 } (.done .failed) m ∧
      m.world.files "s3://there/orders/1" = some [(["part"], 3)] ∧
      Sample.task.Unchanged Sample.world m.world := by
  have hcut := Partners.reaches_upTo (Sample.task.program Sample.setup) 17
    ({ world := Sample.world, clock := fun _ => 7 } : Sample.partners.Moment)
  have hfault : Sample.partners.Reaches _ _ (.done Outcome.failed) _ := hcut.trans
    (.call (.inr ⟨trivial, ⟨.transfer (.copyFailed "" ""), rfl⟩, .inr rfl⟩)
      (.call (.inl ⟨rfl, rfl⟩) .here))
  have hfirst := data_before_metadata Sample.partners Sample.setup Sample.task
    Sample.dataApart Sample.dataApart_table hfault
  exact ⟨_, hfault, rfl, (hfirst.2.2 _ rfl rfl).1⟩

end ReplicationTask

end CatalogReplication
