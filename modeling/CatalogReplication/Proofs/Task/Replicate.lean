import CatalogReplication.Proofs.Task.Resume

/-!
# Replicating tables and partitions

A table task is the update of one item. A partition task is one too, perhaps after the update of the
table: it goes through the stages of one or of both (`Cascade.Underway`), and succeeds by completing
them (`Cascade.Completes`).

* `table_ensures`, `Cascade.partition_ensures`: what the tasks keep to in all runs.
* `partition_of_underway`, `table_of_underway`: neither update touches records of the other kind.
-/

namespace CatalogReplication.Task

open Catalog (View)
open TaskProgram

/-- The item of a table; its data belongs to its partitions if it has any. -/
def Item.ofTable (spec : Spec) (t : TableRecord) : Item TableRecord :=
  { spec, ownsData := !t.isPartitioned, record := t }

/-- The item of a partition. -/
def Item.ofPartition (spec : Spec) (p : PartitionRecord) : Item PartitionRecord :=
  { spec, ownsData := true, record := p }

variable {E : Partners} {o : Setup} {spec : Spec} {t : TableRecord} {p : PartitionRecord}
  {w w' : E.World} {v : View} {faulty : Prop} {m : E.Moment}

/-- A catalog has its tables under their own specs. -/
theorem isIdentified_ofTable (h : w.sourceView.table spec.tableSpec = some t) :
    (Item.ofTable spec t).IsIdentified := E.source.table_spec h

/-! ### What an update leaves alone -/

theorem partition_of_published {x : TableRecord} (h : (Item.ofTable spec t).Published o w x v) :
    v.partition = w.view.partition := by
  cases h with
  | created _ _ _ => exact View.partition_ensureDatabase _ _
  | altered _ _ => rfl
  | kept _ => rfl

theorem table_of_published {x : PartitionRecord}
    (h : (Item.ofPartition spec p).Published o w x v) : v.table = w.view.table := by
  cases h with
  | created _ _ _ => exact View.table_ensureDatabase _ _
  | altered _ _ => rfl
  | kept _ => rfl

theorem partition_of_underway (h : (Item.ofTable spec t).Underway o w w') :
    w'.view.partition = w.view.partition := by
  cases h with
  | early _ hd _ => exact congrArg (fun s => (E.destination.view s).partition) hd
  | late _ _ _ _ hv =>
    rcases hv with ⟨-, d, -, hview⟩ | hv
    · rw [hview, View.partition_ensureDatabase]
    · exact partition_of_published hv

theorem table_of_underway (h : (Item.ofPartition spec p).Underway o w w') :
    w'.view.table = w.view.table := by
  cases h with
  | early _ hd _ => exact congrArg (fun s => (E.destination.view s).table) hd
  | late _ _ _ _ hv =>
    rcases hv with ⟨-, d, -, hview⟩ | hv
    · rw [hview, View.table_ensureDatabase]
    · exact table_of_published hv

/-! ### When the table has to come first -/

theorem cascadeReason?_eq_none_iff {existing : Option TableRecord} :
    cascadeReason? t existing = none ↔ ∃ e, existing = some e ∧ schemasMatch t e = true := by
  unfold cascadeReason?
  cases existing with
  | none => simp
  | some e => simp

theorem schema_eq_of_comparable_eq {x y : TableRecord} (h : comparable x = comparable y) :
    x.schema = y.schema := by
  have hschema := congrArg TableRecord.schema h
  exact hschema

/-- A table that was published doesn't have to come first any more. -/
theorem cascadeReason?_of_published {x : TableRecord} (hx : (Item.ofTable spec t).Wants o w x)
    (h : (Item.ofTable spec t).Published o w x v)
    (ht : w.sourceView.table spec.tableSpec = some t) :
    cascadeReason? t (v.table spec.tableSpec) = none := by
  obtain ⟨stored, hstored, hcomparable⟩ := h.find (isIdentified_ofTable ht) hx
  refine cascadeReason?_eq_none_iff.2 ⟨stored, hstored, decide_eq_true ?_⟩
  obtain ⟨b, -, hbuild⟩ := hx
  obtain ⟨parameters, location, -, -, rfl⟩ := Builder.build_eq_ok_iff.1 hbuild
  exact (schema_eq_of_comparable_eq hcomparable).symm

/-! ### Tables -/

theorem looks_sourceTable (w : E.World) (spec : Spec) :
    E.Looks (.source (.getTable spec)) w (w.sourceView.table spec.tableSpec) :=
  Partners.looks_source rfl fun _ _ _ h => h.1

theorem looks_destinationTable (w : E.World) (spec : Spec) :
    E.Looks (.destination (.getTable spec)) w (w.view.table spec.tableSpec) :=
  Partners.looks_destination rfl fun _ _ _ h => h.1

theorem looks_sourcePartition (w : E.World) (spec : Spec) :
    E.Looks (.source (.getPartition spec)) w (w.sourceView.partition spec) :=
  Partners.looks_source rfl fun _ _ _ h => h.1

theorem looks_destinationPartition (w : E.World) (spec : Spec) :
    E.Looks (.destination (.getPartition spec)) w (w.view.partition spec) :=
  Partners.looks_destination rfl fun _ _ _ h => h.1

/-- A run that only looks, and ends without success. -/
abbrev EnsuresMissing (E : Partners) (faulty : Prop) (w : E.World) (p : TaskProgram Outcome)
    (m : E.Moment) : Prop :=
  E.Ensures faulty (fun _ m' => m'.world = w)
    (fun r m' => m'.world = w ∧ ∀ out, r = .ok out → out.isSuccessful = false) p m

/-- A look without its object. -/
theorem ensuresMissing_look {c : Call} {v : c.Answer} {f : c.Answer → TaskProgram Outcome}
    (hlook : E.Looks c w v) (hw : m.world = w)
    (hnext : ∀ m' : E.Moment, m'.world = w → EnsuresMissing E faulty w (f v) m') :
    EnsuresMissing E faulty w ((Program.perform c).bind f) m :=
  Partners.ensures_look hlook hw hw (fun m' hm' _ => hnext m' hm')
    fun _ _ _ hm' _ => ⟨hm', fun _ hr => nomatch hr⟩

theorem sourceMissing_ensures {object : String} (hw : m.world = w) :
    EnsuresMissing E faulty w (sourceMissing spec object) m := by
  refine ensuresMissing_look (Partners.looks_hear _ w) hw fun m' hm' => ⟨hm', fun out hr => ?_⟩
  cases hr
  rfl

/-- A table task without its source changes nothing. -/
theorem table_ensures_of_missing (hw : m.world = w)
    (ht : w.sourceView.table spec.tableSpec = none) :
    EnsuresMissing E faulty w (table o spec) m := by
  refine ensuresMissing_look (looks_sourceTable w spec) hw fun m' hm' => ?_
  rw [ht]
  exact sourceMissing_ensures hm'

/-- **A table task** is the update of its table. -/
theorem table_ensures (hw : m.world = w) (ht : w.sourceView.table spec.tableSpec = some t) :
    (Item.ofTable spec t).EnsuresUpdate E o w faulty (table o spec) m := by
  refine Item.ensuresUpdate_look (looks_sourceTable w spec) hw .refl fun m₁ hm₁ => ?_
  rw [ht]
  refine Item.ensuresUpdate_look (looks_destinationTable w spec) hm₁ .refl fun m₂ hm₂ => ?_
  exact Item.update_ensures hm₂

/-- The part of a partition task that brings the partition up to date. -/
theorem updatePartition_ensures (hw : m.world = w) :
    (Item.ofPartition spec p).EnsuresUpdate E o w faulty (updatePartition o spec p) m := by
  refine Item.ensuresUpdate_look (looks_destinationPartition w spec) hw .refl fun m₁ hm₁ => ?_
  exact Item.update_ensures hm₁

/-! ### Partitions -/

/-- A partition task without its partition, or without the table of it, changes nothing. -/
theorem partition_ensures_of_missing (hw : m.world = w)
    (h : w.sourceView.partition spec = none ∨ w.sourceView.table spec.tableSpec = none) :
    EnsuresMissing E faulty w (partition o spec) m := by
  refine ensuresMissing_look (looks_sourcePartition w spec) hw fun m₁ hm₁ => ?_
  cases hp : w.sourceView.partition spec with
  | none => exact sourceMissing_ensures hm₁
  | some p =>
    rw [hp] at h
    have ht := h.resolve_left nofun
    refine ensuresMissing_look (looks_sourceTable w spec.tableSpec) hm₁ fun m₂ hm₂ => ?_
    refine ensuresMissing_look (looks_destinationTable w spec.tableSpec) hm₂ fun m₃ hm₃ => ?_
    have ht' : w.sourceView.table spec.tableSpec.tableSpec = none := ht
    rw [ht']
    exact sourceMissing_ensures hm₃

/-- A partition with its table, as the source has them. -/
structure Cascade where
  spec : Spec
  table : TableRecord
  partition : PartitionRecord

namespace Cascade

/-- The table as an item. -/
def tableItem (c : Cascade) : Item TableRecord := .ofTable c.spec.tableSpec c.table

/-- The partition as an item. -/
def partitionItem (c : Cascade) : Item PartitionRecord := .ofPartition c.spec c.partition

/-- Why the table has to come first in a world, if it has to. -/
def reason? (c : Cascade) (w : E.World) : Option String :=
  cascadeReason? c.table (w.view.table c.spec.tableSpec)

/-- The source has the partition and its table. -/
structure Found (c : Cascade) (w : E.World) : Prop where
  partition : w.sourceView.partition c.spec = some c.partition
  table : w.sourceView.table c.spec.tableSpec = some c.table

theorem Found.unique {c c' : Cascade} (h : c.Found w) (h' : c'.Found w) (hs : c.spec = c'.spec) :
    c = c' := by
  obtain ⟨spec, t, p⟩ := c
  obtain ⟨spec', t', p'⟩ := c'
  obtain rfl : spec = spec' := hs
  obtain rfl : p = p' := Option.some.inj (h.partition.symm.trans h'.partition)
  obtain rfl : t = t' := Option.some.inj (h.table.symm.trans h'.table)
  rfl

section

variable (o : Setup) (c : Cascade) (w : E.World)

/-- Where the update of the partition begins: at once, or when that of the table is complete. -/
inductive Begins : E.World → Prop where
  | directly (h : c.reason? w = none) : Begins w
  | cascaded {reason : String} {w₁ : E.World} (h : c.reason? w = some reason)
      (hs : w₁.source = w.source) (hc : c.tableItem.Completes o w w₁.files w₁.view) : Begins w₁

/-- A partition task in a world succeeds, with these files and this content of the destination. -/
def Completes (files : E.carrier.State) (v : View) : Prop :=
  ∃ w₁, c.Begins o w w₁ ∧ c.partitionItem.Completes o w₁ files v

/-- A world in the course of a partition task that began in another one. -/
inductive Underway : E.World → Prop where
  | table {reason : String} {w' : E.World} (h : c.reason? w = some reason)
      (hu : c.tableItem.Underway o w w') : Underway w'
  | partition {w₁ w' : E.World} (hb : c.Begins o w w₁) (hu : c.partitionItem.Underway o w₁ w') :
      Underway w'

/-- How a partition task that began in a world may end. -/
structure Ended (faulty : Prop) (r : Except Failure Outcome) (w' : E.World) : Prop where
  underway : c.Underway o w w'
  completes : ∀ out, r = .ok out → out.isSuccessful = true → c.Completes o w w'.files w'.view
  unchanged : ∀ out, r = .ok out → out.isSuccessful = false →
    w'.view.partition = w.view.partition
  succeeds : ¬ faulty → (∃ files v, c.Completes o w files v) →
    ∃ out, r = .ok out ∧ out.isSuccessful = true

end

variable {c : Cascade} {w₁ w₂ : E.World}

theorem Underway.refl : c.Underway o w w := by
  cases h : c.reason? w with
  | none => exact .partition (.directly h) .refl
  | some reason => exact .table h .refl

theorem Begins.source (h : c.Begins o w w₁) : w₁.source = w.source := by
  cases h with
  | directly _ => rfl
  | cascaded _ hs _ => exact hs

theorem Begins.partition (h : c.Begins o w w₁) : w₁.view.partition = w.view.partition := by
  cases h with
  | directly _ => rfl
  | cascaded _ _ hc =>
    obtain ⟨x, n, -, -, -, -, hv⟩ := hc
    exact partition_of_published hv

/-- Where the update of the partition begins, its table is there with the schema that it has at the
source. -/
theorem Begins.reason?_eq_none (hfound : c.Found w) (h : c.Begins o w w₁) :
    c.reason? w₁ = none := by
  cases h with
  | directly h => exact h
  | cascaded _ _ hc =>
    obtain ⟨x, n, hx, -, -, -, hv⟩ := hc
    have hreason := cascadeReason?_of_published hx hv hfound.table
    exact hreason

/-- All worlds in which the update of the partition may begin are alike to it. -/
theorem Begins.alike (h₁ : c.Begins o w w₁) (h₂ : c.Begins o w w₂) :
    c.partitionItem.Alike w₁ w₂ ∧ w₂.files = w₁.files := by
  have hsource : w₂.sourceView = w₁.sourceView :=
    congrArg E.source.view (h₂.source.trans h₁.source.symm)
  have hexisting : c.partitionItem.existing w₂ = c.partitionItem.existing w₁ :=
    congrFun (h₂.partition.trans h₁.partition.symm) c.spec
  cases h₁ with
  | directly h =>
    cases h₂ with
    | directly _ => exact ⟨⟨rfl, .refl _, rfl⟩, rfl⟩
    | cascaded h' _ _ => rw [h] at h'; cases h'
  | cascaded h hs hc =>
    cases h₂ with
    | directly h' => rw [h] at h'; cases h'
    | cascaded _ hs' hc' =>
      obtain ⟨hfiles, hsimilar⟩ := Item.completes_similar hc hc'
      exact ⟨⟨hsource, hsimilar, hexisting⟩, hfiles.symm⟩

/-- A partition task completes to one set of files and, up to what catalogs keep up, to one
content. -/
theorem completes_similar {files files' : E.carrier.State} {v v' : View}
    (h : c.Completes o w files v) (h' : c.Completes o w files' v') :
    files = files' ∧ v.Similar v' := by
  obtain ⟨w₁, hb, hc⟩ := h
  obtain ⟨w₂, hb', hc'⟩ := h'
  obtain ⟨halike, hfiles⟩ := hb.alike hb'
  obtain ⟨v₂, hc₂, hsimilar⟩ := Item.completes_of_alike halike hfiles hc
  obtain ⟨hfiles', hsimilar'⟩ := Item.completes_similar hc₂ hc'
  exact ⟨hfiles', hsimilar.trans hsimilar'⟩

/-- The conditions under which a partition task is looked at: at every call and at the end. -/
abbrev EnsuresEnded (E : Partners) (o : Setup) (c : Cascade) (w : E.World) (faulty : Prop)
    (p : TaskProgram Outcome) (m : E.Moment) : Prop :=
  E.Ensures faulty (fun _ m' => c.Underway o w m'.world)
    (fun r m' => c.Ended o w faulty r m'.world) p m

/-- The update of the partition from where it begins, as a part of the task. -/
theorem updatePartition_ensures_of_begins (hb : c.Begins o w w₁) (hw : m.world = w₁) :
    c.EnsuresEnded E o w faulty (updatePartition o c.spec c.partition) m := by
  have hupdate : c.partitionItem.EnsuresUpdate E o w₁ faulty
      (updatePartition o c.spec c.partition) m := updatePartition_ensures hw
  refine hupdate.mono (fun _ _ hu => .partition hb hu) fun r m' h => ?_
  refine ⟨.partition hb h.underway, fun out hr hout => ⟨w₁, hb, h.completes out hr hout⟩,
    fun out hr hout => ?_, fun hclean ⟨files, v, w₂, hb', hc⟩ => ?_⟩
  · have hview : m'.world.view = w₁.view :=
      congrArg E.destination.view (h.unchanged out hr hout)
    rw [hview, hb.partition]
  · obtain ⟨halike, hfiles⟩ := hb'.alike hb
    obtain ⟨v', hc', -⟩ := Item.completes_of_alike halike hfiles hc
    exact h.succeeds hclean ⟨files, v', hc'⟩

/-- A fault ends a partition task wherever it is. -/
theorem Ended.of_fault (hf : faulty) (e : Failure) (h : c.Underway o w w') :
    c.Ended o w faulty (.error e) w' :=
  ⟨h, (fun _ hr => nomatch hr), (fun _ hr => nomatch hr), fun hclean => absurd hf hclean⟩

/-- A look in the course of a partition task. -/
theorem ensuresEnded_look {call : Call} {v : call.Answer} {f : call.Answer → TaskProgram Outcome}
    (hlook : E.Looks call w₁ v) (hw : m.world = w₁) (h : c.Underway o w w₁)
    (hnext : ∀ m' : E.Moment, m'.world = w₁ → c.EnsuresEnded E o w faulty (f v) m') :
    c.EnsuresEnded E o w faulty ((Program.perform call).bind f) m :=
  Partners.ensures_look hlook hw (hw ▸ h) (fun m' hm' _ => hnext m' hm')
    fun hf e _ hm' _ => .of_fault hf e (hm' ▸ h)

/-- A partition task from where its table was tried. -/
def afterTable (o : Setup) (c : Cascade) (out : Outcome) : TaskProgram Outcome :=
  if out.isSuccessful then updatePartition o c.spec c.partition
  else (emit c.spec .tableCascadeFailed [("status", .text out.status.name)]).bind
    fun _ => .done .failed

/-- A partition task that has to begin with the table, from there. -/
theorem cascade_ensures {reason : String} (hw : m.world = w)
    (ht : w.sourceView.table c.spec.tableSpec = some c.table)
    (hreason : c.reason? w = some reason) :
    c.EnsuresEnded E o w faulty ((Task.table o c.spec.tableSpec).bind (c.afterTable o)) m := by
  have htable : c.tableItem.EnsuresUpdate E o w faulty (Task.table o c.spec.tableSpec) m :=
    table_ensures hw ht
  have hcompletes : (∃ files v, c.Completes o w files v) →
      ∃ files v, c.tableItem.Completes o w files v := by
    rintro ⟨files, v, w₁, hb, -⟩
    cases hb with
    | directly h => rw [hreason] at h; cases h
    | cascaded _ _ hc => exact ⟨_, _, hc⟩
  refine Program.Ensures.bind (htable.mono (fun _ _ hu => .table hreason hu) fun _ _ h => h)
    (fun out m' h => ?_) fun e m' h => ?_
  · have hunderway : c.Underway o w m'.world := .table hreason h.underway
    unfold afterTable
    cases hout : out.isSuccessful with
    | true =>
      simp only [if_true]
      have hb : c.Begins o w m'.world :=
        .cascaded hreason h.underway.source (h.completes out rfl hout)
      exact updatePartition_ensures_of_begins hb rfl
    | false =>
      simp only [Bool.false_eq_true, if_false]
      refine ensuresEnded_look (Partners.looks_hear _ m'.world) rfl hunderway fun m₂ hm₂ => ?_
      refine ⟨hm₂ ▸ hunderway, fun out' hr hout' => ?_, fun _ _ _ => ?_, fun hclean hc => ?_⟩
      · cases hr
        cases hout'
      · rw [hm₂]
        exact partition_of_underway h.underway
      · obtain ⟨out', hr, hout'⟩ := h.succeeds hclean (hcompletes hc)
        cases hr
        rw [hout] at hout'
        cases hout'
  · refine ⟨.table hreason h.underway, (fun _ hr => nomatch hr), (fun _ hr => nomatch hr),
      fun hclean hc => ?_⟩
    obtain ⟨out, hr, -⟩ := h.succeeds hclean (hcompletes hc)
    cases hr

/-- **A partition task** is in one of its stages at every point; it succeeds only by completing,
without faults whenever it can, and leaves the partitions alone if it ends without success. -/
theorem partition_ensures (hw : m.world = w) (hfound : c.Found w) :
    c.EnsuresEnded E o w faulty (Task.partition o c.spec) m := by
  refine ensuresEnded_look (looks_sourcePartition w c.spec) hw .refl fun m₁ hm₁ => ?_
  rw [hfound.partition]
  refine ensuresEnded_look (looks_sourceTable w c.spec.tableSpec) hm₁ .refl fun m₂ hm₂ => ?_
  refine ensuresEnded_look (looks_destinationTable w c.spec.tableSpec) hm₂ .refl fun m₃ hm₃ => ?_
  have ht : w.sourceView.table c.spec.tableSpec.tableSpec = some c.table := hfound.table
  rw [ht]
  cases hreason : c.reason? w with
  | none =>
    have h : cascadeReason? c.table (w.view.table c.spec.tableSpec.tableSpec) = none := hreason
    simp only [h]
    exact updatePartition_ensures_of_begins (.directly hreason) hm₃
  | some reason =>
    have h : cascadeReason? c.table (w.view.table c.spec.tableSpec.tableSpec) = some reason :=
      hreason
    simp only [h]
    refine ensuresEnded_look (Partners.looks_hear _ w) hm₃ .refl fun m₄ hm₄ => ?_
    exact cascade_ensures hm₄ hfound.table hreason

end Cascade

end CatalogReplication.Task

/-! ### Tasks -/

namespace CatalogReplication.ReplicationTask

open CatalogReplication.Task
open Catalog (View)

section

variable {E : Partners} (o : Setup) (w : E.World)

/-- The source lacks what a task is for. -/
def IsMissing : ReplicationTask → Prop
  | table spec _ => w.sourceView.table spec.tableSpec = none
  | partition spec =>
    w.sourceView.partition spec = none ∨ w.sourceView.table spec.tableSpec = none

/-- A task in a world succeeds, with these files and this content of the destination. -/
inductive Completes (files : E.carrier.State) (v : View) : ReplicationTask → Prop where
  | table {spec : Spec} {hint : Value} {t : TableRecord}
      (ht : w.sourceView.table spec.tableSpec = some t)
      (hc : (Item.ofTable spec t).Completes o w files v) : Completes files v (table spec hint)
  | partition {c : Cascade} (hfound : c.Found w) (hc : c.Completes o w files v) :
      Completes files v (partition c.spec)

/-- A world in the course of a task that began in another one. -/
inductive Underway : ReplicationTask → E.World → Prop where
  | missing {t : ReplicationTask} (h : t.IsMissing w) : Underway t w
  | table {spec : Spec} {hint : Value} {t : TableRecord} {w' : E.World}
      (ht : w.sourceView.table spec.tableSpec = some t)
      (hu : (Item.ofTable spec t).Underway o w w') : Underway (table spec hint) w'
  | partition {c : Cascade} {w' : E.World} (hfound : c.Found w) (hu : c.Underway o w w') :
      Underway (partition c.spec) w'

/-- The records of the kind that a task is for are as they were; for tables, the whole destination
is. -/
def Unchanged (w' : E.World) : ReplicationTask → Prop
  | table _ _ => w'.destination = w.destination
  | partition _ => w'.view.partition = w.view.partition

/-- How a task that began in a world may end. -/
structure Ended (t : ReplicationTask) (faulty : Prop) (r : Except Failure Outcome)
    (w' : E.World) : Prop where
  underway : t.Underway o w w'
  completes : ∀ out, r = .ok out → out.isSuccessful = true → t.Completes o w w'.files w'.view
  unchanged : ∀ out, r = .ok out → out.isSuccessful = false → t.Unchanged w w'
  succeeds : ¬ faulty → (∃ files v, t.Completes o w files v) →
    ∃ out, r = .ok out ∧ out.isSuccessful = true

end

variable {E : Partners} {o : Setup} {w w' : E.World} {t : ReplicationTask} {faulty : Prop}
  {m : E.Moment}

theorem not_completes_of_isMissing {files : E.carrier.State} {v : View} (h : t.IsMissing w) :
    ¬ t.Completes o w files v := by
  intro hc
  cases hc with
  | table ht _ => rw [IsMissing, ht] at h; cases h
  | partition hfound _ =>
    rw [IsMissing, hfound.partition, hfound.table] at h
    rcases h with h | h <;> cases h

theorem cascade_of_completes {spec : Spec} {files : E.carrier.State} {v : View}
    (h : (partition spec).Completes o w files v) :
    ∃ c : Cascade, c.spec = spec ∧ c.Found w ∧ c.Completes o w files v := by
  cases h with
  | partition hfound hc => exact ⟨_, rfl, hfound, hc⟩

/-- A task completes to one set of files and, up to what catalogs keep up, to one content. -/
theorem completes_similar {files files' : E.carrier.State} {v v' : View}
    (h : t.Completes o w files v) (h' : t.Completes o w files' v') :
    files = files' ∧ v.Similar v' := by
  cases h with
  | table ht hc =>
    cases h' with
    | table ht' hc' =>
      obtain rfl := Option.some.inj (ht.symm.trans ht')
      exact Item.completes_similar hc hc'
  | @partition c hfound hc =>
    obtain ⟨c', hspec, hfound', hc'⟩ := cascade_of_completes h'
    obtain rfl := hfound'.unique hfound hspec
    exact Cascade.completes_similar hc hc'

/-- Without its object at the source, a task ends as it began. -/
theorem Ended.of_missing {r : Except Failure Outcome} (h : t.IsMissing w)
    (hr : ∀ out, r = .ok out → out.isSuccessful = false) : t.Ended o w faulty r w := by
  refine ⟨.missing h, fun out hout hs => ?_, fun _ _ _ => ?_, fun _ ⟨files, v, hc⟩ => ?_⟩
  · rw [hr out hout] at hs
    cases hs
  · cases t <;> exact rfl
  · exact absurd hc (not_completes_of_isMissing h)

/-- The conditions under which a task is looked at: at every call and at the end. -/
abbrev EnsuresEnded (E : Partners) (o : Setup) (t : ReplicationTask) (w : E.World) (faulty : Prop)
    (m : E.Moment) : Prop :=
  E.Ensures faulty (fun _ m' => t.Underway o w m'.world)
    (fun r m' => t.Ended o w faulty r m'.world) (t.program o) m

/-- **A task** is in one of its stages at every point; it succeeds only by completing, without
faults whenever it can, and without success it leaves alone the records of its kind. -/
theorem program_ensures (hw : m.world = w) : t.EnsuresEnded E o w faulty m := by
  have hmissing : t.IsMissing w → EnsuresMissing E faulty w (t.program o) m →
      t.EnsuresEnded E o w faulty m := fun h hp =>
    hp.mono (fun _ m' (hm : m'.world = w) => by rw [hm]; exact .missing h)
      fun _ m' hm => by rw [hm.1]; exact .of_missing h hm.2
  cases t with
  | table spec hint =>
    cases ht : w.sourceView.table spec.tableSpec with
    | none => exact hmissing ht (table_ensures_of_missing hw ht)
    | some t =>
      have htable : (Item.ofTable spec t).EnsuresUpdate E o w faulty (Task.table o spec) m :=
        table_ensures hw ht
      refine htable.mono (fun _ _ hu => .table ht hu) fun r m' h => ?_
      refine ⟨.table ht h.underway, fun out hr hs => .table ht (h.completes out hr hs),
        h.unchanged, fun hclean ⟨files, v, hc⟩ => ?_⟩
      cases hc with
      | table ht' hc =>
        rw [ht] at ht'
        cases ht'
        exact h.succeeds hclean ⟨files, v, hc⟩
  | partition spec =>
    cases hp : w.sourceView.partition spec with
    | none => exact hmissing (.inl hp) (partition_ensures_of_missing hw (.inl hp))
    | some p =>
      cases ht : w.sourceView.table spec.tableSpec with
      | none => exact hmissing (.inr ht) (partition_ensures_of_missing hw (.inr ht))
      | some t =>
        have hfound : Cascade.Found { spec, table := t, partition := p } w := ⟨hp, ht⟩
        refine (Cascade.partition_ensures hw hfound).mono (fun _ _ hu => .partition hfound hu)
          fun r m' h => ?_
        refine ⟨.partition hfound h.underway,
          fun out hr hs => .partition hfound (h.completes out hr hs), h.unchanged,
          fun hclean ⟨files, v, hc⟩ => ?_⟩
        cases hc with
        | @partition c hfound' hc =>
          have hcascade := hfound'.unique hfound rfl
          exact h.succeeds hclean ⟨files, v, hcascade ▸ hc⟩

/-- A run without faults ends as a task may end. -/
theorem run_ended (E : Partners) (o : Setup) (t : ReplicationTask) (clock : Nat → Int)
    (w : E.World) : t.Ended o w False (E.run (t.program o) clock w).1
      (E.run (t.program o) clock w).2.world :=
  Partners.run_of_ensures (program_ensures rfl)

/-- Wherever a run is cut off, the task is in one of its stages. -/
theorem underway_of_reaches {p : TaskProgram Outcome} {m' : E.Moment} (hw : m.world = w)
    (h : E.Reaches (t.program o) m p m') : t.Underway o w m'.world := by
  have hensures : t.EnsuresEnded E o w True m := program_ensures hw
  exact (hensures.reaches h).holds (fun _ _ => rfl) (fun _ _ hu => hu)
    fun _ _ hend => hend.underway

theorem ended_of_reaches {out : Outcome} {m' : E.Moment} (hw : m.world = w)
    (h : E.Reaches (t.program o) m (.done out) m') : t.Ended o w True (.ok out) m'.world := by
  have hensures : t.EnsuresEnded E o w True m := program_ensures hw
  exact hensures.reaches h

/-- Tasks leave the source alone. -/
theorem Underway.source (h : t.Underway o w w') : w'.source = w.source := by
  cases h with
  | missing _ => rfl
  | table _ hu => exact hu.source
  | partition _ hu =>
    cases hu with
    | table _ hu => exact hu.source
    | partition hb hu => exact hu.source.trans hb.source

end CatalogReplication.ReplicationTask
