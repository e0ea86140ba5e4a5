import CatalogReplication.Proofs.Task.Consistency
import Mathlib.Logic.Relation

/-!
# Retrying converges

A task that was cut off any number of times, at any call and with that call's effect or without,
ends where it would have ended without: `ReplicationTask.retry_converges`. The invariant is that the
task completes to the same from wherever it got to (`ReplicationTask.completes_of_underway`).
-/

namespace CatalogReplication

open Catalog (View)
open CatalogReplication.Task

variable {E : Partners} {o : Setup} {w w' : E.World} {v : View} {files : E.carrier.State}

namespace Task.Cascade

variable {c : Cascade}

/-- What the update of a table completes to is reached by running it. -/
theorem exists_world_of_completes {spec : Spec} {t : TableRecord}
    (ht : w.sourceView.table spec.tableSpec = some t)
    (h : (Item.ofTable spec t).Completes o w files v) :
    ∃ w₁ : E.World, w₁.source = w.source ∧
      (Item.ofTable spec t).Completes o w w₁.files w₁.view := by
  have hend : (Item.ofTable spec t).Updated o w False (E.run (Task.table o spec) (fun _ => 0) w).1
      (E.run (Task.table o spec) (fun _ => 0) w).2.world :=
    Partners.run_of_ensures (table_ensures rfl ht)
  obtain ⟨out, hr, hs⟩ := hend.succeeds id ⟨files, v, h⟩
  exact ⟨_, hend.underway.source, hend.completes out hr hs⟩

/-- Once its table doesn't have to come first any more, the update of the table has written it. -/
theorem begins_of_reason?_eq_none {reason : String} {w₀ : E.World}
    (hreason : c.reason? w = some reason) (hb : c.Begins o w w₀)
    (hu : c.tableItem.Underway o w w') (h : c.reason? w' = none) : c.Begins o w w' := by
  have htables : w'.view.table ≠ w.view.table := by
    intro htables
    rw [reason?, htables] at h
    rw [reason?, h] at hreason
    cases hreason
  cases hb with
  | directly h => rw [hreason] at h; cases h
  | cascaded _ _ hc =>
    obtain ⟨x, n, hx, ht, hcarried, hn, -⟩ := hc
    cases hu with
    | early _ hd _ =>
      exact absurd (congrArg (fun s => (E.destination.view s).table) hd) htables
    | late hs hx' _ hcarried' hv =>
      obtain rfl := hx.unique hx'
      obtain ⟨hfiles, rfl⟩ := hcarried.unique hcarried'
      rcases hv with ⟨-, d, -, hview⟩ | hv
      · refine absurd ?_ htables
        rw [hview, View.table_ensureDatabase]
      · exact .cascaded hreason hs ⟨x, n, hx, ht, hcarried', hn, hv⟩

/-- **A partition task can be taken up from every stage**: from that of its table, where the table
may or may not be written, and from that of the partition. -/
theorem completes_of_underway (ho : o.IsProper) (hfound : c.Found w)
    (hi : c.partitionItem.IsIdentified) (ha : c.partitionItem.DataApart E o)
    (hta : c.tableItem.DataApart E o) (h : c.Completes o w files v) (hu : c.Underway o w w') :
    ∃ v', c.Completes o w' files v' ∧ v.Similar v' := by
  obtain ⟨w₀, hb₀, hc₀⟩ := h
  cases hu with
  | @partition w₁ _ hb hu =>
    obtain ⟨halike, hfiles⟩ := hb₀.alike hb
    obtain ⟨v₁, hc₁, hsimilar₁⟩ := Item.completes_of_alike halike hfiles hc₀
    obtain ⟨v₂, hc₂, hsimilar₂⟩ := Item.completes_of_underway ho hi ha hc₁ hu
    have hreason : c.reason? w' = none := by
      rw [reason?, table_of_underway hu]
      exact hb.reason?_eq_none hfound
    exact ⟨v₂, ⟨w', .directly hreason, hc₂⟩, hsimilar₁.trans hsimilar₂⟩
  | table hreason hu =>
    cases hreason' : c.reason? w' with
    | none =>
      have hb := begins_of_reason?_eq_none hreason hb₀ hu hreason'
      obtain ⟨halike, hfiles⟩ := hb₀.alike hb
      obtain ⟨v', hc', hsimilar⟩ := Item.completes_of_alike halike hfiles hc₀
      exact ⟨v', ⟨w', .directly hreason', hc'⟩, hsimilar⟩
    | some reason' =>
      -- the table is not written yet: its update is taken up, and then the partition's begins
      have htable : c.tableItem.Completes o w w₀.files w₀.view := by
        cases hb₀ with
        | directly h => rw [hreason] at h; cases h
        | cascaded _ _ hc => exact hc
      have hti : c.tableItem.IsIdentified := isIdentified_ofTable hfound.table
      obtain ⟨v₁, htable', hsimilar₁⟩ := Item.completes_of_underway ho hti hta htable hu
      have hsource : w'.sourceView = w.sourceView := congrArg E.source.view hu.source
      have ht' : w'.sourceView.table c.spec.tableSpec.tableSpec = some c.table := by
        rw [hsource]
        exact hfound.table
      obtain ⟨w₁, hs₁, htable₁⟩ := exists_world_of_completes ht' htable'
      have hb₁ : c.Begins o w' w₁ := .cascaded hreason' hs₁ htable₁
      obtain ⟨hfiles, hsimilar₂⟩ := Item.completes_similar htable' htable₁
      have hpartitions : w₁.view.partition = w₀.view.partition :=
        hb₁.partition.trans ((partition_of_underway hu).trans hb₀.partition.symm)
      have halike : c.partitionItem.Alike w₀ w₁ :=
        ⟨congrArg E.source.view (hs₁.trans (hu.source.trans hb₀.source.symm)),
          hsimilar₁.trans hsimilar₂, congrFun hpartitions c.spec⟩
      obtain ⟨v₂, hc₂, hsimilar₃⟩ := Item.completes_of_alike halike hfiles.symm hc₀
      exact ⟨v₂, ⟨w₁, hb₁, hc₂⟩, hsimilar₃⟩

theorem Found.congr (hs : w'.sourceView = w.sourceView) (h : c.Found w) : c.Found w' :=
  ⟨by rw [hs]; exact h.partition, by rw [hs]; exact h.table⟩

end Task.Cascade

namespace ReplicationTask

variable {t : ReplicationTask}

/-! ### What tasks take for granted goes on holding -/

theorem IsIdentified.congr (hs : w'.source = w.source) (h : t.IsIdentified w) :
    t.IsIdentified w' := by
  have hsource : w'.sourceView = w.sourceView := congrArg E.source.view hs
  cases t <;> rwa [IsIdentified, hsource]

theorem DataApart.congr (hs : w'.source = w.source) (h : t.DataApart o w) : t.DataApart o w' := by
  have hsource : w'.sourceView = w.sourceView := congrArg E.source.view hs
  cases t <;> rwa [DataApart, hsource]

/-! ### Taking up -/

/-- **A task can be taken up from every stage.** -/
theorem completes_of_underway (ho : o.IsProper) (hi : t.IsIdentified w) (ha : t.DataApart o w)
    (hta : (table t.spec.tableSpec .null).DataApart o w) (h : t.Completes o w files v)
    (hu : t.Underway o w w') : ∃ v', t.Completes o w' files v' ∧ v.Similar v' := by
  have hsource : w'.sourceView = w.sourceView := congrArg E.source.view hu.source
  cases hu with
  | missing hmissing => exact absurd h (not_completes_of_isMissing hmissing)
  | table ht hu =>
    cases h with
    | table ht' hc =>
      obtain rfl := Option.some.inj (ht.symm.trans ht')
      obtain ⟨v', hc', hsimilar⟩ :=
        Item.completes_of_underway ho (isIdentified_ofTable ht) (ha _ ht) hc hu
      exact ⟨v', .table (by rwa [hsource]) hc', hsimilar⟩
  | @partition c _ hfound hu =>
    obtain ⟨c', hspec, hfound', hc⟩ := cascade_of_completes h
    obtain rfl := hfound'.unique hfound hspec
    have hpi : c'.partitionItem.IsIdentified := hi _ hfound.partition
    obtain ⟨v', hc', hsimilar⟩ := Cascade.completes_of_underway ho hfound hpi
      (ha _ hfound.partition) (hta _ hfound.table) hc hu
    exact ⟨v', .partition (hfound.congr hsource) hc', hsimilar⟩

/-! ### Runs that are cut off -/

/-- A run of a task that was cut off somewhere: any of its calls may have failed, with its effect or
without. -/
def Interrupted (E : Partners) (o : Setup) (t : ReplicationTask) (w w' : E.World) : Prop :=
  ∃ clock p m, E.Reaches (t.program o) { world := w, clock } p m ∧ m.world = w'

theorem underway_of_interrupted (h : t.Interrupted E o w w') : t.Underway o w w' := by
  obtain ⟨clock, p, m, hreaches, rfl⟩ := h
  exact underway_of_reaches rfl hreaches

/-- After any number of runs that were cut off, a task completes to the same. -/
theorem completes_of_interrupted (ho : o.IsProper) (hi : t.IsIdentified w) (ha : t.DataApart o w)
    (hta : (table t.spec.tableSpec .null).DataApart o w) (h : t.Completes o w files v)
    (hruns : Relation.ReflTransGen (t.Interrupted E o) w w') :
    w'.source = w.source ∧ ∃ v', t.Completes o w' files v' ∧ v.Similar v' := by
  induction hruns with
  | refl => exact ⟨rfl, v, h, .refl v⟩
  | tail _ hrun ih =>
    obtain ⟨hs, v₁, hc₁, hsimilar₁⟩ := ih
    have hu := underway_of_interrupted hrun
    obtain ⟨v₂, hc₂, hsimilar₂⟩ :=
      completes_of_underway ho (hi.congr hs) (ha.congr hs) (hta.congr hs) hc₁ hu
    exact ⟨hu.source.trans hs, v₂, hc₂, hsimilar₁.trans hsimilar₂⟩

/-- **Retrying converges**: from a world in which a run without faults succeeds, let the task be cut
off any number of times; then a run without faults succeeds, and leaves the same files and, up to
what catalogs keep up by themselves, the same content of the destination. -/
theorem retry_converges (E : Partners) (o : Setup) (t : ReplicationTask)
    (clock clock' : Nat → Int) {w w' : E.World} {out : Outcome} (ho : o.IsProper)
    (hi : t.IsIdentified w) (ha : t.DataApart o w)
    (hta : (table t.spec.tableSpec .null).DataApart o w)
    (hrun : (E.run (t.program o) clock w).1 = .ok out) (hout : out.isSuccessful = true)
    (hruns : Relation.ReflTransGen (t.Interrupted E o) w w') :
    (∃ out', (E.run (t.program o) clock' w').1 = .ok out' ∧ out'.isSuccessful = true) ∧
      (E.run (t.program o) clock' w').2.world.source =
        (E.run (t.program o) clock w).2.world.source ∧
      (E.run (t.program o) clock' w').2.world.files =
        (E.run (t.program o) clock w).2.world.files ∧
      (E.run (t.program o) clock w).2.world.view.Similar
        (E.run (t.program o) clock' w').2.world.view := by
  have hfirst := run_ended E o t clock w
  have hlast := run_ended E o t clock' w'
  obtain ⟨hs, v, hc, hsimilar⟩ :=
    completes_of_interrupted ho hi ha hta (hfirst.completes out hrun hout) hruns
  obtain ⟨out', hrun', hout'⟩ := hlast.succeeds id ⟨_, v, hc⟩
  obtain ⟨hfiles, hsimilar'⟩ := completes_similar hc (hlast.completes out' hrun' hout')
  exact ⟨⟨out', hrun', hout'⟩, hlast.underway.source.trans (hs.trans hfirst.underway.source.symm),
    hfiles.symm, hsimilar.trans hsimilar'⟩

/-- A run was cut off when it had created the table. -/
def tableCreated : Sample.partners.World :=
  (Sample.partners.upTo (Sample.task.program Sample.setup) 10
    { world := Sample.world, clock := fun _ => 7 }).2.world

/-- The next run was cut off when it had copied the data. -/
def dataCopied : Sample.partners.World :=
  (Sample.partners.upTo (Sample.task.program Sample.setup) 9
    { world := tableCreated, clock := fun _ => 8 }).2.world

theorem retry_converges_sample :
    tableCreated.view.table Sample.spec.tableSpec ≠ none ∧
      (dataCopied.files "s3://there/orders/1").isSome ∧
      dataCopied.view.partition Sample.spec = none ∧
      (∃ out, (Sample.run 9 dataCopied).1 = .ok out ∧ out.isSuccessful = true) ∧
      (Sample.run 7 Sample.world).2.world.view.Similar (Sample.run 9 dataCopied).2.world.view := by
  have hfirst : Sample.task.Interrupted Sample.partners Sample.setup Sample.world tableCreated :=
    ⟨_, _, _, Partners.reaches_upTo _ _ _, rfl⟩
  have hsecond : Sample.task.Interrupted Sample.partners Sample.setup tableCreated dataCopied :=
    ⟨_, _, _, Partners.reaches_upTo _ _ _, rfl⟩
  obtain ⟨hrun, -, -, hsimilar⟩ := retry_converges Sample.partners Sample.setup Sample.task
    (fun _ => 7) (fun _ => 9) Sample.isProper Sample.isIdentified Sample.dataApart
    Sample.dataApart_table rfl rfl ((Relation.ReflTransGen.single hfirst).tail hsecond)
  exact ⟨nofun, rfl, rfl, hrun, hsimilar⟩

end ReplicationTask

end CatalogReplication
