import CatalogReplication.Proofs.Task.Update

/-!
# Taking up an update again

An update that was cut off can be taken up again from wherever it got to.

* `Item.upToDate_of_published`: once the record is there with its data, nothing is left to do.
* `Item.completes_of_underway`: whatever an update completes to, it completes to the same from every
  stage of it, up to what catalogs keep up by themselves.
-/

namespace CatalogReplication.Task

open Catalog (View)

/-- A setup with all that tasks ask for: the source has a name, the builder knows by texts what to
preserve, and there is a policy. -/
structure Setup.IsProper (o : Setup) : Prop where
  named : ∃ name, o.source.name = .text name
  builds : ∃ b, o.builder = some b ∧ b.IsTextual
  decides : ∃ policy, o.policy = some policy

namespace Item

variable {ρ : Type} [Catalogued ρ]

/-- The record names itself as it is found. -/
def IsIdentified (i : Item ρ) : Prop := Replicable.spec i.record = Catalogued.key ρ i.spec

/-- The places that the data step of a record has to do with lie apart. -/
def DataApart (E : Partners) (o : Setup) (i : Item ρ) : Prop :=
  i.ownsData = true → ∀ b,
    o.source.rebase o.destination (.ofText? (Maintained.body i.record).location) = .ok b →
    LocationsApart E.carrier o.dataOptions (Maintained.body i.record).location b

variable {E : Partners} {o : Setup} {i : Item ρ} {w w' : E.World} {x : ρ} {v v' : View}

section

variable {files : E.carrier.State} {n : Int}

theorem spec_of_wants (hx : i.Wants o w x) : Replicable.spec x = Replicable.spec i.record := by
  obtain ⟨b, -, hbuild⟩ := hx
  obtain ⟨parameters, location, -, -, rfl⟩ := Builder.build_eq_ok_iff.1 hbuild
  exact Catalogued.spec_withBody _ _

theorem rebase_of_wants (hx : i.Wants o w x) :
    o.source.rebase o.destination (.ofText? (Maintained.body i.record).location)
      = .ok (Maintained.body x).location := by
  obtain ⟨b, -, hbuild⟩ := hx
  exact Builder.rebase_of_build hbuild

/-- The data of a record is settled once it was carried. -/
theorem settled_of_carried (ha : i.DataApart E o) (hx : i.Wants o w x)
    (hc : i.Carried o w x files n) (howns : i.ownsData = true) :
    Settled E.carrier o.dataOptions files (Maintained.body i.record).location
      (Maintained.body x).location := by
  rw [Carried, if_pos howns] at hc
  exact settled_of_carries (ha howns _ (rebase_of_wants hx)) hc

/-- Carrying from where the data was carried to is nothing. -/
theorem carried_of_settled {y : ρ}
    (hs : i.ownsData = true → Settled E.carrier o.dataOptions w.files
      (Maintained.body i.record).location (Maintained.body y).location) :
    i.Carried o w y w.files 0 := by
  unfold Carried
  split
  · exact .settled (hs ‹_›)
  · exact ⟨rfl, rfl⟩

/-- What is wanted depends on what is there under the item's spec. -/
theorem Wants.congr (h : i.existing w' = i.existing w) (hx : i.Wants o w x) : i.Wants o w' x := by
  obtain ⟨b, hb, hbuild⟩ := hx
  exact ⟨b, hb, by rwa [h]⟩

theorem Tolerated.congr (h : i.existing w' = i.existing w) (ht : i.Tolerated o w) :
    i.Tolerated o w' := fun e he => ht e (h ▸ he)

theorem Houses.congr {d : DatabaseRecord} (h : w'.sourceView = w.sourceView)
    (hd : Houses o w x d) : Houses o w' x d := by
  unfold Houses at hd ⊢
  rwa [h]

/-- To an item, two worlds are alike if the source shows the same and the destination the same up to
what it keeps up by itself, and exactly the same under the item's own spec. -/
structure Alike (i : Item ρ) (w w' : E.World) : Prop where
  source : w'.sourceView = w.sourceView
  view : w.view.Similar w'.view
  existing : i.existing w' = i.existing w

theorem Alike.of_view_eq (hs : w'.source = w.source) (hv : w'.view = w.view) : i.Alike w w' :=
  ⟨congrArg E.source.view hs, hv ▸ .refl _, congrArg (Catalogued.find i.spec) hv⟩

end

variable [DecidableEq ρ]

/-- What is published is found, with the comparable part of what was wanted. -/
theorem Published.find (hi : i.IsIdentified) (hx : i.Wants o w x) (h : i.Published o w x v) :
    ∃ stored, Catalogued.find i.spec v = some stored ∧ comparable stored = comparable x := by
  have hspec : Replicable.spec x = Catalogued.key ρ i.spec := (spec_of_wants hx).trans hi
  cases h with
  | @created d now id hdecide hd hr =>
    refine ⟨Catalog.stamp now id none x, ?_, comparable_stamp now id none x⟩
    rw [← Catalogued.find_key, hspec]
    exact Catalogued.find_put_self _ _ _
  | @altered now id created hdecide hr =>
    refine ⟨Catalog.stamp now id created x, ?_, comparable_stamp now id created x⟩
    rw [← Catalogued.find_key, Catalogued.alterKey_of_spec hspec]
    exact Catalogued.find_put_self _ _ _
  | kept hdecide => exact Action.decide_eq_keep_iff.1 hdecide

/-! ### Nothing left to do -/

/-- Nothing is left to do for an item. -/
def UpToDate (o : Setup) (i : Item ρ) (w : E.World) : Prop :=
  ∃ x, i.Wants o w x ∧ i.Tolerated o w ∧ Action.decide (i.existing w) x = .keep ∧
    (i.ownsData = true → Settled E.carrier o.dataOptions w.files
      (Maintained.body i.record).location (Maintained.body x).location)

theorem completes_of_upToDate (h : i.UpToDate o w) : i.Completes o w w.files w.view := by
  obtain ⟨x, hx, ht, hkeep, hs⟩ := h
  exact ⟨x, 0, hx, ht, carried_of_settled hs, Int.le_refl 0, .kept hkeep⟩

/-- **A record that was published with its data is up to date.** -/
theorem upToDate_of_published {n : Int} (ho : o.IsProper) (hi : i.IsIdentified)
    (ha : i.DataApart E o) (hx : i.Wants o w x) (hc : i.Carried o w x w'.files n)
    (hv : i.Published o w x w'.view) : i.UpToDate o w' := by
  obtain ⟨stored, hstored, hcomparable⟩ := hv.find hi hx
  have hexisting : i.existing w' = some stored := hstored
  have hsettled := settled_of_carried ha hx hc
  obtain ⟨name, hname⟩ := ho.named
  obtain ⟨policy, hpolicy⟩ := ho.decides
  obtain ⟨b, hb, htextual⟩ := ho.builds
  obtain ⟨b', hb', hbuild⟩ := hx
  rw [hb] at hb'
  cases hb'
  obtain ⟨x', hbuild', hcomparable'⟩ := Builder.build_again htextual hbuild hcomparable
  have hreplica := Builder.isReplicaOf_build hname hbuild hcomparable
  refine ⟨x', ⟨b, hb, by rw [hexisting]; exact hbuild'⟩, fun e he => ?_, ?_, fun howns => ?_⟩
  · rw [hexisting] at he
    cases he
    exact ⟨policy, none, hpolicy, if_pos hreplica⟩
  · exact Action.decide_eq_keep_iff.2 ⟨stored, hexisting, hcomparable'.symm⟩
  · rw [location_eq_of_comparable_eq (hcomparable'.trans hcomparable)]
    exact hsettled howns

/-! ### The same from similar worlds -/

section

variable {files files' : E.carrier.State} {n : Int}

theorem Alike.published (h : i.Alike w w') (hv : i.Published o w x v) :
    ∃ v', i.Published o w' x v' ∧ v.Similar v' := by
  cases hv with
  | @created d now id hdecide hd hr =>
    have hdatabase := h.view.ensureDatabase d
    rw [hdatabase.rejection?] at hr
    exact ⟨Catalogued.put (Replicable.spec x) (Catalog.stamp now id none x)
        (w'.view.ensureDatabase d), .created (by rwa [h.existing]) (hd.congr h.source) hr,
      Catalogued.similar_put hdatabase rfl⟩
  | @altered now id created hdecide hr =>
    rw [h.view.rejection?] at hr
    exact ⟨Catalogued.put (Catalogued.alterKey i.spec x) (Catalog.stamp now id created x) w'.view,
      .altered (by rwa [h.existing]) hr, Catalogued.similar_put h.view rfl⟩
  | kept hdecide => exact ⟨_, .kept (by rwa [h.existing]), h.view⟩

/-- Up to what catalogs keep up, there is one content of the destination to publish to. -/
theorem published_similar (hv : i.Published o w x v) (hv' : i.Published o w x v') :
    v.Similar v' := by
  cases hv with
  | created hdecide hd hr =>
    cases hv' with
    | created _ hd' _ =>
      obtain rfl := hd.unique hd'
      exact Catalogued.similar_put (.refl _) (by rw [unstamped_stamp, unstamped_stamp])
    | altered h' _ => rw [hdecide] at h'; cases h'
    | kept h' => rw [hdecide] at h'; cases h'
  | altered hdecide hr =>
    cases hv' with
    | created h' _ _ => rw [hdecide] at h'; cases h'
    | altered _ _ =>
      exact Catalogued.similar_put (.refl _) (by rw [unstamped_stamp, unstamped_stamp])
    | kept h' => rw [hdecide] at h'; cases h'
  | kept hdecide =>
    cases hv' with
    | created h' _ _ => rw [hdecide] at h'; cases h'
    | altered h' _ => rw [hdecide] at h'; cases h'
    | kept _ => exact .refl _

/-- An update completes to one set of files and, up to what catalogs keep up, to one content. -/
theorem completes_similar (h : i.Completes o w files v) (h' : i.Completes o w files' v') :
    files = files' ∧ v.Similar v' := by
  obtain ⟨x, n, hx, -, hc, -, hv⟩ := h
  obtain ⟨x', n', hx', -, hc', -, hv'⟩ := h'
  obtain rfl := hx.unique hx'
  exact ⟨(hc.unique hc').1, published_similar hv hv'⟩

/-- An update completes alike from worlds that are alike. -/
theorem completes_of_alike (ha : i.Alike w w') (hf : w'.files = w.files)
    (h : i.Completes o w files v) : ∃ v', i.Completes o w' files v' ∧ v.Similar v' := by
  obtain ⟨x, n, hx, ht, hc, hn, hv⟩ := h
  obtain ⟨v', hv', hsimilar⟩ := ha.published hv
  have hc' : i.Carried o w' x files n := by
    unfold Carried at hc ⊢
    rwa [hf]
  exact ⟨v', ⟨x, n, hx.congr ha.existing, ht.congr ha.existing, hc', hn, hv'⟩, hsimilar⟩

end

/-! ### Taking up -/

/-- **An update can be taken up from every stage**: it completes to the same files, and to the same
content of the destination up to what catalogs keep up. -/
theorem completes_of_underway {files : E.carrier.State} (ho : o.IsProper) (hi : i.IsIdentified)
    (ha : i.DataApart E o) (h : i.Completes o w files v) (hu : i.Underway o w w') :
    ∃ v', i.Completes o w' files v' ∧ v.Similar v' := by
  obtain ⟨x, n, hx, ht, hc, hn, hv⟩ := id h
  cases hu with
  | early hs hd hf =>
    have halike : i.Alike w w' := .of_view_eq hs (congrArg E.destination.view hd)
    rcases hf with hf | hf
    · exact completes_of_alike halike hf h
    · -- the data is in place: what is left is to publish
      obtain rfl := hf x files n hx hc
      obtain ⟨v', hv', hsimilar⟩ := halike.published hv
      exact ⟨v', ⟨x, 0, hx.congr halike.existing, ht.congr halike.existing,
        carried_of_settled (settled_of_carried ha hx hc), Int.le_refl 0, hv'⟩, hsimilar⟩
  | @late x' n' hs hx' ht' hc' hv' =>
    obtain rfl := hx.unique hx'
    obtain rfl := (hc.unique hc').1
    rcases hv' with ⟨hnone, d, hd, hview⟩ | hv'
    · -- the database is there: making it again changes nothing
      have hnone' : i.existing w' = none := by
        rw [existing, hview, Catalogued.find_ensureDatabase]
        exact hnone
      have hagain : w'.view.ensureDatabase d = w.view.ensureDatabase d := by
        rw [hview, View.ensureDatabase_ensureDatabase]
      have hx' := hx.congr (hnone'.trans hnone.symm)
      have ht' := ht.congr (hnone'.trans hnone.symm)
      have hc' := carried_of_settled (settled_of_carried ha hx hc)
      have hdecide : Action.decide (i.existing w) x = .create :=
        Action.decide_eq_create_iff.2 hnone
      have hdecide' : Action.decide (i.existing w') x = .create :=
        Action.decide_eq_create_iff.2 hnone'
      have hv' : i.Published o w' x v := by
        cases hv with
        | created _ hd' hr =>
          obtain rfl := hd.unique hd'
          rw [← hagain] at hr ⊢
          exact .created hdecide' (hd.congr (congrArg E.source.view hs)) hr
        | altered h' _ => rw [hdecide] at h'; cases h'
        | kept h' => rw [hdecide] at h'; cases h'
      exact ⟨v, ⟨x, 0, hx', ht', hc', Int.le_refl 0, hv'⟩, .refl v⟩
    · have hup := upToDate_of_published ho hi ha hx hc' hv'
      exact ⟨w'.view, completes_of_upToDate hup, published_similar hv hv'⟩

end Item

end CatalogReplication.Task
