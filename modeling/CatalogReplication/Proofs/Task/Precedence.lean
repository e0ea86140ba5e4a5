import CatalogReplication.Catalog.Stamping
import CatalogReplication.Proofs.Task.Builder

/-!
# Which values win

Several have a say in the parameters of a destination record: where the record comes from, what the
source has, and what the destination may keep. `Builder.Merged` says who wins at every key, which
leaves one set of parameters only (`Merged.unique`), and `Builder.Follows` says the same of all that
a record holds: just these records are built (`build_eq_ok_iff_follows`). What was built and stored
may be built again any number of times without a change in what counts (`build_follows_precedence`).
-/

namespace CatalogReplication

namespace Builder

/-- The builder that keeps the parameters that start with given texts. -/
def ofStarts (starts : List String) : Builder := ⟨starts.map .text⟩

/-- Keys that start with one of some texts. -/
def Starts (starts : List String) (k : String) : Prop := ∃ s ∈ starts, s.toList <+: k.toList

/-- Keys at which the place that a record comes from has no say. -/
structure IsFree (source : Parameters) (k : String) : Prop where
  ne_cluster : k ≠ sourceClusterKey
  unchanged : k = sourceChangeKey → source.get? lastChangeKey = none

/-- Keys for which the source gives no value: those that catalogs write, and those it doesn't have. -/
def Lacks (source : Parameters) (k : String) : Prop := k ∈ maintainedKeys ∨ source.get? k = none

/-- Parameters in which the place that a record comes from wins over the source, and the source over
what the destination had and is to keep. -/
structure Merged (name : String) (starts : List String) (source : Parameters)
    (existing : Option Parameters) (built : Parameters) : Prop where
  cluster : built.get? sourceClusterKey = some name
  change : ∀ time, source.get? lastChangeKey = some time → built.get? sourceChangeKey = some time
  given : ∀ k v, IsFree source k → k ∉ maintainedKeys → source.get? k = some v →
    built.get? k = some v
  kept : ∀ k, IsFree source k → Lacks source k → Starts starts k →
    built.get? k = existing.bind (Parameters.get? k)
  dropped : ∀ k, IsFree source k → Lacks source k → ¬ Starts starts k → built.get? k = none

section Merged

variable {name : String} {starts : List String} {source built built' : Parameters}
  {existing : Option Parameters}

theorem given_or_lacks (source : Parameters) (k : String) :
    (k ∉ maintainedKeys ∧ ∃ v, source.get? k = some v) ∨ Lacks source k := by
  by_cases hk : k ∈ maintainedKeys
  · exact .inr (.inl hk)
  · cases hv : source.get? k with
    | none => exact .inr (.inr hv)
    | some v => exact .inl ⟨hk, v, rfl⟩

/-- There is only one way to merge. -/
theorem Merged.unique (h : Merged name starts source existing built)
    (h' : Merged name starts source existing built') : built = built' := by
  refine Parameters.ext_get? fun k => ?_
  by_cases hcluster : k = sourceClusterKey
  · rw [hcluster, h.cluster, h'.cluster]
  · by_cases hfree : k = sourceChangeKey → source.get? lastChangeKey = none
    · have hk : IsFree source k := ⟨hcluster, hfree⟩
      rcases given_or_lacks source k with ⟨hmaintained, v, hv⟩ | hlacks
      · rw [h.given k v hk hmaintained hv, h'.given k v hk hmaintained hv]
      · by_cases hstarts : Starts starts k
        · rw [h.kept k hk hlacks hstarts, h'.kept k hk hlacks hstarts]
        · rw [h.dropped k hk hlacks hstarts, h'.dropped k hk hlacks hstarts]
    · obtain ⟨hchange, hsome⟩ := Classical.not_imp.1 hfree
      obtain ⟨time, htime⟩ := Option.ne_none_iff_exists'.1 hsome
      rw [hchange, h.change time htime, h'.change time htime]

end Merged

/-! ### The parameters that are built -/

theorem isTextual_ofStarts (starts : List String) : (ofStarts starts).IsTextual := by
  intro v hv
  obtain ⟨t, -, rfl⟩ := List.mem_map.1 hv
  exact ⟨t, rfl⟩

theorem startsWithOne_texts (k : String) (starts : List String) :
    startsWithOne k (starts.map .text) = .ok (starts.any fun s => s.toList.isPrefixOf k.toList) := by
  induction starts with
  | nil => rfl
  | cons s rest ih =>
    rw [List.map_cons, startsWithOne, ih, List.any_cons]
    cases s.toList.isPrefixOf k.toList <;> rfl

theorem keeps_ofStarts_iff {starts : List String} {k : String} :
    (ofStarts starts).keeps k = true ↔ Starts starts k := by
  unfold keeps ofStarts Starts
  simp only [startsWithOne_texts, List.any_eq_true, List.isPrefixOf_iff_prefix]

theorem get?_provenance_of_isFree {source : Cluster} {p : Parameters} {k : String}
    (h : IsFree p k) : (provenance source p).get? k = p.comparable.get? k := by
  unfold provenance
  split
  · rename_i time htime
    have hchange : k ≠ sourceChangeKey := fun hk => by
      rw [h.unchanged hk] at htime
      cases htime
    rw [Parameters.get?_insert, if_neg hchange, Parameters.get?_insert, if_neg h.ne_cluster]
  · rw [Parameters.get?_insert, if_neg h.ne_cluster]

theorem get?_provenance_sourceChangeKey {source : Cluster} {p : Parameters} {time : String}
    (h : p.get? lastChangeKey = some time) :
    (provenance source p).get? sourceChangeKey = some time := by
  unfold provenance
  simp only [h]
  rw [Parameters.get?_insert, if_pos rfl]

/-- The builder merges. -/
theorem merged_parameters {name : String} {source : Cluster} (hname : source.name = .text name)
    {starts : List String} {p q : Parameters} {existing : Option Body}
    (h : (ofStarts starts).parameters source p existing = .ok q) :
    Merged name starts p (existing.map Body.parameters) q := by
  have hget := get?_parameters h
  have hlacks : ∀ k, IsFree p k → Lacks p k → (provenance source p).get? k = none := by
    intro k hk hlacks
    rw [get?_provenance_of_isFree hk, Parameters.get?_comparable]
    rcases hlacks with hmaintained | hnone
    · simp [hmaintained]
    · simp [hnone]
  refine ⟨?_, fun time htime => ?_, fun k v hk hmaintained hv => ?_, fun k hk hk' hstarts => ?_,
    fun k hk hk' hstarts => ?_⟩
  · rw [hget, get?_provenance_sourceClusterKey, hname]
    rfl
  · rw [hget, get?_provenance_sourceChangeKey htime]
    rfl
  · rw [hget, get?_provenance_of_isFree hk, Parameters.get?_comparable]
    simp [hmaintained, hv]
  · rw [hget, hlacks k hk hk', if_pos (keeps_ofStarts_iff.2 hstarts)]
    cases existing <;> rfl
  · rw [hget, hlacks k hk hk', if_neg (mt keeps_ofStarts_iff.1 hstarts)]
    rfl

/-! ### The record that is built -/

variable {ρ : Type} [Maintained ρ]

/-- What the destination should hold for a record: it lies where the source's location is rebased
to, its parameters are merged, its stamp is that of what the destination had, and all else is as in
the source. -/
structure Follows (name : String) (starts : List String) (source destination : Cluster) (record : ρ)
    (existing : Option ρ) (x : ρ) : Prop where
  location : source.rebase destination (.ofText? (Maintained.body record).location) =
    .ok (Maintained.body x).location
  parameters : Merged name starts (Maintained.body record).parameters
    (existing.map fun e => (Maintained.body e).parameters) (Maintained.body x).parameters
  stamp : (Maintained.body x).stamp = (existing.map fun e => (Maintained.body e).stamp).getD {}
  rest : Maintained.withBody (Maintained.body record) x = record

variable {name : String} {starts : List String} {source destination : Cluster} {record x : ρ}
  {existing : Option ρ}

theorem follows_of_build (hname : source.name = .text name)
    (h : (ofStarts starts).build source destination record existing = .ok x) :
    Follows name starts source destination record existing x := by
  obtain ⟨q, location, hq, hlocation, rfl⟩ := build_eq_ok_iff.1 h
  have hmerged := merged_parameters hname hq
  rw [Option.map_map] at hmerged
  refine ⟨?_, ?_, ?_, ?_⟩
  · rw [Maintained.body_withBody]
    exact hlocation
  · rw [Maintained.body_withBody]
    exact hmerged
  · rw [Maintained.body_withBody, Option.map_map]
    rfl
  · rw [Maintained.withBody_withBody, Maintained.withBody_body]

/-- Only one record is as it should be. -/
theorem Follows.unique {y : ρ} (h : Follows name starts source destination record existing x)
    (h' : Follows name starts source destination record existing y) : x = y := by
  have hlocation := Except.ok.inj (h.location.symm.trans h'.location)
  have hparameters := h.parameters.unique h'.parameters
  have hstamp := h.stamp.trans h'.stamp.symm
  have hbody : Maintained.body x = Maintained.body y :=
    (Body.mk.injEq ..).mpr ⟨hlocation, hparameters, hstamp⟩
  calc x = Maintained.withBody (Maintained.body x) record := by
          rw [← h.rest, Maintained.withBody_withBody, Maintained.withBody_body]
    _ = Maintained.withBody (Maintained.body y) record := by rw [hbody]
    _ = y := by rw [← h'.rest, Maintained.withBody_withBody, Maintained.withBody_body]

theorem exists_build {b : Builder} (hb : b.IsTextual) {location : Option String}
    (h : source.rebase destination (.ofText? (Maintained.body record).location) = .ok location)
    (existing : Option ρ) : ∃ x, b.build source destination record existing = .ok x := by
  obtain ⟨q, hq⟩ := parameters_ok hb source (Maintained.body record).parameters
    (existing.map Maintained.body)
  exact ⟨_, build_eq_ok_iff.2 ⟨q, location, hq, h, rfl⟩⟩

theorem build_of_rebase_error {b : Builder} (hb : b.IsTextual) {e : Failure}
    (h : source.rebase destination (.ofText? (Maintained.body record).location) = .error e)
    (existing : Option ρ) : b.build source destination record existing = .error e := by
  obtain ⟨q, hq⟩ := parameters_ok hb source (Maintained.body record).parameters
    (existing.map Maintained.body)
  unfold build body
  rw [hq, h]
  rfl

/-- **Just the records that follow the precedence are built.** -/
theorem build_eq_ok_iff_follows (hname : source.name = .text name) :
    (ofStarts starts).build source destination record existing = .ok x ↔
      Follows name starts source destination record existing x := by
  refine ⟨follows_of_build hname, fun h => ?_⟩
  obtain ⟨y, hy⟩ := exists_build (isTextual_ofStarts starts) h.location existing
  rw [hy, (follows_of_build hname hy).unique h]

/-! ### Building again -/

/-- How a catalog stores a record: when, under which number, and with which time of creation. -/
structure Storing where
  now : Int
  id : Int
  created : Option Int

/-- The record as it is stored. -/
def Storing.stamp (s : Storing) (r : ρ) : ρ := Catalog.stamp s.now s.id s.created r

/-- Builds again and again, each time over what was built before as it is stored. -/
def rebuild (b : Builder) (source destination : Cluster) (record : ρ) :
    List Storing → ρ → Except Failure ρ
  | [], x => .ok x
  | s :: rest, x =>
    match b.build source destination record (some (s.stamp x)) with
    | .ok y => b.rebuild source destination record rest y
    | .error e => .error e

/-- Over anything with the comparable part of what was built, that part is built again. -/
theorem build_stamp {b : Builder} (hb : b.IsTextual) {y : ρ}
    (h : b.build source destination record existing = .ok x) (hy : comparable y = comparable x)
    (s : Storing) : ∃ z, b.build source destination record (some (s.stamp y)) = .ok z ∧
      comparable z = comparable x := by
  have hstored : comparable (s.stamp y) = comparable x :=
    (comparable_stamp s.now s.id s.created y).trans hy
  obtain ⟨z, hz, hcomparable⟩ := build_again hb h hstored
  exact ⟨z, hz, hcomparable.trans hstored⟩

theorem rebuild_ok {b : Builder} (hb : b.IsTextual)
    (h : b.build source destination record existing = .ok x) (l : List Storing) :
    ∀ {y : ρ}, comparable y = comparable x → ∃ z, b.rebuild source destination record l y = .ok z ∧
      comparable z = comparable x := by
  induction l with
  | nil => exact fun {y} hy => ⟨y, rfl, hy⟩
  | cons s rest ih =>
    intro y hy
    obtain ⟨y', hy', hcomparable⟩ := build_stamp hb h hy s
    unfold rebuild
    rw [hy']
    exact ih hcomparable

/-- **The builder follows a fixed precedence and reaches a fixed point.** A record is built unless
its location can't be rebased, and it is the one that follows the precedence. Building over it as it
is stored makes a record with the same comparable part, any number of times, so what only the
destination has and is to keep stays. -/
theorem build_follows_precedence (hname : source.name = .text name) (starts : List String)
    (destination : Cluster) (record : ρ) (existing : Option ρ) :
    (∀ x, (ofStarts starts).build source destination record existing = .ok x ↔
      Follows name starts source destination record existing x) ∧
    (∀ location, source.rebase destination (.ofText? (Maintained.body record).location) =
      .ok location → ∃ x, (ofStarts starts).build source destination record existing = .ok x) ∧
    (∀ e, source.rebase destination (.ofText? (Maintained.body record).location) = .error e →
      (ofStarts starts).build source destination record existing = .error e) ∧
    ∀ x, (ofStarts starts).build source destination record existing = .ok x →
      (∀ s : Storing, ∃ y,
        (ofStarts starts).build source destination record (some (s.stamp x)) = .ok y ∧
          comparable y = comparable x) ∧
      ∀ l, ∃ z, (ofStarts starts).rebuild source destination record l x = .ok z ∧
        comparable z = comparable x ∧
        ∀ k v e, k ∉ maintainedKeys → IsFree (Maintained.body record).parameters k →
          (Maintained.body record).parameters.get? k = none → Starts starts k →
          existing = some e → (Maintained.body e).parameters.get? k = some v →
          (Maintained.body z).parameters.get? k = some v := by
  have htextual := isTextual_ofStarts starts
  refine ⟨fun x => build_eq_ok_iff_follows hname, fun location hlocation => ?_, fun e he => ?_,
    fun x hx => ⟨fun s => build_stamp htextual hx rfl s, fun l => ?_⟩⟩
  · exact exists_build htextual hlocation existing
  · exact build_of_rebase_error htextual he existing
  · obtain ⟨z, hz, hcomparable⟩ := rebuild_ok htextual hx l rfl
    refine ⟨z, hz, hcomparable, ?_⟩
    rintro k v e hmaintained hfree hnone hstarts rfl hv
    have hkept := (follows_of_build hname hx).parameters.kept k hfree (.inr hnone) hstarts
    rw [get?_eq_of_comparable_eq hcomparable (by simpa using hmaintained), hkept]
    exact hv

namespace Sample

/-- A cluster with its data below a root. -/
def cluster (name root : String) : Cluster := ⟨.text name, .text root⟩

/-- A table of the source that claims to come from elsewhere. -/
def table (location : String) : TableRecord :=
  { database := "d"
    name := "t"
    body := {
      location := some location
      parameters := .ofList [(sourceClusterKey, "elsewhere"), ("rows", "10"), (lastChangeKey, "7")] } }

/-- What the destination had of it. -/
def replica : TableRecord :=
  { database := "d"
    name := "t"
    body := { parameters := .ofList [("rows", "9"), ("site.tier", "cold"), ("stale", "yes")] } }

end Sample

open Sample in
/-- Over what the destination had, and then twice more; and with a location that can't be read. -/
theorem build_follows_precedence_sample :
    (∃ x z, (ofStarts ["site."]).build (cluster "src" "/src/") (cluster "dst" "/dst")
        (table "/src/t") (some replica) = .ok x ∧
      (ofStarts ["site."]).rebuild (cluster "src" "/src/") (cluster "dst" "/dst") (table "/src/t")
        [⟨5, 1, none⟩, ⟨9, 1, some 5⟩] x = .ok z ∧ comparable z = comparable x ∧
      x.body.location = some "/dst/t" ∧ x.body.parameters.get? sourceClusterKey = some "src" ∧
      x.body.parameters.get? sourceChangeKey = some "7" ∧
      x.body.parameters.get? "rows" = some "10" ∧ x.body.parameters.get? "stale" = none ∧
      z.body.parameters.get? "site.tier" = some "cold") ∧
    (ofStarts ["site."]).build (cluster "src" "/src/") (cluster "dst" "/dst") (table "http://[/t")
      (some replica) = .error .authority := by
  have hname : (cluster "src" "/src/").name = .text "src" := rfl
  obtain ⟨hfollows, hok, -, hagain⟩ := build_follows_precedence hname ["site."]
    (cluster "dst" "/dst") (table "/src/t") (some replica)
  obtain ⟨x, hx⟩ := hok (some "/dst/t") rfl
  have hrules := (hfollows x).1 hx
  obtain ⟨z, hz, hcomparable, hkept⟩ := (hagain x hx).2 [⟨5, 1, none⟩, ⟨9, 1, some 5⟩]
  have hfree : ∀ k, k ≠ sourceClusterKey → k ≠ sourceChangeKey →
      IsFree (Maintained.body (table "/src/t")).parameters k :=
    fun k hcluster hchange => ⟨hcluster, fun hk => absurd hk hchange⟩
  refine ⟨⟨x, z, hx, hz, hcomparable, ?_, hrules.parameters.cluster, ?_, ?_, ?_, ?_⟩, ?_⟩
  · exact (Except.ok.inj hrules.location).symm
  · exact hrules.parameters.change "7" (by decide)
  · exact hrules.parameters.given "rows" "10" (hfree _ (by decide) (by decide)) (by decide) (by decide)
  · refine hrules.parameters.dropped "stale" (hfree _ (by decide) (by decide)) (.inr (by decide)) ?_
    simp [Starts]
  · exact hkept "site.tier" "cold" replica (by decide) (hfree _ (by decide) (by decide)) (by decide)
      ⟨"site.", by simp, by decide⟩ rfl (by decide)
  · exact (build_follows_precedence hname ["site."] (cluster "dst" "/dst") (table "http://[/t")
      (some replica)).2.2.1 .authority rfl

end Builder

end CatalogReplication
