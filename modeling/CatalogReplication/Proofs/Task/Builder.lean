import CatalogReplication.Proofs.Record.Comparable
import CatalogReplication.Task.ConflictPolicy

/-!
# Building again

What the builder makes of a source record is told by its parameters: those that say where the record
came from win over those of the source, and these over what the destination may keep. So building
again from what was built and stored changes nothing that counts (`Builder.build_again`), and what
was built passes for a replica (`Builder.isReplicaOf_build`).
-/

namespace CatalogReplication

namespace Builder

/-- The beginnings of the parameters that are kept are texts. -/
def IsTextual (b : Builder) : Prop := ∀ v ∈ b.preserved, ∃ t, v = .text t

/-- Whether a parameter of the destination is kept. -/
def keeps (b : Builder) (k : String) : Bool :=
  match startsWithOne k b.preserved with
  | .ok kept => kept
  | .error _ => false

theorem startsWithOne_ok (key : String) :
    ∀ {starts : List Value}, (∀ v ∈ starts, ∃ t, v = .text t) →
      ∃ kept, startsWithOne key starts = .ok kept
  | [], _ => ⟨false, rfl⟩
  | v :: rest, h => by
    obtain ⟨t, rfl⟩ := h v List.mem_cons_self
    unfold startsWithOne
    split
    · exact ⟨true, rfl⟩
    · exact startsWithOne_ok key fun w hw => h w (List.mem_cons_of_mem _ hw)

theorem preserve_ok {b : Builder} (hb : b.IsTextual) :
    ∀ (l : List (String × String)) (p : Parameters), ∃ q, b.preserve l p = .ok q
  | [], p => ⟨p, rfl⟩
  | (k, v) :: rest, p => by
    obtain ⟨kept, hk⟩ := startsWithOne_ok k hb
    unfold preserve
    rw [hk]
    split
    · exact preserve_ok hb rest p
    · cases kept with
      | true => exact preserve_ok hb rest _
      | false => exact preserve_ok hb rest p

/-- Preserving adds what is kept and missing. -/
theorem get?_preserve {b : Builder} :
    ∀ {l : List (String × String)} {p q : Parameters}, b.preserve l p = .ok q → ∀ k,
      q.get? k = (p.get? k).or (if b.keeps k then l.lookup k else none)
  | [], p, q, h, k => by
    cases h
    simp
  | (k₀, v₀) :: rest, p, q, h, k => by
    unfold preserve at h
    split at h
    · rename_i hsome
      rw [get?_preserve h k]
      by_cases hk : k = k₀
      · subst hk
        obtain ⟨v, hv⟩ := Option.isSome_iff_exists.1 hsome
        simp [hv]
      · have hne : (k == k₀) = false := beq_eq_false_iff_ne.2 hk
        simp [List.lookup_cons, hne]
    · rename_i hnone
      have hnone' : p.get? k₀ = none := by simpa using hnone
      split at h
      · cases h
      · rename_i hkept
        rw [get?_preserve h k, Parameters.get?_insert]
        by_cases hk : k = k₀
        · subst hk
          simp [hnone', keeps, hkept]
        · have hne : (k == k₀) = false := beq_eq_false_iff_ne.2 hk
          simp [List.lookup_cons, hne, hk]
      · rename_i hkept
        rw [get?_preserve h k]
        by_cases hk : k = k₀
        · subst hk
          simp [hnone', keeps, hkept]
        · have hne : (k == k₀) = false := beq_eq_false_iff_ne.2 hk
          simp [List.lookup_cons, hne]

/-! ### The parameters of a destination record -/

theorem get?_parameters {b : Builder} {source : Cluster} {p q : Parameters} {existing : Option Body}
    (h : b.parameters source p existing = .ok q) (k : String) :
    q.get? k = ((provenance source p).get? k).or
      (if b.keeps k then existing.bind fun e => e.parameters.get? k else none) := by
  cases existing with
  | none =>
    cases h
    simp
  | some e => exact get?_preserve h k

theorem parameters_ok {b : Builder} (hb : b.IsTextual) (source : Cluster) (p : Parameters)
    (existing : Option Body) : ∃ q, b.parameters source p existing = .ok q := by
  cases existing with
  | none => exact ⟨_, rfl⟩
  | some e => exact preserve_ok hb _ _

theorem get?_provenance_sourceClusterKey (source : Cluster) (p : Parameters) :
    (provenance source p).get? sourceClusterKey = some source.name.display := by
  unfold provenance
  split
  · rw [Parameters.get?_insert, if_neg (by decide), Parameters.get?_insert, if_pos rfl]
  · rw [Parameters.get?_insert, if_pos rfl]

/-- Parameters made from what was made before differ from it only in what catalogs write. -/
theorem get?_parameters_again {b : Builder} {source : Cluster} {p q q' : Parameters}
    {existing : Option Body} {stored : Body} (h : b.parameters source p existing = .ok q)
    (h' : b.parameters source p (some stored) = .ok q') {k : String}
    (hk : stored.parameters.get? k = q.get? k) : q'.get? k = q.get? k := by
  rw [get?_parameters h', Option.bind_some, hk, get?_parameters h]
  cases (provenance source p).get? k <;> cases b.keeps k <;> simp

/-! ### Why building fails -/

theorem startsWithOne_error {key : String} {e : Failure} :
    ∀ {starts : List Value}, startsWithOne key starts = .error e → e = .arguments
  | [], h => by cases h
  | v :: rest, h => by
    cases v with
    | text t =>
      simp only [startsWithOne] at h
      split at h
      · cases h
      · exact startsWithOne_error h
    | _ =>
      cases h
      rfl

theorem preserve_error {b : Builder} {e : Failure} :
    ∀ {l : List (String × String)} {p : Parameters}, b.preserve l p = .error e → e = .arguments
  | [], p, h => by cases h
  | (k, v) :: rest, p, h => by
    unfold preserve at h
    split at h
    · exact preserve_error h
    · split at h
      · rename_i e' hstarts
        cases h
        exact startsWithOne_error hstarts
      · exact preserve_error h
      · exact preserve_error h

theorem parameters_error {b : Builder} {source : Cluster} {p : Parameters} {existing : Option Body}
    {e : Failure} (h : b.parameters source p existing = .error e) : e = .arguments := by
  cases existing with
  | none => cases h
  | some stored => exact preserve_error h

theorem rebase_error {source destination : Cluster} {location : Value} {e : Failure}
    (h : source.rebase destination location = .error e) : e = .authority ∨ e = .member := by
  unfold Cluster.rebase at h
  split at h
  · cases h
  · split at h
    · split at h
      · cases h
      · cases h
        exact .inl rfl
    · cases h
      exact .inr rfl

/-- A record that can't be built has a parameter or a location that can't be read. -/
theorem build_error {ρ : Type} [Maintained ρ] {b : Builder} {source destination : Cluster}
    {record : ρ} {existing : Option ρ} {e : Failure}
    (h : b.build source destination record existing = .error e) :
    e = .arguments ∨ e = .authority ∨ e = .member := by
  unfold build body at h
  cases hparameters :
      b.parameters source (Maintained.body record).parameters (existing.map Maintained.body) with
  | error e' =>
    rw [hparameters] at h
    cases h
    exact .inl (parameters_error hparameters)
  | ok parameters =>
    cases hlocation :
        source.rebase destination (.ofText? (Maintained.body record).location) with
    | error e' =>
      rw [hparameters, hlocation] at h
      cases h
      exact .inr (rebase_error hlocation)
    | ok location =>
      rw [hparameters, hlocation] at h
      cases h

theorem buildDatabase_error {source destination : Cluster} {record : Option DatabaseRecord}
    {name : String} {e : Failure}
    (h : buildDatabase source destination record name = .error e) :
    e = .authority ∨ e = .member := by
  cases record with
  | none => cases h
  | some d =>
    unfold buildDatabase at h
    cases hlocation : source.rebase destination (.ofText? d.location) with
    | error e' =>
      simp only [hlocation] at h
      cases h
      exact rebase_error hlocation
    | ok location =>
      simp only [hlocation] at h
      cases h

/-- The database that is built has the name of its model, or the one that it is to have. -/
theorem name_of_buildDatabase {source destination : Cluster} {record : Option DatabaseRecord}
    {name : String} {d : DatabaseRecord} (hrecord : ∀ d', record = some d' → d'.name = name)
    (h : buildDatabase source destination record name = .ok d) : d.name = name := by
  cases record with
  | none =>
    cases h
    rfl
  | some d' =>
    unfold buildDatabase at h
    cases hlocation : source.rebase destination (.ofText? d'.location) with
    | error e' =>
      simp only [hlocation] at h
      cases h
    | ok location =>
      simp only [hlocation] at h
      cases h
      exact hrecord d' rfl

/-! ### Destination records -/

variable {ρ : Type} [Maintained ρ] {b : Builder} {source destination : Cluster} {record x : ρ}
  {existing : Option ρ}

theorem build_eq_ok_iff :
    b.build source destination record existing = .ok x ↔
      ∃ parameters location,
        b.parameters source (Maintained.body record).parameters (existing.map Maintained.body)
            = .ok parameters ∧
          source.rebase destination (.ofText? (Maintained.body record).location) = .ok location ∧
          Maintained.withBody
            { location, parameters
              stamp := ((existing.map Maintained.body).map Body.stamp).getD {} } record = x := by
  unfold build body
  cases b.parameters source (Maintained.body record).parameters (existing.map Maintained.body) with
  | error e => simp [bind, Except.bind]
  | ok parameters =>
    cases source.rebase destination (.ofText? (Maintained.body record).location) with
    | error e => simp [bind, Except.bind]
    | ok location => simp [bind, Except.bind, pure, Except.pure]

theorem rebase_of_build (h : b.build source destination record existing = .ok x) :
    source.rebase destination (.ofText? (Maintained.body record).location)
      = .ok (Maintained.body x).location := by
  obtain ⟨parameters, location, -, hloc, rfl⟩ := build_eq_ok_iff.1 h
  rw [hloc, Maintained.body_withBody]

/-- **Building reaches a fixed point**: from a stored record with the comparable part of what was
built before, the builder makes a record with that comparable part again. -/
theorem build_again (hb : b.IsTextual) {stored : ρ}
    (h : b.build source destination record existing = .ok x)
    (hs : comparable stored = comparable x) :
    ∃ x', b.build source destination record (some stored) = .ok x' ∧
      comparable x' = comparable stored := by
  obtain ⟨q, location, hq, hloc, rfl⟩ := build_eq_ok_iff.1 h
  obtain ⟨q', hq'⟩ := parameters_ok hb source (Maintained.body record).parameters
    (some (Maintained.body stored))
  refine ⟨_, build_eq_ok_iff.2 ⟨q', location, hq', hloc, rfl⟩, ?_⟩
  rw [hs, comparable_withBody, comparable_withBody]
  congr 1
  unfold Body.comparable
  simp only
  congr 1
  refine Parameters.comparable_eq_iff.2 fun k hk => get?_parameters_again hq hq' ?_
  rw [get?_eq_of_comparable_eq hs hk, Maintained.body_withBody]

/-- A record with the comparable part of one that was built passes for a replica. -/
theorem isReplicaOf_build {name : String} (hn : source.name = .text name) {stored : ρ}
    (h : b.build source destination record existing = .ok x)
    (hs : comparable stored = comparable x) :
    (Maintained.body stored).parameters.isReplicaOf source = true := by
  obtain ⟨q, location, hq, -, rfl⟩ := build_eq_ok_iff.1 h
  unfold Parameters.isReplicaOf
  rw [hn, get?_eq_of_comparable_eq hs (by decide), Maintained.body_withBody]
  simp only
  rw [get?_parameters hq, get?_provenance_sourceClusterKey, hn]
  simp [Value.display]

end Builder

end CatalogReplication
