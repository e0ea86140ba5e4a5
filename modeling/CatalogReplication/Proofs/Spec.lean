import CatalogReplication.Proofs.Text.Cut
import CatalogReplication.Spec
import Mathlib.Data.Set.Function
import Mathlib.Data.String.Basic

/-!
# Specs that can be read

`Spec.text` writes a spec down in one piece, so not every spec can be read again: a point in the
name of a database moves the end of that name, and so does a slash in the name of a table.
`WellFormed` says what the parts of a spec have to avoid. These are just the specs that `Spec.parse`
answers, and `parse` inverts `text` on them. No two of them have one text, and neither do the table
of one and another one that is a partition.

The other way round, `Nameless` says which texts name no object. Every other text is read, and
written down again it is the same, but for a slash with nothing behind it
(`Spec.parse_inverts_text`).
-/

namespace CatalogReplication.Spec

/-- A spec that is still told apart from others when it is written down. -/
structure WellFormed (s : Spec) : Prop where
  database_ne : s.database ≠ ""
  point_not_mem : '.' ∉ s.database.toList
  slash_not_mem_database : '/' ∉ s.database.toList
  table_ne : s.table ≠ ""
  slash_not_mem_table : '/' ∉ s.table.toList
  partition_ne : s.partition ≠ some ""

/-! ### The text, character by character -/

theorem toList_text_tableSpec (s : Spec) :
    s.tableSpec.text.toList = s.database.toList ++ '.' :: s.table.toList := by
  simp [text, tableSpec]

theorem tableSpec_of_partition_none {s : Spec} (h : s.partition = none) : s.tableSpec = s := by
  cases s
  cases h
  rfl

theorem toList_text_of_partition {s : Spec} {p : String} (h : s.partition = some p) :
    s.text.toList = s.tableSpec.text.toList ++ '/' :: p.toList := by
  simp [text, tableSpec, h]

/-- The table of a spec stands before its partition. -/
theorem text_tableSpec_lt {s : Spec} (h : s.isPartition = true) : s.tableSpec.text < s.text := by
  obtain ⟨p, hp⟩ := Option.isSome_iff_exists.1 h
  rw [String.lt_iff_toList_lt, toList_text_of_partition hp]
  generalize s.tableSpec.text.toList = table
  induction table with
  | nil => exact List.Lex.nil
  | cons c rest ih => exact List.Lex.cons ih

/-! ### Reading what was written -/

namespace WellFormed

variable {s s' : Spec}

theorem slash_not_mem_text_tableSpec (h : s.WellFormed) : '/' ∉ s.tableSpec.text.toList := by
  rw [toList_text_tableSpec, List.mem_append, List.mem_cons]
  rintro (hdatabase | hpoint | htable)
  · exact h.slash_not_mem_database hdatabase
  · exact absurd hpoint (by decide)
  · exact h.slash_not_mem_table htable

theorem cut_text (h : s.WellFormed) :
    Text.cut '/' s.text.toList = (s.tableSpec.text.toList, s.partition.map String.toList) := by
  cases hp : s.partition with
  | none =>
    have hcut := Text.cut_of_not_mem h.slash_not_mem_text_tableSpec
    rwa [tableSpec_of_partition_none hp] at hcut ⊢
  | some p =>
    rw [toList_text_of_partition hp]
    exact Text.cut_append h.slash_not_mem_text_tableSpec p.toList

theorem cut_text_tableSpec (h : s.WellFormed) :
    Text.cut '.' s.tableSpec.text.toList = (s.database.toList, some s.table.toList) := by
  rw [toList_text_tableSpec]
  exact Text.cut_append h.point_not_mem s.table.toList

/-- Something stands behind the first slash of what was written. -/
theorem text_ne_append_slash (h : s.WellFormed) {u : String} (hu : '/' ∉ u.toList) :
    s.text ≠ u ++ "/" := by
  intro ht
  have hcut := Text.cut_append hu []
  rw [show u.toList ++ ['/'] = s.text.toList by simp [ht], h.cut_text] at hcut
  have hpartition := congrArg Prod.snd hcut
  obtain ⟨p, hp, hempty⟩ := Option.map_eq_some_iff.1 hpartition
  rw [String.toList_eq_nil_iff.1 hempty] at hp
  exact h.partition_ne hp

/-- Reading gives the spec back that was written. -/
theorem parse_text (h : s.WellFormed) : parse s.text = .ok s := by
  have hdatabase : s.database.toList.isEmpty = false := by simpa using h.database_ne
  have htable : s.table.toList.isEmpty = false := by simpa using h.table_ne
  have hpartition := h.partition_ne
  unfold parse
  simp only [h.cut_text, h.cut_text_tableSpec, hdatabase, htable, Bool.or_self, Bool.false_eq_true,
    ↓reduceIte, String.ofList_toList]
  obtain ⟨database, table, _ | p⟩ := s
  · rfl
  · cases hp : p.toList with
    | nil => exact absurd (String.toList_eq_nil_iff.1 hp) fun he => hpartition (he ▸ rfl)
    | cons c rest =>
      simp only [Option.map_some, hp]
      rw [← hp, String.ofList_toList]

end WellFormed

/-- What is read is well-formed. -/
theorem wellFormed_of_parse {t : String} {s : Spec} (h : parse t = .ok s) : s.WellFormed := by
  have hslash := Text.not_mem_cut_fst '/' t.toList
  unfold parse at h
  generalize Text.cut '/' t.toList = parts at h hslash
  obtain ⟨name, partition⟩ := parts
  have hpoint := Text.not_mem_cut_fst '.' name
  simp only at h hslash
  rcases hname : Text.cut '.' name with ⟨database, _ | table⟩ <;> rw [hname] at h hpoint
  · cases h
  · -- The name has no slash, so neither of the two parts that it was cut into has one.
    rw [Text.cut_eq_some (congrArg Prod.snd hname), hname, List.mem_append, List.mem_cons, not_or,
      not_or] at hslash
    simp only at h
    split at h
    · cases h
    · rename_i hempty
      rw [Bool.or_eq_true, List.isEmpty_iff, List.isEmpty_iff, not_or] at hempty
      cases h
      refine ⟨?_, ?_, ?_, ?_, ?_, ?_⟩
      · simpa using hempty.1
      · simpa using hpoint
      · simpa using hslash.1
      · simpa using hempty.2
      · simpa using hslash.2.2
      · rcases partition with _ | _ | ⟨c, rest⟩ <;> simp

/-- Specs that can be read have different texts. -/
theorem WellFormed.text_injective {s s' : Spec} (h : s.WellFormed) (h' : s'.WellFormed)
    (ht : s.text = s'.text) : s = s' := by
  have hparse := h.parse_text
  rw [ht, h'.parse_text] at hparse
  cases hparse
  rfl

/-! ### Writing what was read -/

/-- What stands in a text before its first slash. -/
def nameOf (t : String) : List Char := t.toList.takeWhile (· != '/')

/-- Names of no table: without a point, or with nothing before the first one, or nothing behind. -/
inductive Nameless : List Char → Prop where
  | pointless {name : List Char} (h : '.' ∉ name) : Nameless name
  | noDatabase (table : List Char) : Nameless ('.' :: table)
  | noTable {database : List Char} (h : '.' ∉ database) : Nameless (database ++ ['.'])

/-- Wherever a name may be cut at its first point, one side is missing. -/
theorem nameless_iff {name : List Char} :
    Nameless name ↔ ∀ database table, '.' ∉ database → name = database ++ '.' :: table →
      database = [] ∨ table = [] := by
  constructor
  · intro h database table hdatabase hname
    cases h with
    | pointless hpoint => simp [hname] at hpoint
    | noDatabase table' =>
      have hcut := Text.append_cons_inj (s := []) (by simp) hdatabase hname
      exact .inl hcut.1.symm
    | noTable hpoint =>
      have hcut := Text.append_cons_inj hpoint hdatabase hname
      exact .inr hcut.2.symm
  · intro h
    rcases Text.cut_cases '.' name with ⟨hpoint, -⟩ | ⟨database, table, hpoint, rfl, -⟩
    · exact .pointless hpoint
    · rcases h database table hpoint rfl with rfl | rfl
      · exact .noDatabase table
      · exact .noTable hpoint

theorem cut_fst_eq_nameOf (t : String) : (Text.cut '/' t.toList).1 = nameOf t :=
  Text.cut_fst '/' t.toList

theorem parse_of_nameless {t : String} (h : Nameless (nameOf t)) :
    parse t = .error (.unreadable t) := by
  rw [← cut_fst_eq_nameOf] at h
  unfold parse
  generalize Text.cut '/' t.toList = parts at h
  obtain ⟨name, rest⟩ := parts
  cases h with
  | pointless hpoint => simp [Text.cut_of_not_mem hpoint]
  | noDatabase table => simp [Text.cut]
  | noTable hpoint => simp [Text.cut_append hpoint]

theorem exists_parse_of_not_nameless {t : String} (h : ¬ Nameless (nameOf t)) :
    ∃ s, parse t = .ok s := by
  rw [← cut_fst_eq_nameOf, nameless_iff] at h
  push Not at h
  obtain ⟨database, table, hpoint, hname, hdatabase, htable⟩ := h
  unfold parse
  generalize Text.cut '/' t.toList = parts at hname
  obtain ⟨name, rest⟩ := parts
  cases hname
  simp [Text.cut_append hpoint, hdatabase, htable]

/-- The table that was read stands before the first slash, and its partition behind it. -/
theorem cut_of_parse {t : String} {s : Spec} (h : parse t = .ok s) :
    ∃ rest, Text.cut '/' t.toList = (s.tableSpec.text.toList, rest) ∧
      s.partition.map String.toList = rest.filter (· ≠ []) := by
  unfold parse at h
  generalize Text.cut '/' t.toList = parts at h
  obtain ⟨name, rest⟩ := parts
  simp only at h
  rcases Text.cut_cases '.' name with ⟨-, hcut⟩ | ⟨database, table, -, rfl, hcut⟩ <;> rw [hcut] at h
  · cases h
  · simp only at h
    split at h
    · cases h
    · cases h
      refine ⟨rest, ?_, ?_⟩
      · rw [toList_text_tableSpec, String.toList_ofList, String.toList_ofList]
      · rcases rest with _ | _ | ⟨c, rest⟩ <;> simp [Option.filter]

/-- A text that was read is written down as it was, or without the slash that it ends with. -/
theorem text_of_parse {t : String} {s : Spec} (h : parse t = .ok s) :
    s.text = t ∨ s.text ++ "/" = t ∧ s.partition = none := by
  obtain ⟨rest, hrest, hpartition⟩ := cut_of_parse h
  rcases Text.cut_cases '/' t.toList with ⟨-, hcut⟩ | ⟨name, p, -, ht, hcut⟩
  · obtain ⟨hname, rfl⟩ := Prod.mk.inj (hrest.symm.trans hcut)
    have hnone : s.partition = none := by simpa using hpartition
    left
    rw [← tableSpec_of_partition_none hnone]
    exact String.toList_injective hname
  · obtain ⟨rfl, rfl⟩ := Prod.mk.inj (hrest.symm.trans hcut)
    rcases p with _ | ⟨c, p⟩
    · have hnone : s.partition = none := by simpa [Option.filter] using hpartition
      right
      refine ⟨String.toList_injective ?_, hnone⟩
      rw [ht, tableSpec_of_partition_none hnone, String.toList_append]
      rfl
    · obtain ⟨p', hp', hlist⟩ : ∃ p', s.partition = some p' ∧ p'.toList = c :: p := by
        simpa [Option.filter] using hpartition
      left
      apply String.toList_injective
      rw [toList_text_of_partition hp', hlist, ht]

theorem parse_eq_error_iff {t : String} :
    parse t = .error (.unreadable t) ↔ Nameless (nameOf t) := by
  refine ⟨fun herror => ?_, parse_of_nameless⟩
  by_contra hname
  obtain ⟨s, hs⟩ := exists_parse_of_not_nameless hname
  rw [hs] at herror
  cases herror

/-- A slash that only ends a text isn't written down again. -/
theorem text_of_parse_append_slash {u : String} {s : Spec} (h : parse (u ++ "/") = .ok s)
    (hu : '/' ∉ u.toList) : s.text = u := by
  rcases text_of_parse h with htext | ⟨htext, -⟩
  · exact absurd htext ((wellFormed_of_parse h).text_ne_append_slash hu)
  · exact (String.append_left_inj "/").1 htext

/-- Any other text is. -/
theorem text_of_parse_of_ne {t : String} {s : Spec} (h : parse t = .ok s)
    (ht : ∀ u : String, '/' ∉ u.toList → t ≠ u ++ "/") : s.text = t := by
  rcases text_of_parse h with htext | ⟨htext, hpartition⟩
  · exact htext
  · have hslash := (wellFormed_of_parse h).slash_not_mem_text_tableSpec
    rw [tableSpec_of_partition_none hpartition] at hslash
    exact absurd htext.symm (ht s.text hslash)

/-- **Reading inverts writing** on just the well-formed specs, of which no two have one text. Just
the texts that name no object are refused; written down again, all others are as they were, but for
a slash that only ends the text, and they are read as before. -/
theorem parse_inverts_text :
    (∀ s : Spec, parse s.text = .ok s ↔ s.WellFormed) ∧
    Set.InjOn text {s | s.WellFormed} ∧
    ∀ t : String,
      (parse t = .error (.unreadable t) ↔ Nameless (nameOf t)) ∧
      (¬ Nameless (nameOf t) → ∃ s, parse t = .ok s ∧ parse s.text = .ok s ∧
        (∀ u : String, '/' ∉ u.toList → t = u ++ "/" → s.text = u) ∧
        ((∀ u : String, '/' ∉ u.toList → t ≠ u ++ "/") → s.text = t)) := by
  refine ⟨fun s => ⟨wellFormed_of_parse, WellFormed.parse_text⟩, ?_, fun t => ⟨?_, ?_⟩⟩
  · intro s hs s' hs' ht
    exact WellFormed.text_injective hs hs' ht
  · exact parse_eq_error_iff
  · intro hname
    obtain ⟨s, hs⟩ := exists_parse_of_not_nameless hname
    have hagain := (wellFormed_of_parse hs).parse_text
    refine ⟨s, hs, hagain, fun u hu ht => ?_, fun hne => text_of_parse_of_ne hs hne⟩
    subst ht
    exact text_of_parse_append_slash hs hu

/-- With a slash at its end that is the only one, and with one that isn't. -/
theorem parse_inverts_text_slashes :
    (¬ Nameless (nameOf "d.t.x/") ∧ '/' ∉ "d.t.x".toList ∧
      ∃ s, parse "d.t.x/" = .ok s ∧ parse s.text = .ok s ∧ s.text = "d.t.x") ∧
    (¬ Nameless (nameOf "d.t/a=1/") ∧ (∀ u : String, '/' ∉ u.toList → "d.t/a=1/" ≠ u ++ "/") ∧
      ∃ s, parse "d.t/a=1/" = .ok s ∧ parse s.text = .ok s ∧ s.text = "d.t/a=1/") := by
  have hnamed : ¬ Nameless (nameOf "d.t.x/") := by
    intro h
    have hside := nameless_iff.1 h ['d'] ['t', '.', 'x'] (by decide) (by decide)
    simp at hside
  have hnamed' : ¬ Nameless (nameOf "d.t/a=1/") := by
    intro h
    have hside := nameless_iff.1 h ['d'] ['t'] (by decide) (by decide)
    simp at hside
  have hslashes : ∀ u : String, '/' ∉ u.toList → "d.t/a=1/" ≠ u ++ "/" := by
    intro u hu ht
    have hcut := Text.cut_append hu []
    rw [show u.toList ++ ['/'] = "d.t/a=1/".toList by simp [ht]] at hcut
    have hrest : (Text.cut '/' "d.t/a=1/".toList).2 = some [] := congrArg Prod.snd hcut
    exact absurd hrest (by decide)
  obtain ⟨s, hs, hagain, hshort, -⟩ := (parse_inverts_text.2.2 "d.t.x/").2 hnamed
  obtain ⟨s', hs', hagain', -, hsame⟩ := (parse_inverts_text.2.2 "d.t/a=1/").2 hnamed'
  exact ⟨⟨hnamed, by decide, s, hs, hagain, hshort "d.t.x" (by decide) (by decide)⟩,
    hnamed', hslashes, s', hs', hagain', hsame hslashes⟩

end CatalogReplication.Spec
