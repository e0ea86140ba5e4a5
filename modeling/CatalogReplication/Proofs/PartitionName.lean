import CatalogReplication.Proofs.Text.Cut
import CatalogReplication.Record.Document

/-!
# Reading the values of a partition name

A partition name lists entries, each a key and a value (`PartitionName.text`). Values are read off
just the names that entries make: `values?_eq_some_iff` says so for entries of which neither side
has a slash, and no key an equals sign. `values_invert_text` puts together what is read, and which
names can't be read.
-/

namespace CatalogReplication.PartitionName

/-! ### Segments -/

/-- The segments of a name have values just if each of them has a key. -/
theorem segmentValues?_eq_none_iff {ss : List (List Char)} :
    segmentValues? ss = none ↔ ∃ s ∈ ss, '=' ∉ s := by
  induction ss with
  | nil => simp [segmentValues?]
  | cons s rest ih =>
    rw [List.exists_mem_cons_iff, ← ih, segmentValues?]
    rcases Text.cut_cases '=' s with ⟨hs, hcut⟩ | ⟨key, value, -, rfl, hcut⟩
    · simp [hcut, hs]
    · rw [hcut]
      cases segmentValues? rest <;> simp

/-- The values of segments that are made of keys and values. -/
theorem segmentValues?_segments {entries : List (List Char × List Char)}
    (h : ∀ e ∈ entries, '=' ∉ e.1) :
    segmentValues? (entries.map fun e => segment e.1 e.2) = some (entries.map Prod.snd) := by
  induction entries with
  | nil => rfl
  | cons e rest ih =>
    obtain ⟨he, hrest⟩ := List.forall_mem_cons.1 h
    rw [List.map_cons, segmentValues?, segment, Text.cut_append he, ih hrest]
    rfl

/-- Segments with values are made of keys and of those values. -/
theorem exists_entries {ss values : List (List Char)} (h : segmentValues? ss = some values) :
    ∃ entries : List (List Char × List Char), entries.map (fun e => segment e.1 e.2) = ss ∧
      entries.map Prod.snd = values ∧ ∀ e ∈ entries, '=' ∉ e.1 := by
  induction ss generalizing values with
  | nil =>
    cases h
    exact ⟨[], rfl, rfl, nofun⟩
  | cons s rest ih =>
    rw [segmentValues?] at h
    rcases Text.cut_cases '=' s with ⟨-, hcut⟩ | ⟨key, value, hkey, rfl, hcut⟩ <;> rw [hcut] at h
    · cases h
    · cases hrest : segmentValues? rest with
      | none =>
        rw [hrest] at h
        cases h
      | some vs =>
        rw [hrest] at h
        cases h
        obtain ⟨entries, hsegments, hvalues, hkeys⟩ := ih hrest
        refine ⟨(key, value) :: entries, ?_, ?_, List.forall_mem_cons.2 ⟨hkey, hkeys⟩⟩
        · exact congrArg (segment key value :: ·) hsegments
        · exact congrArg (value :: ·) hvalues

/-! ### Names -/

/-- What can stand in a name: a key without an equals sign, and no slash in it or in its value. -/
def IsEntry (e : String × String) : Prop :=
  '=' ∉ e.1.toList ∧ '/' ∉ e.1.toList ∧ '/' ∉ e.2.toList

instance : DecidablePred IsEntry := fun e => by unfold IsEntry; infer_instance

/-- The name that lists entries. -/
def text (entries : List (String × String)) : String :=
  "/".intercalate (entries.map fun e => e.1 ++ "=" ++ e.2)

variable {name : String} {values : List String} {entries : List (String × String)}

theorem toList_text (entries : List (String × String)) :
    (text entries).toList = render (entries.map fun e => (e.1.toList, e.2.toList)) := by
  rw [text, String.toList_intercalate, render, Text.join_eq_intercalate, List.map_map,
    List.map_map]
  congr 1
  refine List.map_congr_left fun e _ => ?_
  simp [segment]

/-- The segments of a name are those of its entries. -/
theorem segments_text (hne : entries ≠ []) (h : ∀ e ∈ entries, IsEntry e) :
    Text.segments '/' (text entries).toList =
      (entries.map fun e => (e.1.toList, e.2.toList)).map fun e => segment e.1 e.2 := by
  rw [toList_text, render]
  refine Text.segments_join (by simpa using hne) fun s hs => ?_
  rw [List.map_map] at hs
  obtain ⟨e, he, rfl⟩ := List.mem_map.1 hs
  obtain ⟨-, hkey, hvalue⟩ := h e he
  simp [segment, hkey, hvalue]

theorem values?_text (hne : entries ≠ []) (h : ∀ e ∈ entries, IsEntry e) :
    values? (text entries) = some (entries.map Prod.snd) := by
  have hkeys : ∀ e ∈ entries.map fun e => (e.1.toList, e.2.toList), '=' ∉ e.1 := by
    intro part hpart
    obtain ⟨e, he, rfl⟩ := List.mem_map.1 hpart
    exact (h e he).1
  rw [values?, segments_text hne h, segmentValues?_segments hkeys, List.map_map]
  simp [Function.comp_def]

theorem values?_eq_none_iff :
    values? name = none ↔ ∃ s ∈ Text.segments '/' name.toList, '=' ∉ s := by
  rw [values?, Option.map_eq_none_iff, segmentValues?_eq_none_iff]

/-- **A name has values just if entries make it**, and then their values are its values. -/
theorem values?_eq_some_iff :
    values? name = some values ↔ ∃ entries, entries ≠ [] ∧ (∀ e ∈ entries, IsEntry e) ∧
      text entries = name ∧ entries.map Prod.snd = values := by
  constructor
  · intro h
    obtain ⟨vs, hvs, rfl⟩ := Option.map_eq_some_iff.1 h
    obtain ⟨parts, hsegments, rfl, hkeys⟩ := exists_entries hvs
    refine ⟨parts.map fun e => (String.ofList e.1, String.ofList e.2), ?_, ?_, ?_, ?_⟩
    · rintro hnil
      obtain rfl := List.map_eq_nil_iff.1 hnil
      exact Text.segments_ne_nil '/' name.toList hsegments.symm
    · intro entry hentry
      obtain ⟨e, he, rfl⟩ := List.mem_map.1 hentry
      have hslash : '/' ∉ segment e.1 e.2 := by
        refine Text.not_mem_of_mem_segments (s := name.toList) ?_
        rw [← hsegments]
        exact List.mem_map.2 ⟨e, he, rfl⟩
      refine ⟨?_, ?_, ?_⟩ <;> simp only [String.toList_ofList]
      · exact hkeys e he
      · exact fun hmem => hslash (List.mem_append_left _ hmem)
      · exact fun hmem => hslash (List.mem_append_right _ (List.mem_cons_of_mem _ hmem))
    · rw [← String.toList_inj, toList_text, render, List.map_map]
      simp only [List.map_map, Function.comp_def, String.toList_ofList]
      rw [hsegments, Text.join_segments]
    · rw [List.map_map, List.map_map]
      rfl
  · rintro ⟨entries, hne, h, rfl, rfl⟩
    exact values?_text hne h

/-- A name has as many values as segments. -/
theorem length_of_values? (h : values? name = some values) :
    values.length = (Text.segments '/' name.toList).length := by
  obtain ⟨entries, hne, hentries, rfl, rfl⟩ := values?_eq_some_iff.1 h
  rw [segments_text hne hentries]
  simp

/-- **The values of a partition name** are what entries were made into a name with: entries, of
which no key has an equals sign and neither side a slash, are read off their name. A name can't be
read just if a part of it between slashes has no equals sign, be it an empty one. Any other has one
value for each part, and with some keys without an equals sign these make up the name again. A
partition that comes without values gets those of its name, and is refused if that has none. -/
theorem values_invert_text :
    (∀ entries, entries ≠ [] → (∀ e ∈ entries, IsEntry e) →
      values? (text entries) = some (entries.map Prod.snd)) ∧
    ∀ name : String,
      (values? name = none ↔ ∃ s ∈ name.toList.splitOn '/', '=' ∉ s) ∧
      (∀ values, values? name = some values →
        values.length = (name.toList.splitOn '/').length ∧
        ∃ keys : List String, keys.length = values.length ∧ (∀ k ∈ keys, '=' ∉ k.toList) ∧
          text (keys.zip values) = name) ∧
      PartitionRecord.valuesOfField name none =
        (values? name).elim (.error (.partitionName name)) .ok := by
  refine ⟨fun entries => values?_text, fun name => ⟨?_, fun values h => ?_, ?_⟩⟩
  · rw [← Text.segments_eq_splitOn]
    exact values?_eq_none_iff
  · rw [← Text.segments_eq_splitOn]
    refine ⟨length_of_values? h, ?_⟩
    obtain ⟨entries, -, hentries, rfl, rfl⟩ := values?_eq_some_iff.1 h
    refine ⟨entries.map Prod.fst, by simp, fun k hk => ?_, ?_⟩
    · obtain ⟨e, he, rfl⟩ := List.mem_map.1 hk
      exact (hentries e he).1
    · rw [← List.zip_of_prod rfl rfl]
  · rw [PartitionRecord.valuesOfField]
    cases values? name <;> rfl

/-- Values that are empty or have equals signs, an empty key, and a name with an empty part. -/
theorem values_invert_text_sample :
    [("ds", "2024-01-01"), ("", "a=b"), ("hr", "")] ≠ [] ∧
    (∀ e ∈ [("ds", "2024-01-01"), ("", "a=b"), ("hr", "")], IsEntry e) ∧
    values? "ds=2024-01-01/=a=b/hr=" = some ["2024-01-01", "a=b", ""] ∧
    (∃ keys : List String, keys.length = 3 ∧ (∀ k ∈ keys, '=' ∉ k.toList) ∧
      text (keys.zip ["2024-01-01", "a=b", ""]) = "ds=2024-01-01/=a=b/hr=") ∧
    values? "/ds=1//hr=2" = none := by
  have hentries : ∀ e ∈ [("ds", "2024-01-01"), ("", "a=b"), ("hr", "")], IsEntry e := by decide
  have hvalues := values_invert_text.1 _ (List.cons_ne_nil _ _) hentries
  exact ⟨List.cons_ne_nil _ _, hentries, hvalues, ((values_invert_text.2 _).2.1 _ hvalues).2,
    (values_invert_text.2 "/ds=1//hr=2").1.2 (by decide)⟩

end CatalogReplication.PartitionName
