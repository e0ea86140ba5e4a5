import CatalogReplication.Proofs.Text.Escape
import CatalogReplication.Proofs.Value.Alike
import Mathlib.Data.List.TakeWhile

/-!
# JSON is read back

What is written of an exact value is read as that value (`Value.ofJson?_toJson`). A number ends
where no character of a number follows (`Json.Ends`); all else shows its own end. The induction is
on the value, and the reader is given twice as many tokens as there are characters to read.
-/

namespace CatalogReplication

namespace Json

variable {n fuel : Nat} {c : Char} {cs rest rest' : List Char} {v : Value} {k : String}

/-! ### Numbers -/

/-- Behind a number: nothing that could belong to it. -/
def Ends (rest : List Char) : Prop := ∀ c ∈ rest.head?, isNumeric c = false

theorem ends_nil : Ends [] := nofun

theorem ends_cons (h : isNumeric c = false) : Ends (c :: rest) := by
  intro c' hc
  obtain rfl : c = c' := by simpa using hc
  exact h

theorem takeWhile_append (hcs : ∀ c ∈ cs, isNumeric c = true) (hrest : Ends rest) :
    (cs ++ rest).takeWhile isNumeric = cs ∧ (cs ++ rest).dropWhile isNumeric = rest := by
  rw [List.takeWhile_append_of_pos hcs, List.dropWhile_append_of_pos hcs]
  cases rest with
  | nil => simp
  | cons c rest =>
    have hc : isNumeric c = false := hrest c (by simp)
    simp [hc]

theorem digits?_toDigits (n : Nat) : digits? (Nat.toDigits 10 n) = some n := by
  have hdigits : (Nat.toDigits 10 n).all Char.isDigit = true :=
    List.all_eq_true.2 fun c hc => Nat.isDigit_of_mem_toDigits (by decide) (by decide) hc
  have hvalue : (Nat.toDigits 10 n).foldl (fun n c => n * 10 + (c.toNat - 0x30)) 0 = n := by
    have hread := Nat.ofDigitChars_toDigits (b := 10) (n := n) (by decide) (by decide)
    simpa [Nat.ofDigitChars, Nat.mul_comm] using hread
  rw [digits?, if_neg (by simp [Nat.toDigits_ne_nil]), if_pos hdigits, hvalue]

theorem magnitude?_toDigits (negative : Bool) (n : Nat) :
    magnitude? negative (Nat.toDigits 10 n) = some (.int (if negative then -(n : Int) else n)) := by
  have hdigit : ∀ c ∈ Nat.toDigits 10 n, c.isDigit = true :=
    fun c hc => Nat.isDigit_of_mem_toDigits (by decide) (by decide) hc
  have hnot : ∀ c : Char, c.isDigit = false → c ∉ Nat.toDigits 10 n :=
    fun c hc hmem => absurd (hdigit c hmem) (by simp [hc])
  have hmantissa : ∀ c ∈ Nat.toDigits 10 n, (!(c == 'e' || c == 'E')) = true := by
    intro c hc
    have hsmall : c ≠ 'e' := fun heq => hnot 'e' (by decide) (heq ▸ hc)
    have hlarge : c ≠ 'E' := fun heq => hnot 'E' (by decide) (heq ▸ hc)
    simp [hsmall, hlarge]
  unfold magnitude?
  simp only [List.takeWhile_eq_self_iff.2 hmantissa, List.dropWhile_eq_nil_iff.2 hmantissa,
    Text.cut_of_not_mem (hnot '.' (by decide)), List.drop_nil, digits?_toDigits]
  rfl

theorem toList_int (n : Int) :
    (toString n).toList =
      if 0 ≤ n then Nat.toDigits 10 n.toNat else '-' :: Nat.toDigits 10 (-n).toNat := by
  show n.repr.toList = _
  rw [Int.repr_eq_if]
  split <;> simp [Nat.toList_repr]

theorem number?_int (n : Int) : number? (toString n).toList = some (.int n) := by
  rw [toList_int]
  split
  · rename_i hn
    have hsign : ∀ cs, Nat.toDigits 10 n.toNat ≠ '-' :: cs := fun cs hcs => by
      have hdigit := Nat.isDigit_of_mem_toDigits (b := 10) (n := n.toNat) (c := '-') (by decide)
        (by decide) (by simp [hcs])
      exact absurd hdigit (by decide)
    rw [number?]
    · rw [magnitude?_toDigits]
      simp [hn]
    · exact hsign
  · rename_i hn
    rw [number?, magnitude?_toDigits]
    simp only [if_true, Option.some.injEq, Value.int.injEq]
    omega

theorem isNumeric_of_isDigit (h : c.isDigit = true) : isNumeric c = true := by
  simp [isNumeric, h]

theorem isNumeric_of_mem_int {n : Int} (h : c ∈ (toString n).toList) : isNumeric c = true := by
  have hdigit : ∀ m : Nat, c ∈ Nat.toDigits 10 m → isNumeric c = true := fun m hc =>
    isNumeric_of_isDigit (Nat.isDigit_of_mem_toDigits (by decide) (by decide) hc)
  rw [toList_int] at h
  split at h
  · exact hdigit _ h
  · rcases List.mem_cons.1 h with rfl | h
    · decide
    · exact hdigit _ h

/-! ### What is written -/

/-- The characters of a value. -/
def chars (v : Value) : List Char := v.toJson.toList

/-- The characters of an entry of a mapping. -/
def entryChars (e : String × Value) : List Char :=
  (writeText e.1).toList ++ ':' :: ' ' :: chars e.2

/-- Parts set apart by commas, up to the closing sign. -/
def written (close : Char) (parts : List (List Char)) : List Char :=
  ", ".toList.intercalate parts ++ [close]

theorem written_singleton (close : Char) (part : List Char) :
    written close [part] = part ++ [close] := by
  simp [written]

theorem written_cons_cons (close : Char) (part part' : List Char) (parts : List (List Char)) :
    written close (part :: part' :: parts) =
      part ++ ',' :: ' ' :: written close (part' :: parts) := by
  simp [written]

theorem toList_writeText (s : String) :
    (writeText s).toList = '"' :: (s.toList.flatMap escapeChar ++ ['"']) := by
  simp [writeText]

theorem toJsons_eq_map (items : List Value) : Value.toJsons items = items.map Value.toJson := by
  induction items with
  | nil => rfl
  | cons v rest ih => rw [Value.toJsons, ih, List.map_cons]

theorem toJsonFields_eq_map (fields : List (String × Value)) :
    (Value.toJsonFields fields).map String.toList = fields.map entryChars := by
  induction fields with
  | nil => rfl
  | cons e rest ih =>
    obtain ⟨k, v⟩ := e
    rw [Value.toJsonFields, List.map_cons, ih, List.map_cons, entryChars]
    simp [chars]

theorem chars_int (n : Int) : chars (.int n) = (toString n).toList := by
  rw [chars, Value.toJson]

theorem chars_text (s : String) :
    chars (.text s) = '"' :: (s.toList.flatMap escapeChar ++ ['"']) := by
  rw [chars, Value.toJson, toList_writeText]

theorem chars_list (items : List Value) :
    chars (.list items) = '[' :: written ']' (items.map chars) := by
  rw [chars, Value.toJson, toJsons_eq_map]
  simp [written, Function.comp_def]
  rfl

theorem chars_map (fields : List (String × Value)) :
    chars (.map fields) = '\x7b' :: written '\x7d' (fields.map entryChars) := by
  rw [chars, Value.toJson, ← toJsonFields_eq_map]
  simp [written]

/-- What is written of a value begins with no blank, and with nothing that ends a list. -/
theorem exists_head (h : v.IsExact) :
    ∃ c cs, chars v = c :: cs ∧ isSpace c = false ∧ c ≠ ']' := by
  cases h with
  | null => exact ⟨_, _, rfl, by decide, by decide⟩
  | bool b => cases b <;> exact ⟨_, _, rfl, by decide, by decide⟩
  | int n =>
    have hne : (toString n).toList ≠ [] := by
      rw [toList_int]
      split <;> simp [Nat.toDigits_ne_nil]
    obtain ⟨c, cs, hcs⟩ := List.exists_cons_of_ne_nil hne
    have hc : isNumeric c = true := isNumeric_of_mem_int (hcs ▸ List.mem_cons_self)
    refine ⟨c, cs, (chars_int n).trans hcs, ?_, ?_⟩
    · by_contra hspace
      simp only [isSpace, Bool.or_eq_true, beq_iff_eq, Bool.not_eq_false] at hspace
      rcases hspace with ((rfl | rfl) | rfl) | rfl <;> exact absurd hc (by decide)
    · rintro rfl
      exact absurd hc (by decide)
  | text s => exact ⟨_, _, chars_text s, by decide, by decide⟩
  | list _ => exact ⟨_, _, chars_list _, by decide, by decide⟩
  | map _ _ => exact ⟨_, _, chars_map _, by decide, by decide⟩

theorem exists_head_written (close : Char) {part : List Char} (parts : List (List Char))
    (rest : List Char) (h : part = c :: cs) :
    ∃ ds, written close (part :: parts) ++ rest = c :: ds := by
  subst h
  cases parts with
  | nil => exact ⟨_, congrArg (· ++ rest) (written_singleton close _)⟩
  | cons part' parts => exact ⟨_, congrArg (· ++ rest) (written_cons_cons close _ part' parts)⟩

/-! ### What is read -/

theorem skip_cons (h : isSpace c = false) (cs : List Char) : skip (c :: cs) = c :: cs := by
  simp [skip, h]

theorem skip_blank (cs : List Char) : skip (' ' :: cs) = skip cs := by
  simp [skip, show isSpace ' ' = true by decide]

/-- There is nothing to skip in front of parts of which the first has no space in front. -/
theorem skip_written (close : Char) {part : List Char} (parts : List (List Char))
    (rest : List Char) (h : part = c :: cs) (hspace : isSpace c = false) :
    skip (written close (part :: parts) ++ rest) = written close (part :: parts) ++ rest := by
  obtain ⟨ds, hds⟩ := exists_head_written close parts rest h
  rw [hds, skip_cons hspace]

/-- What is written of the value is read as the value, in front of whatever doesn't go on with a
number, if there are two tokens for each character. -/
def Reads (v : Value) : Prop :=
  ∀ {fuel : Nat} {cs rest : List Char}, Ends rest → skip cs = chars v ++ rest →
    2 * (chars v).length ≤ fuel → readValue number? fuel cs = some (v, rest)

/-- What begins like a number is read as one. -/
theorem readValue_of_isNumeric {numeral? : List Char → Option Value} (hc : isNumeric c = true)
    (hcs : skip cs = c :: rest) :
    readValue numeral? (fuel + 1) cs =
      (numeral? ((skip cs).takeWhile isNumeric)).map fun v =>
        (v, (skip cs).dropWhile isNumeric) := by
  -- The other first characters of values don't belong to numbers.
  have hother : ∀ d, isNumeric d = false → c ≠ d := fun d hd heq => by
    rw [heq, hd] at hc
    cases hc
  rw [readValue, hcs]
  split
  case h_7 => rfl
  all_goals
    rename_i heq
    exact absurd (List.cons.inj heq).1 (hother _ (by decide))

/-- There is a token for the value itself. -/
theorem exists_fuel (h : v.IsExact) (hfuel : 2 * (chars v).length ≤ fuel) :
    ∃ m, fuel = m + 1 := by
  obtain ⟨c, cs, hcs, -, -⟩ := exists_head h
  rw [hcs, List.length_cons] at hfuel
  exact ⟨fuel - 1, by omega⟩

theorem reads_int (n : Int) : Reads (.int n) := by
  intro fuel cs rest hrest hcs hfuel
  obtain ⟨fuel, rfl⟩ := exists_fuel (.int n) hfuel
  obtain ⟨c, ds, hds, -, -⟩ := exists_head (.int n)
  rw [chars_int] at hcs hds
  have hnumeric : ∀ c ∈ (toString n).toList, isNumeric c = true := fun c => isNumeric_of_mem_int
  have hc : isNumeric c = true := hnumeric c (hds ▸ List.mem_cons_self)
  obtain ⟨htake, hdrop⟩ := takeWhile_append hnumeric hrest
  rw [readValue_of_isNumeric hc (by rw [hcs, hds, List.cons_append]), hcs, htake, hdrop,
    number?_int]
  rfl

theorem reads_text (s : String) : Reads (.text s) := by
  intro fuel cs rest _ hcs hfuel
  obtain ⟨fuel, rfl⟩ := exists_fuel (.text s) hfuel
  rw [chars_text] at hcs
  rw [readValue, hcs]
  simp only [List.cons_append, List.append_assoc, List.nil_append]
  rw [readText_escaped]
  simp

/-! ### Lists -/

theorem readItems_last (hv : Reads v) (hcs : skip cs = chars v ++ ']' :: rest)
    (hfuel : 2 * (chars v).length ≤ fuel) :
    readItems number? (fuel + 1) cs = some ([v], rest) := by
  rw [readItems, hv (ends_cons (by decide)) hcs hfuel]
  simp only [skip_cons (show isSpace ']' = false by decide)]

theorem readItems_next (hv : Reads v) (hcs : skip cs = chars v ++ ',' :: rest)
    (hfuel : 2 * (chars v).length ≤ fuel) :
    readItems number? (fuel + 1) cs =
      (readItems number? fuel rest).map fun r => (v :: r.1, r.2) := by
  rw [readItems, hv (ends_cons (by decide)) hcs hfuel]
  simp only [skip_cons (show isSpace ',' = false by decide)]

/-- Behind an opening bracket, what does not begin with the closing one is read as items. -/
theorem readValue_list (hcs : skip cs = '[' :: rest) (hrest : skip rest = c :: rest')
    (hc : c ≠ ']') :
    readValue number? (fuel + 1) cs =
      (readItems number? fuel (c :: rest')).map fun r => (.list r.1, r.2) := by
  rw [readValue, hcs]
  simp only [hrest]
  split
  · rename_i heq
    exact absurd (List.cons.inj heq).1 hc
  · rfl

/-- The items of a list are read up to its closing bracket. -/
theorem readItems_written {items : List Value} (hne : items ≠ [])
    (hexact : ∀ v ∈ items, v.IsExact) (hreads : ∀ v ∈ items, Reads v)
    (hcs : skip cs = written ']' (items.map chars) ++ rest)
    (hfuel : 2 * (written ']' (items.map chars)).length ≤ fuel) :
    readItems number? fuel cs = some (items, rest) := by
  induction items generalizing fuel cs with
  | nil => exact absurd rfl hne
  | cons v tail ih =>
    obtain ⟨hv, hrest⟩ := List.forall_mem_cons.1 hreads
    obtain ⟨-, htail⟩ := List.forall_mem_cons.1 hexact
    cases tail with
    | nil =>
      simp only [List.map_singleton, written_singleton, List.append_assoc, List.length_append,
        List.length_singleton, List.singleton_append] at hcs hfuel
      obtain ⟨fuel, rfl⟩ : ∃ m, fuel = m + 1 := ⟨fuel - 1, by omega⟩
      exact readItems_last hv hcs (by omega)
    | cons w tail =>
      obtain ⟨c, ds, hhead, hspace, -⟩ := exists_head (htail w List.mem_cons_self)
      have hskip : skip (' ' :: (written ']' ((w :: tail).map chars) ++ rest)) =
          written ']' ((w :: tail).map chars) ++ rest :=
        (skip_blank _).trans (skip_written ']' (tail.map chars) rest hhead hspace)
      rw [List.map_cons, List.map_cons, written_cons_cons, ← List.map_cons] at hcs hfuel
      simp only [List.append_assoc, List.cons_append, List.length_append,
        List.length_cons] at hcs hfuel
      obtain ⟨fuel, rfl⟩ : ∃ m, fuel = m + 1 := ⟨fuel - 1, by omega⟩
      rw [readItems_next hv hcs (by omega),
        ih (List.cons_ne_nil w tail) htail hrest hskip (by omega)]
      rfl

theorem reads_list {items : List Value} (hexact : ∀ v ∈ items, v.IsExact)
    (hreads : ∀ v ∈ items, Reads v) : Reads (.list items) := by
  intro fuel cs rest _ hcs hfuel
  rw [chars_list] at hcs hfuel
  rw [List.length_cons] at hfuel
  obtain ⟨fuel, rfl⟩ : ∃ m, fuel = m + 1 := ⟨fuel - 1, by omega⟩
  cases items with
  | nil =>
    rw [readValue, hcs]
    rfl
  | cons v tail =>
    obtain ⟨c, ds, hhead, hspace, hclose⟩ := exists_head (hexact v List.mem_cons_self)
    obtain ⟨ds', hwritten⟩ := exists_head_written ']' (tail.map chars) rest hhead
    have hskip := skip_written ']' (tail.map chars) rest hhead hspace
    rw [readValue_list hcs (hskip.trans hwritten) hclose, ← hwritten,
      readItems_written (List.cons_ne_nil v tail) hexact hreads hskip (by omega)]
    rfl

/-! ### Mappings -/

theorem skip_blank_chars (h : v.IsExact) (rest : List Char) :
    skip (' ' :: (chars v ++ rest)) = chars v ++ rest := by
  obtain ⟨c, ds, hhead, hspace, -⟩ := exists_head h
  rw [skip_blank, hhead, List.cons_append, skip_cons hspace]

/-- An entry is read, and then its mapping ends or goes on. -/
theorem readFields_entry (hexact : v.IsExact) (hv : Reads v) (hrest : Ends rest)
    (hcs : skip cs = entryChars (k, v) ++ rest) (hfuel : 2 * (chars v).length ≤ fuel)
    (seen : Assoc String Value) :
    (skip rest = '\x7d' :: rest' →
      readFields number? (fuel + 1) cs seen = some (Assoc.put k v seen, rest')) ∧
    (skip rest = ',' :: rest' →
      readFields number? (fuel + 1) cs seen =
        readFields number? fuel rest' (Assoc.put k v seen)) := by
  have hvalue := hv hrest (skip_blank_chars hexact rest) hfuel
  rw [readFields, hcs, entryChars, toList_writeText]
  simp only [List.cons_append, List.append_assoc, List.nil_append]
  rw [readText_escaped]
  simp only [skip_cons (show isSpace ':' = false by decide), hvalue, String.ofList_toList]
  constructor <;> intro hend <;> simp only [hend]

/-- Behind an opening brace, what does not begin with the closing one is read as entries. -/
theorem readValue_map (hcs : skip cs = '\x7b' :: rest) (hrest : skip rest = c :: rest')
    (hc : c ≠ '\x7d') :
    readValue number? (fuel + 1) cs =
      (readFields number? fuel (c :: rest') []).map fun r => (.map r.1, r.2) := by
  rw [readValue, hcs]
  simp only [hrest]
  split
  · rename_i heq
    exact absurd (List.cons.inj heq).1 hc
  · rfl

theorem exists_entryChars (e : String × Value) : ∃ cs, entryChars e = '"' :: cs := by
  rw [entryChars, toList_writeText]
  exact ⟨_, rfl⟩

theorem length_chars_lt (e : String × Value) : (chars e.2).length < (entryChars e).length := by
  rw [entryChars, List.length_append, List.length_cons, List.length_cons]
  omega

/-- The entries of a mapping are read up to its closing brace, behind those that were read before
if no key comes twice. -/
theorem readFields_written {fields : List (String × Value)} (seen : List (String × Value))
    (hne : fields ≠ [])
    (hkeys : (Assoc.keys (seen ++ fields)).Nodup) (hexact : ∀ e ∈ fields, e.2.IsExact)
    (hreads : ∀ e ∈ fields, Reads e.2)
    (hcs : skip cs = written '\x7d' (fields.map entryChars) ++ rest)
    (hfuel : 2 * (written '\x7d' (fields.map entryChars)).length ≤ fuel) :
    readFields number? fuel cs seen = some (seen ++ fields, rest) := by
  induction fields generalizing fuel cs seen with
  | nil => exact absurd rfl hne
  | cons e tail ih =>
    obtain ⟨he, htail⟩ := List.forall_mem_cons.1 hexact
    obtain ⟨hv, hrest⟩ := List.forall_mem_cons.1 hreads
    have hlength := length_chars_lt e
    -- Its key is new, so the entry is put behind those that were read before.
    have hput : Assoc.put e.1 e.2 seen = seen ++ [e] := by
      refine Assoc.put_of_not_mem (fun hmem => ?_) e.2
      rw [Assoc.keys, List.map_append] at hkeys
      exact List.disjoint_of_nodup_append hkeys hmem (List.mem_map.2 ⟨e, List.mem_cons_self, rfl⟩)
    cases tail with
    | nil =>
      simp only [List.map_singleton, written_singleton, List.append_assoc, List.length_append,
        List.length_singleton, List.singleton_append] at hcs hfuel
      obtain ⟨fuel, rfl⟩ : ∃ m, fuel = m + 1 := ⟨fuel - 1, by omega⟩
      rw [(readFields_entry he hv (ends_cons (by decide)) hcs (by omega) seen).1
        (skip_cons (by decide) rest), hput]
    | cons e' tail =>
      obtain ⟨ds, hhead⟩ := exists_entryChars e'
      have hskip : skip (' ' :: (written '\x7d' ((e' :: tail).map entryChars) ++ rest)) =
          written '\x7d' ((e' :: tail).map entryChars) ++ rest :=
        (skip_blank _).trans (skip_written '\x7d' (tail.map entryChars) rest hhead (by decide))
      rw [List.map_cons, List.map_cons, written_cons_cons, ← List.map_cons] at hcs hfuel
      simp only [List.append_assoc, List.cons_append, List.length_append,
        List.length_cons] at hcs hfuel
      obtain ⟨fuel, rfl⟩ : ∃ m, fuel = m + 1 := ⟨fuel - 1, by omega⟩
      rw [(readFields_entry he hv (ends_cons (by decide)) hcs (by omega) seen).2
        (skip_cons (by decide) _), hput,
        ih (seen ++ [e]) (List.cons_ne_nil e' tail) (by simpa using hkeys) htail hrest hskip
          (by omega), List.append_assoc]
      rfl

theorem reads_map {fields : List (String × Value)} (hkeys : (Assoc.keys fields).Nodup)
    (hexact : ∀ e ∈ fields, e.2.IsExact) (hreads : ∀ e ∈ fields, Reads e.2) :
    Reads (.map fields) := by
  intro fuel cs rest _ hcs hfuel
  rw [chars_map] at hcs hfuel
  rw [List.length_cons] at hfuel
  obtain ⟨fuel, rfl⟩ : ∃ m, fuel = m + 1 := ⟨fuel - 1, by omega⟩
  cases fields with
  | nil =>
    rw [readValue, hcs]
    rfl
  | cons e tail =>
    obtain ⟨ds, hhead⟩ := exists_entryChars e
    obtain ⟨ds', hwritten⟩ := exists_head_written '\x7d' (tail.map entryChars) rest hhead
    have hskip := skip_written '\x7d' (tail.map entryChars) rest hhead (by decide)
    rw [readValue_map hcs (hskip.trans hwritten) (by decide), ← hwritten,
      readFields_written [] (List.cons_ne_nil e tail) hkeys hexact hreads hskip (by omega)]
    rfl

/-! ### Values -/

theorem reads_of_isExact (h : v.IsExact) : Reads v := by
  induction h with
  | null =>
    intro fuel cs rest _ hcs hfuel
    obtain ⟨fuel, rfl⟩ := exists_fuel (.null) hfuel
    rw [readValue, hcs]
    rfl
  | bool b =>
    intro fuel cs rest _ hcs hfuel
    obtain ⟨fuel, rfl⟩ := exists_fuel (.bool b) hfuel
    rw [readValue, hcs]
    cases b <;> rfl
  | int n => exact reads_int n
  | text s => exact reads_text s
  | list h ih => exact reads_list h ih
  | map hkeys h ih => exact reads_map hkeys h ih

end Json

/-- **JSON is read back**: what is written of an exact value is read as that value. -/
theorem Value.ofJson?_toJson {v : Value} (h : v.IsExact) : ofJson? v.toJson = some v := by
  obtain ⟨c, cs, hhead, hspace, -⟩ := Json.exists_head h
  have hskip : Json.skip v.toJson.toList = Json.chars v ++ [] := by
    show Json.skip (Json.chars v) = _
    rw [hhead, Json.skip_cons hspace, List.append_nil]
  have hread := Json.reads_of_isExact h Json.ends_nil hskip
    (show _ ≤ 2 * v.toJson.toList.length + 1 from Nat.le_succ _)
  rw [ofJson?, ofDocument?, hread]
  rfl

end CatalogReplication
