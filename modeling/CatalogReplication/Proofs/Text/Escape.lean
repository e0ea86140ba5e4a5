import CatalogReplication.Proofs.Text.Percent
import CatalogReplication.Value.Json

/-!
# Texts in quotes are read back

Inside quotes a character stands for itself, or is escaped by a letter or by the numbers of its
units of sixteen bits. A unit is four hexadecimal digits (`hex_four`), and a character has one unit
or a pair (`readText_escapeChar_append`). So the reader gives back what is written up to the closing
quote (`readText_escaped`).
-/

namespace CatalogReplication

namespace Text

/-! ### Digits -/

theorem hex_one {n : Nat} (hn : n < 16) : hex 1 n = [n.digitChar] := by
  rw [hex, Nat.toDigits_of_lt_base hn]
  rfl

/-- The last digit of a number, behind those of what is left of it. -/
theorem hex_succ {w : Nat} (hw : w ≠ 0) (n : Nat) :
    hex (w + 1) n = hex w (n / 16) ++ [(n % 16).digitChar] := by
  unfold hex
  rcases lt_or_ge n 16 with hn | hn
  · obtain ⟨w, rfl⟩ := Nat.exists_eq_succ_of_ne_zero hw
    rw [Nat.toDigits_of_lt_base hn, Nat.div_eq_of_lt hn, Nat.mod_eq_of_lt hn,
      Nat.toDigits_of_lt_base (by decide)]
    simp [List.replicate_succ']
  · rw [Nat.toDigits_of_base_le (by decide) hn]
    simp

/-- A unit in four digits. -/
theorem hex_four {n : Nat} (hn : n < 0x10000) :
    hex 4 n = [(n / 0x1000).digitChar, (n / 0x100 % 16).digitChar, (n / 16 % 16).digitChar,
      (n % 16).digitChar] := by
  rw [hex_succ (by decide), hex_succ (by decide), hex_succ (by decide), hex_one (by omega)]
  simp [Nat.div_div_eq_div_mul]

end Text

namespace Json

variable {n lo : Nat} {c : Char}

theorem hexValue?_digitChar (hn : n < 16) : hexValue? n.digitChar = some n := by
  interval_cases n <;> rfl

theorem hex4?_digits (hn : n < 0x10000) :
    hex4? (n / 0x1000).digitChar (n / 0x100 % 16).digitChar (n / 16 % 16).digitChar
      (n % 16).digitChar = some n := by
  unfold hex4?
  rw [hexValue?_digitChar (by omega), hexValue?_digitChar (by omega),
    hexValue?_digitChar (by omega), hexValue?_digitChar (by omega)]
  simp only [Option.some.injEq]
  omega

/-! ### Characters -/

/-- A unit that isn't the first half of a pair is read by itself, whatever comes behind it. -/
theorem readText_unit_append (hn : n < 0x10000) (hhalf : n < 0xd800 ∨ 0xdc00 ≤ n)
    (rest : List Char) : readText (unit n ++ rest) = consText (single n) (readText rest) := by
  rw [unit, Text.hex_four hn]
  -- The reader looks for a second unit behind the first, so the rest is taken apart first.
  by_cases hnext : ∃ e f g h rest', rest = '\\' :: 'u' :: e :: f :: g :: h :: rest'
  · obtain ⟨e, f, g, h, rest', rfl⟩ := hnext
    simp only [List.cons_append, List.nil_append]
    rw [readText, hex4?_digits hn]
    have hnot : ¬ (0xd800 ≤ n ∧ n < 0xdc00) := by omega
    cases hex4? e f g h with
    | none => rfl
    | some lo =>
      dsimp only
      rw [if_neg fun hpair => hnot ⟨hpair.1, hpair.2.1⟩]
  · simp only [List.cons_append, List.nil_append]
    rw [readText, hex4?_digits hn]
    rintro e f g h rest' rfl
    exact hnext ⟨e, f, g, h, rest', rfl⟩

/-- The two halves of a pair are read together. -/
theorem readText_pair_append (hn : 0xd800 ≤ n ∧ n < 0xdc00) (hlo : 0xdc00 ≤ lo ∧ lo < 0xe000)
    (rest : List Char) :
    readText (unit n ++ unit lo ++ rest) = consText (pair n lo) (readText rest) := by
  rw [unit, unit, Text.hex_four (by omega), Text.hex_four (by omega)]
  simp only [List.cons_append, List.nil_append]
  rw [readText, hex4?_digits (by omega), hex4?_digits (by omega)]
  dsimp only
  rw [if_pos ⟨hn.1, hn.2, hlo⟩]

/-- A character that is neither a quote nor a backslash stands for itself. -/
theorem readText_cons (hquote : c ≠ '"') (hslash : c ≠ '\\') (rest : List Char) :
    readText (c :: rest) = consText c (readText rest) := by
  rw [readText] <;> simp [hquote, hslash]

/-- A character that is written comes first in what is read. -/
theorem readText_escapeChar_append (c : Char) (rest : List Char) :
    readText (escapeChar c ++ rest) = consText c (readText rest) := by
  have hcases := Text.Utf8.toNat_cases c
  have hchar : Char.ofNat c.toNat = c := Char.ofNat_toNat c
  unfold escapeChar
  split_ifs with hquote hslash hline hreturn htab hplain hunit
  · obtain rfl := beq_iff_eq.1 hquote
    simp [readText]
  · obtain rfl := beq_iff_eq.1 hslash
    simp [readText]
  · obtain rfl := beq_iff_eq.1 hline
    simp [readText]
  · obtain rfl := beq_iff_eq.1 hreturn
    simp [readText]
  · obtain rfl := beq_iff_eq.1 htab
    simp [readText]
  · exact readText_cons (by simpa using hquote) (by simpa using hslash) rest
  · rw [readText_unit_append hunit (by omega), single, if_neg (by omega), hchar]
  · have hpair : pair (0xd800 + (c.toNat - 0x10000) / 0x400)
        (0xdc00 + (c.toNat - 0x10000) % 0x400) = c := by
      have hnumber : 0x10000 + (0xd800 + (c.toNat - 0x10000) / 0x400 - 0xd800) * 0x400 +
          (0xdc00 + (c.toNat - 0x10000) % 0x400 - 0xdc00) = c.toNat := by omega
      rw [pair, hnumber, hchar]
    dsimp only
    rw [readText_pair_append (by omega) (by omega), hpair]

/-- **Texts in quotes are read back**, up to the closing quote. -/
theorem readText_escaped (s rest : List Char) :
    readText (s.flatMap escapeChar ++ '"' :: rest) = some (s, rest) := by
  induction s with
  | nil => simp [readText]
  | cons c s ih =>
    rw [List.flatMap_cons, List.append_assoc, readText_escapeChar_append, ih]
    rfl

end Json

end CatalogReplication
