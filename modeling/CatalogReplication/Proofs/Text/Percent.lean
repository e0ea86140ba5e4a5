import CatalogReplication.Text.Percent
import Mathlib.Tactic.IntervalCases

/-!
# Percent encoding is read back

An encoded text consists of plain characters and escapes (`Percent.IsEncoded`). Its escapes and
plain characters stand for the bytes of the text in UTF-8 (`Percent.bytes?_encode`), so the reader
for encoded texts gives the text back (`Percent.decode_encode`), and so does the one that takes any
text (`Percent.unescape_encode`).
-/

namespace CatalogReplication.Text

/-! ### Bytes of characters -/

namespace Utf8

/-- The bytes of a character as numbers. -/
def numbers (c : Char) : List Nat := (String.utf8EncodeChar c).map UInt8.toNat

/-- A character is told by its number, which is none of the surrogates. -/
theorem toNat_cases (c : Char) :
    c.toNat < 0xd800 ∨ 0xdfff < c.toNat ∧ c.toNat < 0x110000 := c.valid

/-- The four ways in which a character is written, by its number. -/
theorem numbers_eq (c : Char) :
    numbers c =
      if c.toNat ≤ 0x7f then [c.toNat]
      else if c.toNat ≤ 0x7ff then [c.toNat / 0x40 + 0xc0, c.toNat % 0x40 + 0x80]
      else if c.toNat ≤ 0xffff then
        [c.toNat / 0x1000 + 0xe0, c.toNat / 0x40 % 0x40 + 0x80, c.toNat % 0x40 + 0x80]
      else
        [c.toNat / 0x40000 + 0xf0, c.toNat / 0x1000 % 0x40 + 0x80, c.toNat / 0x40 % 0x40 + 0x80,
          c.toNat % 0x40 + 0x80] := by
  have hcases := toNat_cases c
  have hval : c.val.toNat = c.toNat := rfl
  unfold numbers String.utf8EncodeChar
  simp only [hval]
  split_ifs <;>
    simp only [List.map_cons, List.map_nil, UInt8.toNat_ofNat', List.cons.injEq, and_true] <;>
    omega

/-- A byte that follows and is in order is read. -/
theorem readFollowing_cons {low high b k n : Nat} {rest : List Nat} (hlow : low ≤ b)
    (hhigh : b ≤ high) :
    readFollowing low high (k + 1) n (b :: rest) =
      ((readFollowing 0x80 0xbf k (n * 0x40 + (b - 0x80)) rest).1 + 1,
        (readFollowing 0x80 0xbf k (n * 0x40 + (b - 0x80)) rest).2) := by
  rw [readFollowing, if_pos ⟨hlow, hhigh⟩]

/-- A character is read if its first byte and those that follow are in order. -/
theorem decodeFrom_cons {b n used : Nat} {l : Lead} {rest : List Nat} (hlead : lead? b = some l)
    (hread : readFollowing l.low l.high l.following l.bits rest = (used, some n)) :
    decodeFrom 0 (b :: rest) = Char.ofNat n :: decodeFrom used rest := by
  rw [decodeFrom, hlead]
  simp only [hread]

/-- The first byte of a character of two, three or four bytes. -/
theorem lead?_two {n : Nat} (h : 0x80 ≤ n) (h' : n ≤ 0x7ff) :
    lead? (n / 0x40 + 0xc0) = some { bits := n / 0x40, following := 1 } := by
  rw [lead?, if_neg (by omega), if_neg (by omega), if_pos (by omega), Nat.add_sub_cancel]

theorem lead?_three {n : Nat} (h' : n ≤ 0xffff) :
    lead? (n / 0x1000 + 0xe0) = some {
      bits := n / 0x1000
      following := 2
      low := if n / 0x1000 + 0xe0 = 0xe0 then 0xa0 else 0x80
      high := if n / 0x1000 + 0xe0 = 0xed then 0x9f else 0xbf } := by
  rw [lead?, if_neg (by omega), if_neg (by omega), if_neg (by omega), if_pos (by omega),
    Nat.add_sub_cancel]

theorem lead?_four {n : Nat} (h' : n < 0x110000) :
    lead? (n / 0x40000 + 0xf0) = some {
      bits := n / 0x40000
      following := 3
      low := if n / 0x40000 + 0xf0 = 0xf0 then 0x90 else 0x80
      high := if n / 0x40000 + 0xf0 = 0xf4 then 0x8f else 0xbf } := by
  rw [lead?, if_neg (by omega), if_neg (by omega), if_neg (by omega), if_neg (by omega),
    if_pos (by omega), Nat.add_sub_cancel]

/-- A character that is written comes first in what is read. -/
theorem decode_numbers_append (c : Char) (rest : List Nat) :
    decode (numbers c ++ rest) = c :: decode rest := by
  have hcases := toNat_cases c
  have hchar : Char.ofNat c.toNat = c := Char.ofNat_toNat c
  generalize hn : c.toNat = n at hcases hchar
  -- Its number is put together again from what each byte says of it.
  have htwo : n / 0x40 * 0x40 + (n % 0x40 + 0x80 - 0x80) = n := by omega
  have hthree : (n / 0x1000 * 0x40 + (n / 0x40 % 0x40 + 0x80 - 0x80)) * 0x40 +
      (n % 0x40 + 0x80 - 0x80) = n := by omega
  have hfour : ((n / 0x40000 * 0x40 + (n / 0x1000 % 0x40 + 0x80 - 0x80)) * 0x40 +
      (n / 0x40 % 0x40 + 0x80 - 0x80)) * 0x40 + (n % 0x40 + 0x80 - 0x80) = n := by omega
  unfold decode
  rw [numbers_eq, hn]
  split_ifs with h1 h2 h3
  · have hlead : lead? n = some { bits := n, following := 0 } := by
      rw [lead?, if_pos (by omega)]
    rw [List.singleton_append, decodeFrom_cons hlead rfl, hchar]
  · have hread : readFollowing 0x80 0xbf 1 (n / 0x40) ((n % 0x40 + 0x80) :: rest) =
        (1, some n) := by
      rw [readFollowing_cons (by omega) (by omega), readFollowing, htwo]
    have hdecode := decodeFrom_cons (lead?_two (by omega) h2) hread
    rw [hchar] at hdecode
    exact hdecode
  · have hread : readFollowing (if n / 0x1000 + 0xe0 = 0xe0 then 0xa0 else 0x80)
        (if n / 0x1000 + 0xe0 = 0xed then 0x9f else 0xbf) 2 (n / 0x1000)
        ((n / 0x40 % 0x40 + 0x80) :: (n % 0x40 + 0x80) :: rest) = (2, some n) := by
      rw [readFollowing_cons (by split_ifs <;> omega) (by split_ifs <;> omega),
        readFollowing_cons (by omega) (by omega), readFollowing, hthree]
    have hdecode := decodeFrom_cons (lead?_three h3) hread
    rw [hchar] at hdecode
    exact hdecode
  · have hread : readFollowing (if n / 0x40000 + 0xf0 = 0xf0 then 0x90 else 0x80)
        (if n / 0x40000 + 0xf0 = 0xf4 then 0x8f else 0xbf) 3 (n / 0x40000)
        ((n / 0x1000 % 0x40 + 0x80) :: (n / 0x40 % 0x40 + 0x80) :: (n % 0x40 + 0x80) :: rest) =
        (3, some n) := by
      rw [readFollowing_cons (by split_ifs <;> omega) (by split_ifs <;> omega),
        readFollowing_cons (by omega) (by omega), readFollowing_cons (by omega) (by omega),
        readFollowing, hfour]
    have hdecode := decodeFrom_cons (lead?_four (by omega)) hread
    rw [hchar] at hdecode
    exact hdecode

/-- **Text that is written as bytes is read back.** -/
theorem decode_flatMap_numbers (s : List Char) : decode (s.flatMap numbers) = s := by
  induction s with
  | nil => rfl
  | cons c rest ih => rw [List.flatMap_cons, decode_numbers_append, ih]

end Utf8

namespace Percent

/-! ### What an encoded text looks like -/

/-- An upper-case hexadecimal digit. -/
def IsHexDigit (c : Char) : Prop := c ∈ "0123456789ABCDEF".toList

/-- Letters, digits and `_ . - ~`, and escapes of two upper-case hexadecimal digits. -/
inductive IsEncoded : List Char → Prop where
  | nil : IsEncoded []
  | plain {c : Char} {rest : List Char} (hc : c.isAlphanum = true ∨ c ∈ ['_', '.', '-', '~'])
      (h : IsEncoded rest) : IsEncoded (c :: rest)
  | escape {hi lo : Char} {rest : List Char} (hhi : IsHexDigit hi) (hlo : IsHexDigit lo)
      (h : IsEncoded rest) : IsEncoded ('%' :: hi :: lo :: rest)

theorem isPlain_iff {c : Char} :
    isPlain c = true ↔ c.isAlphanum = true ∨ c ∈ ['_', '.', '-', '~'] := by
  simp [isPlain, or_assoc]

theorem isHexDigit_hexDigit {n : Nat} (hn : n < 16) : IsHexDigit (hexDigit n) := by
  unfold IsHexDigit
  interval_cases n <;> decide

theorem hexValue?_hexDigit {n : Nat} (hn : n < 16) : hexValue? (hexDigit n) = some n := by
  interval_cases n <;> rfl

theorem anyHexValue?_hexDigit {n : Nat} (hn : n < 16) : anyHexValue? (hexDigit n) = some n := by
  interval_cases n <;> rfl

theorem toNat_div_lt (b : UInt8) : b.toNat / 16 < 16 := by
  have hb := b.toNat_lt
  omega

theorem toNat_mod_lt (b : UInt8) : b.toNat % 16 < 16 := Nat.mod_lt _ (by decide)

theorem IsEncoded.append {s t : List Char} (hs : IsEncoded s) (ht : IsEncoded t) :
    IsEncoded (s ++ t) := by
  induction hs with
  | nil => exact ht
  | plain hc _ ih => exact .plain hc ih
  | escape hhi hlo _ ih => exact .escape hhi hlo ih

theorem isEncoded_flatMap_escape (bs : List UInt8) : IsEncoded (bs.flatMap escape) := by
  induction bs with
  | nil => exact .nil
  | cons b rest ih =>
    exact .escape (isHexDigit_hexDigit (toNat_div_lt b)) (isHexDigit_hexDigit (toNat_mod_lt b)) ih

theorem isEncoded_encode (s : List Char) : IsEncoded (encode s) := by
  induction s with
  | nil => exact .nil
  | cons c rest ih =>
    have hchar : IsEncoded (encodeChar c) := by
      unfold encodeChar
      split_ifs with hc
      · exact .plain (isPlain_iff.1 hc) .nil
      · exact isEncoded_flatMap_escape _
    exact hchar.append ih

/-- All characters of an encoded text are plain, but for the sign that an escape begins with. -/
theorem IsEncoded.mem {s : List Char} (h : IsEncoded s) {c : Char} (hc : c ∈ s) :
    isPlain c = true ∨ c = '%' := by
  have hdigits : "0123456789ABCDEF".toList.all isPlain = true := by decide
  induction h with
  | nil => cases hc
  | plain hplain _ ih =>
    rcases List.mem_cons.1 hc with rfl | hc
    · exact .inl (isPlain_iff.2 hplain)
    · exact ih hc
  | @escape hi lo rest hhi hlo _ ih =>
    simp only [List.mem_cons] at hc
    rcases hc with rfl | rfl | rfl | hc
    · exact .inr rfl
    · exact .inl (List.all_eq_true.1 hdigits _ hhi)
    · exact .inl (List.all_eq_true.1 hdigits _ hlo)
    · exact ih hc

/-! ### Reading it back -/

theorem toNat_lt_of_isPlain {c : Char} (hc : isPlain c = true) : c.toNat < 0x80 := by
  rcases isPlain_iff.1 hc with hc | hc
  · have halpha : c.isAlpha = (decide (c.val ≥ 'A'.val ∧ c.val ≤ 'Z'.val) ||
        decide (c.val ≥ 'a'.val) && decide (c.val ≤ 'z'.val)) := rfl
    simp only [Char.isAlphanum, halpha, Char.isDigit, Bool.or_eq_true, Bool.and_eq_true,
      decide_eq_true_eq] at hc
    change ((65 ≤ c.toNat ∧ c.toNat ≤ 90) ∨ 97 ≤ c.toNat ∧ c.toNat ≤ 122) ∨
      48 ≤ c.toNat ∧ c.toNat ≤ 57 at hc
    omega
  · simp only [List.mem_cons, List.not_mem_nil, or_false] at hc
    rcases hc with rfl | rfl | rfl | rfl <;> decide

theorem ne_of_isPlain {c : Char} (hc : isPlain c = true) : c ≠ '%' := by
  rintro rfl
  revert hc
  decide

/-- A plain character is written as one byte. -/
theorem utf8EncodeChar_of_isPlain {c : Char} (hc : isPlain c = true) :
    String.utf8EncodeChar c = [UInt8.ofNat c.toNat] := by
  have hlt := toNat_lt_of_isPlain hc
  have hval : c.val.toNat = c.toNat := rfl
  unfold String.utf8EncodeChar
  simp only [hval]
  rw [if_pos (by omega)]

theorem bytes?_escape_append (b : UInt8) (rest : List Char) :
    bytes? (escape b ++ rest) = (bytes? rest).map (b :: ·) := by
  have hbyte : UInt8.ofNat (16 * (b.toNat / 16) + b.toNat % 16) = b := by
    rw [Nat.div_add_mod, UInt8.ofNat_toNat]
  unfold escape
  simp only [List.cons_append, List.nil_append]
  rw [bytes?, hexValue?_hexDigit (toNat_div_lt b), hexValue?_hexDigit (toNat_mod_lt b)]
  cases bytes? rest with
  | none => rfl
  | some bs => simp only [hbyte, Option.map_some]

theorem bytes?_flatMap_escape_append (bs : List UInt8) (rest : List Char) :
    bytes? (bs.flatMap escape ++ rest) = (bytes? rest).map (bs ++ ·) := by
  induction bs with
  | nil => simp
  | cons b bs ih =>
    rw [List.flatMap_cons, List.append_assoc, bytes?_escape_append, ih, Option.map_map]
    rfl

theorem bytes?_plain_cons {c : Char} (hc : isPlain c = true) (rest : List Char) :
    bytes? (c :: rest) = (bytes? rest).map (UInt8.ofNat c.toNat :: ·) := by
  have hne := ne_of_isPlain hc
  rw [bytes?, if_pos hc]
  rintro hi lo rest' rfl
  exact absurd rfl hne

theorem bytes?_encodeChar_append (c : Char) (rest : List Char) :
    bytes? (encodeChar c ++ rest) = (bytes? rest).map (String.utf8EncodeChar c ++ ·) := by
  unfold encodeChar
  split_ifs with hc
  · rw [List.singleton_append, bytes?_plain_cons hc, utf8EncodeChar_of_isPlain hc]
    rfl
  · exact bytes?_flatMap_escape_append _ rest

/-- An encoded text stands for the bytes of the text. -/
theorem bytes?_encode (s : List Char) :
    bytes? (encode s) = some (s.flatMap String.utf8EncodeChar) := by
  induction s with
  | nil => rfl
  | cons c rest ih =>
    show bytes? (encodeChar c ++ encode rest) = _
    rw [bytes?_encodeChar_append, ih, List.flatMap_cons]
    rfl

/-- **An encoded text is read back.** -/
theorem decode_encode (s : List Char) : decode (encode s) = some (String.ofList s) := by
  have hbytes : ByteArray.mk (s.flatMap String.utf8EncodeChar).toArray = s.utf8Encode :=
    ByteArray.ext List.data_toByteArray.symm
  unfold decode
  rw [bytes?_encode, Option.bind_some, hbytes, String.fromUTF8?, dif_pos ⟨s, rfl⟩]
  rfl

/-! ### Reading it as any text -/

theorem unescapeFrom_escape_append (pending : List Nat) (b : UInt8) (rest : List Char) :
    unescapeFrom pending 0 (escape b ++ rest) = unescapeFrom (b.toNat :: pending) 0 rest := by
  have hescaped : escaped? (hexDigit (b.toNat / 16) :: hexDigit (b.toNat % 16) :: rest) =
      some b.toNat := by
    rw [escaped?, anyHexValue?_hexDigit (toNat_div_lt b), anyHexValue?_hexDigit (toNat_mod_lt b)]
    simp only [Nat.div_add_mod]
  have hsign : ¬ 0x80 ≤ '%'.toNat := by decide
  show unescapeFrom pending 0
    ('%' :: hexDigit (b.toNat / 16) :: hexDigit (b.toNat % 16) :: rest) = _
  rw [unescapeFrom, if_neg hsign, if_pos (beq_self_eq_true '%'), hescaped]
  rfl

theorem unescapeFrom_flatMap_escape_append (pending : List Nat) (bs : List UInt8)
    (rest : List Char) :
    unescapeFrom pending 0 (bs.flatMap escape ++ rest) =
      unescapeFrom ((bs.map UInt8.toNat).reverse ++ pending) 0 rest := by
  induction bs generalizing pending with
  | nil => rfl
  | cons b bs ih =>
    rw [List.flatMap_cons, List.append_assoc, unescapeFrom_escape_append, ih]
    simp

theorem unescapeFrom_plain_cons {c : Char} (hc : isPlain c = true) (pending : List Nat)
    (rest : List Char) :
    unescapeFrom pending 0 (c :: rest) = unescapeFrom (c.toNat :: pending) 0 rest := by
  have hlt := toNat_lt_of_isPlain hc
  have hne : (c == '%') = false := beq_eq_false_iff_ne.2 (ne_of_isPlain hc)
  rw [unescapeFrom, if_neg (by omega), hne]
  rfl

theorem unescapeFrom_encodeChar_append (pending : List Nat) (c : Char) (rest : List Char) :
    unescapeFrom pending 0 (encodeChar c ++ rest) =
      unescapeFrom ((Utf8.numbers c).reverse ++ pending) 0 rest := by
  unfold encodeChar
  split_ifs with hc
  · have hlt := toNat_lt_of_isPlain hc
    rw [List.singleton_append, unescapeFrom_plain_cons hc, Utf8.numbers_eq, if_pos (by omega)]
    rfl
  · exact unescapeFrom_flatMap_escape_append pending _ rest

theorem unescapeFrom_encode (pending : List Nat) (s : List Char) :
    unescapeFrom pending 0 (encode s) =
      Utf8.decode (pending.reverse ++ s.flatMap Utf8.numbers) := by
  induction s generalizing pending with
  | nil =>
    rw [List.flatMap_nil, List.append_nil]
    rfl
  | cons c rest ih =>
    show unescapeFrom pending 0 (encodeChar c ++ encode rest) = _
    rw [unescapeFrom_encodeChar_append, ih]
    simp

/-- **Whoever reads an encoded text as any other** finds the text again. -/
theorem unescape_encode (s : List Char) : unescape (encode s) = s := by
  have hread := unescapeFrom_encode [] s
  rw [List.reverse_nil, List.nil_append, Utf8.decode_flatMap_numbers] at hread
  exact hread

end Percent

end CatalogReplication.Text
