/-!
# Reading bytes as text

`decode` reads bytes as UTF-8. Where they are not, each longest beginning of a character becomes one
replacement character.
-/

namespace CatalogReplication.Text.Utf8

/-- What stands for bytes that are no text. -/
def replacement : Char := '\ufffd'

/-- How a character goes on behind its first byte. -/
structure Lead where
  /-- The bits of the first byte that count. -/
  bits : Nat
  /-- How many bytes follow. -/
  following : Nat
  /-- The least and the greatest that the second byte may be. -/
  low : Nat := 0x80
  high : Nat := 0xbf

/-- What the first byte of a character says. -/
def lead? (b : Nat) : Option Lead :=
  if b < 0x80 then some { bits := b, following := 0 }
  else if b < 0xc2 then none
  else if b < 0xe0 then some { bits := b - 0xc0, following := 1 }
  else if b < 0xf0 then
    some {
      bits := b - 0xe0
      following := 2
      low := if b = 0xe0 then 0xa0 else 0x80
      high := if b = 0xed then 0x9f else 0xbf }
  else if b < 0xf5 then
    some {
      bits := b - 0xf0
      following := 3
      low := if b = 0xf0 then 0x90 else 0x80
      high := if b = 0xf4 then 0x8f else 0xbf }
  else none

/-- Reads the bytes that follow the first of a character; answers how many belong to it, and its
number if it is whole. -/
def readFollowing (low high : Nat) : Nat → Nat → List Nat → Nat × Option Nat
  | 0, n, _ => (0, some n)
  | _ + 1, _, [] => (0, none)
  | k + 1, n, b :: rest =>
    if low ≤ b ∧ b ≤ high then
      let (used, c) := readFollowing 0x80 0xbf k (n * 0x40 + (b - 0x80)) rest
      (used + 1, c)
    else (0, none)

/-- Reads bytes of which the first `n` are to be skipped. -/
def decodeFrom : Nat → List Nat → List Char
  | _, [] => []
  | n + 1, _ :: rest => decodeFrom n rest
  | 0, b :: rest =>
    match lead? b with
    | none => replacement :: decodeFrom 0 rest
    | some l =>
      match readFollowing l.low l.high l.following l.bits rest with
      | (used, some c) => Char.ofNat c :: decodeFrom used rest
      | (used, none) => replacement :: decodeFrom used rest

/-- Reads bytes. -/
def decode (bytes : List Nat) : List Char := decodeFrom 0 bytes

/-! ### Plain text -/

theorem decode_ascii {bytes : List Nat} (h : ∀ b ∈ bytes, b < 0x80) :
    decode bytes = bytes.map Char.ofNat := by
  unfold decode
  induction bytes with
  | nil => rfl
  | cons b rest ih =>
    have hb : b < 0x80 := h b List.mem_cons_self
    have hr := ih fun x hx => h x (List.mem_cons_of_mem b hx)
    simp [decodeFrom, lead?, hb, readFollowing, hr]

end CatalogReplication.Text.Utf8
