import CatalogReplication.Text.Cut
import CatalogReplication.Text.Utf8

/-!
# Percent encoding

A text becomes a single path segment: letters, digits and `_ . - ~` stand for themselves, every
other character is written as its UTF-8 bytes, each as `%` and two upper-case hexadecimal digits.
`decode` reads the bytes back, and `unescape` reads any text with escapes in it.
-/

namespace CatalogReplication.Text.Percent

/-- Characters that stand for themselves. -/
def isPlain (c : Char) : Bool :=
  c.isAlphanum || c == '_' || c == '.' || c == '-' || c == '~'

/-- The digit for a number below sixteen. -/
def hexDigit (n : Nat) : Char :=
  if n < 10 then Char.ofNat (0x30 + n) else Char.ofNat (0x41 + (n - 10))

/-- The value of an upper-case hexadecimal digit. -/
def hexValue? (c : Char) : Option Nat :=
  if '0' ≤ c ∧ c ≤ '9' then some (c.toNat - 0x30)
  else if 'A' ≤ c ∧ c ≤ 'F' then some (c.toNat - 0x41 + 10)
  else none

/-- One byte, escaped. -/
def escape (b : UInt8) : List Char :=
  ['%', hexDigit (b.toNat / 16), hexDigit (b.toNat % 16)]

/-- One character, encoded. -/
def encodeChar (c : Char) : List Char :=
  if isPlain c then [c] else (String.utf8EncodeChar c).flatMap escape

/-- A text, encoded. -/
def encode (s : List Char) : List Char := s.flatMap encodeChar

/-- The bytes an encoded text stands for; none where an escape is broken or a character cannot
stand for itself. -/
def bytes? : List Char → Option (List UInt8)
  | [] => some []
  | '%' :: hi :: lo :: rest =>
    match hexValue? hi, hexValue? lo, bytes? rest with
    | some h, some l, some bs => some (UInt8.ofNat (16 * h + l) :: bs)
    | _, _, _ => none
  | c :: rest => if isPlain c then (bytes? rest).map (UInt8.ofNat c.toNat :: ·) else none

/-- Reads an encoded text back. -/
def decode (s : List Char) : Option String :=
  (bytes? s).bind fun bs => String.fromUTF8? (ByteArray.mk bs.toArray)

/-- The value of a hexadecimal digit, upper or lower case. -/
def anyHexValue? (c : Char) : Option Nat := hexValue? c.toUpper

/-- The byte of the escape that a text begins with behind its `%`. -/
def escaped? : List Char → Option Nat
  | hi :: lo :: _ =>
    match anyHexValue? hi, anyHexValue? lo with
    | some h, some l => some (16 * h + l)
    | _, _ => none
  | _ => none

/-- Reads a text with escapes, of which the first `n` characters are to be skipped; `pending` holds
the bytes before it, the last one first. -/
def unescapeFrom (pending : List Nat) : Nat → List Char → List Char
  | _, [] => Utf8.decode pending.reverse
  | n + 1, _ :: rest => unescapeFrom pending n rest
  | 0, c :: rest =>
    if 0x80 ≤ c.toNat then Utf8.decode pending.reverse ++ c :: unescapeFrom [] 0 rest
    else
      match if c == '%' then escaped? rest else none with
      | some b => unescapeFrom (b :: pending) 2 rest
      | none => unescapeFrom (c.toNat :: pending) 0 rest

/-- Reads a text with escapes; what isn't one stands for itself. -/
def unescape (s : List Char) : List Char := unescapeFrom [] 0 s

/-- A text, encoded but for the characters that are safe where it is put. -/
def encodeUnless (isSafe : Char → Bool) (s : List Char) : List Char :=
  s.flatMap fun c => if isSafe c then [c] else encodeChar c

end CatalogReplication.Text.Percent
