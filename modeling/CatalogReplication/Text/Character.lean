import CatalogReplication.Text.Character.Hidden
import CatalogReplication.Text.Character.Word

/-!
# Kinds of characters

Which characters can be seen, and which ones words are made of. What is asked most, characters of
one byte, is decided without the tables.
-/

namespace CatalogReplication.Text

/-- Whether a character is in one of several runs. -/
def isInRuns (runs : List (Nat × Nat)) (c : Char) : Bool :=
  runs.any fun r => r.1 ≤ c.toNat && c.toNat ≤ r.2

/-- Whether a character can be written as it is: it leaves a mark, or is the space. -/
def isPrintable (c : Char) : Bool :=
  if c.toNat < 0x80 then 0x20 ≤ c.toNat && c.toNat < 0x7f
  else !isInRuns Character.hiddenRuns c

/-- Whether words are made of a character: it is a letter, a numeral or the underscore. -/
def isWordChar (c : Char) : Bool :=
  if c.toNat < 0x80 then c.isAlphanum || c == '_'
  else isInRuns Character.wordRuns c

theorem isPrintable_of_lt {c : Char} (h : 0x20 ≤ c.toNat) (h' : c.toNat < 0x7f) :
    isPrintable c = true := by
  simp [isPrintable, h, h', Nat.lt_trans h' (by decide : 0x7f < 0x80)]

end CatalogReplication.Text
