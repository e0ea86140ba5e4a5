import CatalogReplication.Text.Blank
import CatalogReplication.Text.Cut

/-!
# Numerals

Which texts are numbers. Blanks around a numeral don't count, and its digits may be grouped by
single underscores.
-/

namespace CatalogReplication.Text

/-- The number of digits in groups. -/
def groupedDigits? (s : List Char) : Option Nat :=
  let groups := segments '_' s
  if groups.all fun g => !g.isEmpty && g.all Char.isDigit then
    some (groups.flatten.foldl (fun n c => n * 10 + (c.toNat - 0x30)) 0)
  else none

/-- A text without a sign at its beginning, and whether that was a minus. -/
def dropSign : List Char → Bool × List Char
  | '-' :: rest => (true, rest)
  | '+' :: rest => (false, rest)
  | s => (false, s)

/-- The whole number that a text is. -/
def wholeNumber? (s : String) : Option Int :=
  let (isNegative, digits) := dropSign (trim s.toList)
  (groupedDigits? digits).map fun n => if isNegative then -(n : Int) else n

/-- The names of numbers that have no digits. -/
def numberNames : List String := ["inf", "infinity", "nan"]

/-- Whether a text is a number, with or without a fraction and an exponent. -/
def isNumber (s : String) : Bool :=
  let (_, s) := dropSign (trim s.toList)
  let s := s.map Char.toLower
  let (mantissa, exponent) := cut 'e' s
  let (whole, fraction) := cut '.' mantissa
  let isPart (ds : List Char) : Bool := ds.isEmpty || (groupedDigits? ds).isSome
  numberNames.contains (String.ofList s)
    || (isPart whole && isPart (fraction.getD []) && !(whole ++ fraction.getD []).isEmpty
      && exponent.all fun e => (groupedDigits? (dropSign e).2).isSome)

end CatalogReplication.Text
