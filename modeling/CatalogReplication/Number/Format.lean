import CatalogReplication.Number.Decimal

/-!
# Numbers with a given number of places

A number of the binary format is written in three ways: `fixed` with a number of places behind the
point, `scientific` with one digit before the point and an exponent, and `general` with a number of
digits in whichever of the two ways is shorter. All round the exact number, to even where two
texts are equally near.
-/

namespace CatalogReplication.Number

/-- Digits with a point between them; without a fraction there is a point only if it is kept. -/
def pointed (keepsPoint : Bool) (whole fraction : List Char) : List Char :=
  if fraction.isEmpty && !keepsPoint then whole else whole ++ '.' :: fraction

/-- Digits without zeros at the end. -/
def dropZeros (ds : List Char) : List Char := (ds.reverse.dropWhile (· == '0')).reverse

namespace Binary64

/-- The digits of a number with a number of places behind the point. -/
def fixed (keepsPoint : Bool) (places : Nat) (b : Binary64) : List Char :=
  let ds := Nat.toDigits 10 (roundHalfEven (b.ratio.1 * Nat.pow 10 places) b.ratio.2)
  let ds := List.replicate (places + 1 - ds.length) '0' ++ ds
  pointed keepsPoint (ds.take (ds.length - places)) (ds.drop (ds.length - places))

/-- The first digits of a number, one and so many more, and the power of ten of the first. -/
def leading (more : Nat) (b : Binary64) : List Char × Int :=
  if b.mantissa = 0 then (List.replicate (more + 1) '0', 0)
  else
    let power := b.pointPosition - 1
    let (n, d) := b.ratio
    let shift := (more : Int) - power
    let q :=
      if 0 ≤ shift then roundHalfEven (n * Nat.pow 10 shift.toNat) d
      else roundHalfEven n (d * Nat.pow 10 (-shift).toNat)
    let ds := Nat.toDigits 10 q
    (ds.take (more + 1), power + ((ds.length : Int) - (more + 1)))

/-- The power of ten behind digits. -/
def powerText (power : Int) : List Char := 'e' :: (Decimal.exponentText power).toList

/-- A number with one digit before the point, so many behind it, and an exponent. -/
def scientific (keepsPoint : Bool) (places : Nat) (b : Binary64) : List Char :=
  let (ds, power) := b.leading places
  pointed keepsPoint (ds.take 1) (ds.drop 1) ++ powerText power

/-- A number with so many digits, without an exponent while it needs none; zeros at the end of a
fraction are left out unless the point is kept. -/
def general (keepsPoint : Bool) (digits : Nat) (b : Binary64) : List Char :=
  let (ds, power) := b.leading (digits - 1)
  let write (whole fraction : List Char) : List Char :=
    pointed keepsPoint whole (if keepsPoint then fraction else dropZeros fraction)
  if power < -4 ∨ (max digits 1 : Int) ≤ power then
    write (ds.take 1) (ds.drop 1) ++ powerText power
  else if power < 0 then
    write ['0'] (List.replicate (-power - 1).toNat '0' ++ ds)
  else write (ds.take (power.toNat + 1)) (ds.drop (power.toNat + 1))

end Binary64

end CatalogReplication.Number
