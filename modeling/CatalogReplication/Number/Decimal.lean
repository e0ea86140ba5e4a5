import CatalogReplication.Number.Binary64

/-!
# Decimal numbers

A number with a fraction or an exponent, as sign, digits and power of ten. A number that is read
is first rounded to the binary format, and is then kept with the fewest digits that read back to
the same number (`rounded`). Its text is positional while the first digit stands between four
places behind the point and sixteen before it, and has an exponent otherwise.
-/

namespace CatalogReplication.Number

/-- A number `± digits * 10 ^ exponent`. -/
structure Decimal where
  negative : Bool := false
  digits : Nat
  exponent : Int := 0
deriving DecidableEq, Repr

namespace Decimal

/-- The binary number nearest to the magnitude. -/
def binary? (x : Decimal) : Option Binary64 :=
  let (n, d) := Binary64.decimalRatio x.digits x.exponent
  Binary64.ofRatio n d

/-- The same binary number, written with the fewest digits. -/
def rounded (x : Decimal) : Decimal :=
  match x.binary? with
  | some b => { negative := x.negative, digits := b.shortest.1, exponent := b.shortest.2 }
  | none => x

/-- The number as a ratio, that of the binary number if there is one. -/
def ratio (x : Decimal) : Int × Nat :=
  let (n, d) :=
    match x.binary? with
    | some b => b.ratio
    | none => Binary64.decimalRatio x.digits x.exponent
  (if x.negative then -(n : Int) else n, d)

/-- Whether the number is zero, of either sign. -/
def isZero (x : Decimal) : Bool := x.digits == 0

/-- Whether there is nothing behind the point. -/
def isWhole (x : Decimal) : Bool :=
  match x.binary? with
  | some b => b.ratio.1 % b.ratio.2 == 0
  | none => false

/-- The whole part: everything behind the point is dropped. -/
def whole (x : Decimal) : Int :=
  match x.binary? with
  | some b => if x.negative then -(b.whole : Int) else b.whole
  | none => 0

/-- An exponent in scientific notation: a sign and at least two digits. -/
def exponentText (e : Int) : String :=
  let ds := String.ofList (Nat.toDigits 10 e.natAbs)
  (if e < 0 then "-" else "+") ++ (if ds.length < 2 then "0" ++ ds else ds)

/-- The text of the magnitude. -/
def magnitudeText (x : Decimal) : String :=
  if x.digits = 0 then "0.0"
  else
    let ds := Nat.toDigits 10 x.digits
    let trailing := (ds.reverse.takeWhile (· == '0')).length
    let ds := ds.take (ds.length - trailing)
    let point : Int := x.exponent + trailing + ds.length
    if -4 < point ∧ point ≤ 16 then
      if point ≤ 0 then
        "0." ++ String.ofList (List.replicate (-point).toNat '0' ++ ds)
      else if ds.length ≤ point.toNat then
        String.ofList (ds ++ List.replicate (point.toNat - ds.length) '0') ++ ".0"
      else
        String.ofList (ds.take point.toNat) ++ "." ++ String.ofList (ds.drop point.toNat)
    else
      let fraction := String.ofList (ds.drop 1)
      String.ofList (ds.take 1) ++ (if fraction.isEmpty then "" else "." ++ fraction)
        ++ "e" ++ exponentText (point - 1)

/-- The text of a number. -/
def text (x : Decimal) : String :=
  if x.negative then "-" ++ x.magnitudeText else x.magnitudeText

end Decimal

end CatalogReplication.Number
