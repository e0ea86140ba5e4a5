/-!
# Binary floating point, exactly

Which number of the binary format with 53 bits a ratio of natural numbers rounds to, and which
decimal with the fewest digits rounds to a given such number. All arithmetic is on natural numbers.
-/

namespace CatalogReplication.Number

/-- A number `mantissa * 2 ^ exponent` of the binary format. -/
structure Binary64 where
  mantissa : Nat
  exponent : Int
deriving DecidableEq, Repr

/-- The nearest natural number to a ratio; of two equally near ones the even one. -/
def roundHalfEven (num den : Nat) : Nat :=
  let q := num / den
  let r := num % den
  if 2 * r < den then q
  else if den < 2 * r then q + 1
  else if q % 2 = 0 then q else q + 1

/-- The ratio `num / den` divided by `2 ^ e`, again as a ratio. -/
def scaleDown (num den : Nat) (e : Int) : Nat × Nat :=
  if 0 ≤ e then (num, den * Nat.pow 2 e.toNat) else (num * Nat.pow 2 (-e).toNat, den)

namespace Binary64

/-- The number of the format nearest to `num / den`; none where the ratio is beyond its range. -/
def ofRatio (num den : Nat) : Option Binary64 :=
  if num = 0 then some ⟨0, -1074⟩
  else
    let e₀ : Int := (num.log2 : Int) - den.log2
    let (n, d) := scaleDown num den e₀
    let e := if n < d then e₀ - 1 else e₀
    let q := max (e - 52) (-1074)
    let (n, d) := scaleDown num den q
    let m := roundHalfEven n d
    let (m, q) := if m = Nat.pow 2 53 then (Nat.pow 2 52, q + 1) else (m, q)
    if 971 < q then none else some ⟨m, q⟩

/-- The number as a ratio. -/
def ratio (b : Binary64) : Nat × Nat :=
  if 0 ≤ b.exponent then (b.mantissa * Nat.pow 2 b.exponent.toNat, 1)
  else (b.mantissa, Nat.pow 2 (-b.exponent).toNat)

/-- The whole part of the number. -/
def whole (b : Binary64) : Nat := b.ratio.1 / b.ratio.2

/-- `digits * 10 ^ e` as a ratio. -/
def decimalRatio (digits : Nat) (e : Int) : Nat × Nat :=
  if 0 ≤ e then (digits * Nat.pow 10 e.toNat, 1) else (digits, Nat.pow 10 (-e).toNat)

/-- How many decimal digits stand before the point; for a number below one, one less the number of
places up to its first digit that is not zero. -/
def pointPosition (b : Binary64) : Int :=
  let (n, d) := b.ratio
  if d ≤ n then (Nat.toDigits 10 (n / d)).length
  else
    let c := (d + n - 1) / n
    if c ≤ 1 then 0 else 1 - ((Nat.toDigits 10 (c - 1)).length : Int)

/-- Whether a decimal rounds to the number. -/
def roundsFrom (b : Binary64) (digits : Nat) (e : Int) : Bool :=
  let (n, d) := decimalRatio digits e
  decide (ofRatio n d = some b)

/-- The nearer of the number's two neighbours with the last digit at `10 ^ e` that rounds to it. -/
def neighbour (b : Binary64) (e : Int) : Option Nat :=
  let (n, d) := b.ratio
  let (n, d) := if 0 ≤ e then (n, d * Nat.pow 10 e.toNat) else (n * Nat.pow 10 (-e).toNat, d)
  let low := n / d
  let near := roundHalfEven n d
  let far := if near = low then low + 1 else low
  if b.roundsFrom near e then some near
  else if b.roundsFrom far e then some far
  else none

/-- The decimal with the fewest digits that rounds to the number: its digits and its exponent. -/
def shortest (b : Binary64) : Nat × Int :=
  if b.mantissa = 0 then (0, 0)
  else
    let k := b.pointPosition
    let grids := (List.range 17).map fun (i : Nat) => k - ((i : Int) + 1)
    match grids.findSome? fun e => (b.neighbour e).map fun n => (n, e) with
    | some found => found
    | none => (roundHalfEven b.ratio.1 b.ratio.2, 0)

end Binary64

end CatalogReplication.Number
