import CatalogReplication.Value.Basic

/-!
# Comparing values

Values are equal if they say the same: numbers by their size, truth values as the numbers zero and
one, mappings whatever the order of their keys. Only numbers, texts, and lists item by item have an
order among themselves.
-/

namespace CatalogReplication

namespace Value

/-- A number as a ratio; truth values are numbers. -/
def ratio? : Value → Option (Int × Nat)
  | int n => some (n, 1)
  | bool b => some (if b then 1 else 0, 1)
  | real x => some x.ratio
  | _ => none

/-- The order of two ratios. -/
def compareRatios (a b : Int × Nat) : Ordering := compare (a.1 * b.2) (b.1 * a.2)

mutual

/-- Whether two values say the same. -/
def isSame : Value → Value → Bool
  | .null, .null => true
  | .text s, .text t => s == t
  | .list xs, .list ys => areSame xs ys
  | .map xs, .map ys => xs.length == ys.length && holdSame xs ys
  | v, w =>
    match v.ratio?, w.ratio? with
    | some a, some b => compareRatios a b == .eq
    | _, _ => false

/-- Whether two lists of values say the same. -/
def areSame : List Value → List Value → Bool
  | [], [] => true
  | x :: xs, y :: ys => isSame x y && areSame xs ys
  | _, _ => false

/-- Whether a mapping says the same as another under each of its own keys. -/
def holdSame : List (String × Value) → List (String × Value) → Bool
  | [], _ => true
  | (k, x) :: xs, ys =>
    (match ys.lookup k with
      | some y => isSame x y
      | none => false) && holdSame xs ys

end

mutual

/-- The order of two values, if they have one. -/
def order? : Value → Value → Option Ordering
  | .text s, .text t => some (compare s t)
  | .list xs, .list ys => orderItems? xs ys
  | v, w =>
    match v.ratio?, w.ratio? with
    | some a, some b => some (compareRatios a b)
    | _, _ => none

/-- The order of two lists: that of the first items that aren't the same. -/
def orderItems? : List Value → List Value → Option Ordering
  | [], [] => some .eq
  | [], _ :: _ => some .lt
  | _ :: _, [] => some .gt
  | x :: xs, y :: ys => if isSame x y then orderItems? xs ys else order? x y

end

/-- Values in increasing order; none if two of them have no order. -/
def sorted? (vs : List Value) : Option (List Value) :=
  let isOrdered := vs.Pairwise fun v w => (v.order? w).isSome = true
  if isOrdered then some (vs.mergeSort fun v w => v.order? w != some .gt) else none

/-! ### Comparing texts and numbers -/

theorem order?_text (s t : String) : order? (.text s) (.text t) = some (compare s t) := by
  simp [order?]

theorem order?_int (a b : Int) : order? (.int a) (.int b) = some (compare a b) := by
  simp [order?, ratio?, compareRatios]

end Value

end CatalogReplication
