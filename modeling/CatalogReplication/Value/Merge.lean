import CatalogReplication.Value.Basic

/-!
# Layering values

`Value.merge x y` lays `y` over `x`. Mappings are merged key by key, nothing is the neutral layer,
and of two other values the upper one counts. A mapping can neither replace another value nor be
replaced by one.
-/

namespace CatalogReplication.Value

/-- A mapping and a value that is none stand at the same place. -/
structure MergeMismatch where
  lower : Value
  upper : Value

mutual

/-- `y` laid over `x`. -/
def merge : Value → Value → Except MergeMismatch Value
  | .null, y => .ok y
  | .map xs, .map ys =>
    match mergeFields xs ys with
    | .ok zs => .ok (.map (zs ++ ys.filter fun e => !Assoc.hasKey e.1 xs))
    | .error e => .error e
  | x, .null => .ok x
  | .map xs, y => .error ⟨.map xs, y⟩
  | x, .map ys => .error ⟨x, .map ys⟩
  | _, y => .ok y

/-- The entries of the lower mapping, each with the upper value laid over it. -/
def mergeFields : List (String × Value) → Assoc String Value →
    Except MergeMismatch (List (String × Value))
  | [], _ => .ok []
  | (k, x) :: xs, ys =>
    match ys.lookup k with
    | none =>
      match mergeFields xs ys with
      | .ok zs => .ok ((k, x) :: zs)
      | .error e => .error e
    | some y =>
      match merge x y with
      | .error e => .error e
      | .ok z =>
        match mergeFields xs ys with
        | .ok zs => .ok ((k, z) :: zs)
        | .error e => .error e

end

/-! ### The neutral layer -/

theorem null_merge (y : Value) : merge .null y = .ok y := by
  unfold merge; rfl

theorem merge_null (x : Value) : merge x .null = .ok x := by
  cases x <;> unfold merge <;> rfl

end CatalogReplication.Value
