import CatalogReplication.Proofs.Assoc
import CatalogReplication.Value.Basic

/-!
# Values and the paths into them

A value is well-formed if none of the mappings in it has two entries for a key (`Value.WellFormed`).
A path of keys leads from mapping to mapping, and `Value.at?` is what stands at its end.
-/

namespace CatalogReplication.Value

/-! ### Induction -/

/-- What holds of a value if it holds of its parts holds of all values. -/
@[elab_as_elim]
theorem inductionOn {motive : Value → Prop} (v : Value) (null : motive .null)
    (bool : ∀ b, motive (.bool b)) (int : ∀ n, motive (.int n)) (real : ∀ x, motive (.real x))
    (text : ∀ s, motive (.text s))
    (list : ∀ items, (∀ v ∈ items, motive v) → motive (.list items))
    (map : ∀ fields, (∀ e ∈ fields, motive e.2) → motive (.map fields)) : motive v :=
  @Value.rec motive (fun items => ∀ v ∈ items, motive v) (fun fields => ∀ e ∈ fields, motive e.2)
    (fun e => motive e.2) null bool int real text list map nofun
    (fun _ _ hv hrest => List.forall_mem_cons.2 ⟨hv, hrest⟩) nofun
    (fun _ _ he hrest => List.forall_mem_cons.2 ⟨he, hrest⟩) (fun _ _ hv => hv) v

/-! ### Kinds of values -/

/-- Neither nothing nor a mapping. -/
def IsLeaf (v : Value) : Prop := v.isNull = false ∧ v.isMap = false

/-- A value is nothing, a mapping or a leaf. -/
theorem null_or_map_or_leaf (v : Value) :
    v = .null ∨ (∃ fields, v = .map fields) ∨ v.IsLeaf := by
  cases v with
  | null => exact .inl rfl
  | map fields => exact .inr (.inl ⟨fields, rfl⟩)
  | _ => exact .inr (.inr ⟨rfl, rfl⟩)

/-! ### Well-formed values -/

/-- No mapping in the value has two entries for a key. -/
inductive WellFormed : Value → Prop where
  | null : WellFormed .null
  | bool (b : Bool) : WellFormed (.bool b)
  | int (n : Int) : WellFormed (.int n)
  | real (x : Number.Decimal) : WellFormed (.real x)
  | text (s : String) : WellFormed (.text s)
  | list {items : List Value} (h : ∀ v ∈ items, WellFormed v) : WellFormed (.list items)
  | map {fields : List (String × Value)} (hkeys : (Assoc.keys fields).Nodup)
      (h : ∀ e ∈ fields, WellFormed e.2) : WellFormed (.map fields)

attribute [simp] WellFormed.null WellFormed.bool WellFormed.int WellFormed.real WellFormed.text

namespace WellFormed

variable {fields : List (String × Value)}

theorem nodup_keys (h : (Value.map fields).WellFormed) : (Assoc.keys fields).Nodup := by
  cases h with
  | map hkeys _ => exact hkeys

theorem of_mem (h : (Value.map fields).WellFormed) {e : String × Value} (he : e ∈ fields) :
    e.2.WellFormed := by
  cases h with
  | map _ h => exact h e he

theorem of_lookup (h : (Value.map fields).WellFormed) {k : String} {v : Value}
    (hv : fields.lookup k = some v) : v.WellFormed :=
  h.of_mem (Assoc.mem_of_lookup hv)

end WellFormed

@[simp]
theorem wellFormed_map_iff {fields : List (String × Value)} :
    (Value.map fields).WellFormed ↔
      (Assoc.keys fields).Nodup ∧ ∀ e ∈ fields, e.2.WellFormed :=
  ⟨fun h => ⟨h.nodup_keys, fun _ => h.of_mem⟩, fun h => .map h.1 h.2⟩

/-! ### Paths -/

/-- What stands at the end of a path of keys. -/
def at? : List String → Value → Option Value
  | [], v => some v
  | k :: path, v => (v.field? k).bind (at? path)

/-- The keys of a mapping; anything else has none. -/
def keys : Value → List String
  | map fields => Assoc.keys fields
  | _ => []

/-- The keys of what stands at the end of a path. -/
def keysAt (path : List String) (v : Value) : List String := ((v.at? path).map keys).getD []

/-- Whether a mapping stands at the end of a path. -/
def isMapAt (path : List String) (v : Value) : Bool := (v.at? path).any isMap

/-- What stands at the end of a path, if it is more than nothing. -/
def something? (path : List String) (v : Value) : Option Value :=
  (v.at? path).filter fun w => !w.isNull

theorem at?_cons (k : String) (path : List String) (v : Value) :
    v.at? (k :: path) = (v.field? k).bind (at? path) := rfl

theorem field?_map (k : String) (fields : List (String × Value)) :
    (map fields).field? k = fields.lookup k := rfl

theorem IsLeaf.keys_eq_nil {v : Value} (h : v.IsLeaf) : v.keys = [] := by
  cases v with
  | map fields => cases h.2
  | _ => rfl

theorem IsLeaf.field?_eq_none {v : Value} (h : v.IsLeaf) (k : String) : v.field? k = none := by
  cases v with
  | map fields => cases h.2
  | _ => rfl

end CatalogReplication.Value
