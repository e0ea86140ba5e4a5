import CatalogReplication.Assoc
import CatalogReplication.Number.Decimal

/-!
# Values

The values that configurations, stored documents and log lines are made of: nothing, truth values,
whole and decimal numbers, texts, lists, and mappings from texts that keep the order of their keys.
-/

namespace CatalogReplication

open Number (Decimal)

/-- A value of a configuration, a document or a log line. -/
inductive Value where
  | null
  | bool (b : Bool)
  | int (n : Int)
  | real (x : Decimal)
  | text (s : String)
  | list (items : List Value)
  | map (fields : List (String × Value))
deriving Inhabited, Repr, BEq

namespace Value

/-- Whether a value counts as true: anything but nothing, `false`, zero and what is empty. -/
def truthy : Value → Bool
  | null => false
  | bool b => b
  | int n => n != 0
  | real x => !x.isZero
  | text s => !s.isEmpty
  | list items => !items.isEmpty
  | map fields => !fields.isEmpty

/-- Whether a value is a mapping. -/
def isMap : Value → Bool
  | map _ => true
  | _ => false

/-- Whether a value is nothing. -/
def isNull : Value → Bool
  | null => true
  | _ => false

/-- The text, if the value is one. -/
def text? : Value → Option String
  | text s => some s
  | _ => none

/-- The entry of a mapping under a key. -/
def field? (k : String) : Value → Option Value
  | map fields => fields.lookup k
  | _ => none

/-- A text, or nothing. -/
def ofText? : Option String → Value
  | some s => text s
  | none => null

/-- A whole number, or nothing. -/
def ofInt? : Option Int → Value
  | some n => int n
  | none => null

/-- A list of texts. -/
def texts (ss : List String) : Value := list (ss.map text)

end Value

end CatalogReplication
