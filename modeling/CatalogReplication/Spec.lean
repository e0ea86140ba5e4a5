import CatalogReplication.Text.Cut

/-!
# Specs

A spec names one object of a catalog: a table `db.table`, or a partition `db.table/name` of one.
`Spec.text` writes a spec and `Spec.parse` reads it: the database ends at the first point, the
table at the first slash.
-/

namespace CatalogReplication

/-- Names a table, or one of its partitions. -/
structure Spec where
  database : String
  table : String
  partition : Option String := none
deriving DecidableEq, Repr, Inhabited

namespace Spec

/-- Why a text or a spec can't be used. -/
inductive Error where
  | unreadable (text : String)
  | notPartition (spec : Spec)
  | notTable (spec : Spec)
deriving Repr

/-- The table that a spec belongs to. -/
def tableSpec (s : Spec) : Spec := { database := s.database, table := s.table }

/-- Whether a spec names a partition. -/
def isPartition (s : Spec) : Bool := s.partition.isSome

/-- The text of a spec. -/
def text (s : Spec) : String :=
  match s.partition with
  | none => s.database ++ "." ++ s.table
  | some p => s.database ++ "." ++ s.table ++ "/" ++ p

/-- Reads a spec; the database and the table must not be empty, and an empty partition is none. -/
def parse (text : String) : Except Error Spec :=
  let (name, partition) := Text.cut '/' text.toList
  match Text.cut '.' name with
  | (database, some table) =>
    if database.isEmpty || table.isEmpty then .error (.unreadable text)
    else
      .ok {
        database := String.ofList database
        table := String.ofList table
        partition :=
          match partition with
          | none | some [] => none
          | some p => some (String.ofList p) }
  | (_, none) => .error (.unreadable text)

/-- The wording of an error. -/
def Error.message : Error → String
  | .unreadable text => s!"Can't parse object spec '{text}'"
  | .notPartition spec => "'" ++ spec.text ++ "' doesn't identify a partition"
  | .notTable spec => "'" ++ spec.text ++ "' doesn't identify a table"

end Spec

end CatalogReplication
