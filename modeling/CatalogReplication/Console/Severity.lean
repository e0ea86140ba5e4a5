/-!
# Severities

How important a log line is. Severities have numbers, so that a console can leave out what lies
below a limit.
-/

namespace CatalogReplication

/-- How loudly a line is logged. -/
inductive Severity where
  | debug
  | info
  | warning
  | error
  | critical
deriving DecidableEq, Repr

namespace Severity

/-- All severities, the least important first. -/
def all : List Severity := [debug, info, warning, error, critical]

/-- The name of a severity. -/
def name : Severity → String
  | debug => "debug"
  | info => "info"
  | warning => "warning"
  | error => "error"
  | critical => "critical"

/-- The number of a severity. -/
def number : Severity → Int
  | debug => 10
  | info => 20
  | warning => 30
  | error => 40
  | critical => 50

/-- The numbers of the names that a limit can have; the last one lets everything through. -/
def limits : List (String × Int) :=
  [("CRITICAL", 50), ("ERROR", 40), ("WARN", 30), ("WARNING", 30), ("INFO", 20), ("DEBUG", 10),
   ("NOTSET", 0)]

/-- The severity of a number. -/
def ofNumber? (n : Int) : Option Severity := all.find? fun s => s.number == n

theorem ofNumber?_number (s : Severity) : ofNumber? s.number = some s := by
  cases s <;> rfl

theorem number_of_ofNumber? {n : Int} {s : Severity} (h : ofNumber? n = some s) :
    s.number = n := by
  unfold ofNumber? at h
  have hs := List.find?_some h
  exact beq_iff_eq.1 hs

end Severity

end CatalogReplication
