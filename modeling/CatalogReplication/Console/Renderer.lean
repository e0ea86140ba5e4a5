import CatalogReplication.Failure
import CatalogReplication.Text.Cut
import CatalogReplication.Text.Lines

/-!
# Rendering log lines

A log line is a mapping of keys to values. Some keys have columns of their own at the beginning of
the line, the others follow as `key=value`. The state of the program and its failure are written
below the line; so are, as blocks with a margin, values that are too bulky for a line, such as
records.
-/

namespace CatalogReplication.Console

/-- What a log line says, by keys. -/
abbrev Fields := Assoc String Value

/-- Renders lines. -/
structure Renderer where
  /-- The keys of what is written in blocks. -/
  blockKeys : List String := []
  /-- The key whose column comes first. -/
  timestampKey : Option String := some "timestamp"
  /-- The key of what a line is about. -/
  eventKey : Option String := some "event"
  /-- How wide the column of the event is at least. -/
  eventWidth : Value := .int 30
  /-- What is written before the names of levels. -/
  levelStyles : Assoc String String := []
  /-- How wide the names of levels are at least. -/
  levelWidth : Nat := 9
  /-- Whether all texts are quoted, not only those that need it. -/
  quotesTexts : Bool := false
  /-- Whether entries come in the order of their keys. -/
  sortsKeys : Bool := true
deriving Repr

/-- A text with blanks behind it up to a width. -/
def padRight (width : Nat) (s : String) : String :=
  s ++ String.ofList (List.replicate (width - s.length) ' ')

/-- A text with blanks behind it up to a width, which has to be a whole number unless the text
reaches it. -/
def padTo (width : Value) (s : String) : Except Failure String :=
  match width with
  | .int n => .ok (padRight n.toNat s)
  | .bool b => .ok (padRight (if b then 1 else 0) s)
  | .real x =>
    if x.whole < s.length ∨ x.isWhole ∧ x.whole = s.length then .ok s else .error .arguments
  | _ => .error .arguments

/-- Whether a text has to be quoted to be told apart from what stands around it. -/
def needsQuotes (s : String) : Bool :=
  s.toList.any fun c => [' ', '\t', '=', '\r', '\n', '"', '\''].contains c

/-- A name in brackets. -/
def bracketed (v : Value) : String := "[" ++ v.display ++ "]"

/-- The text of something that is written below a line. -/
def textBelow : Value → Except Failure String
  | .null => .ok ""
  | .text s => .ok ("\n" ++ s)
  | _ => .error .arguments

/-- What is written below a line about the state of the program and its failure. -/
def trailer (fields : Fields) : Except Failure String := do
  let stack := (fields.lookup "stack").getD .null
  let exception := (fields.lookup "exception").getD .null
  let hasFailed := ((fields.lookup "exc_info").getD .null).truthy || !exception.isNull
  let rule :=
    if !stack.isNull && hasFailed then "\n\n" ++ String.ofList (List.replicate 79 '=') ++ "\n"
    else ""
  return (← textBelow stack) ++ rule ++ (← textBelow exception)

/-- A value as a block below a line. -/
def blockText (key : String) (v : Value) : String :=
  "\n    [" ++ key ++ "]\n" ++ String.ofList (Text.indent "    ".toList v.display.toList)

/-- A column: its key, and how its value is written. -/
abbrev Column := String × (Value → Except Failure String)

/-- Takes the values of columns out of a line; answers their texts and what is left. -/
def takeColumns : List Column → Fields → Except Failure (List String × Fields)
  | [], fields => .ok ([], fields)
  | (key, write) :: rest, fields =>
    match fields.lookup key with
    | none => takeColumns rest fields
    | some v => do
      let s ← write v
      let (texts, fields) ← takeColumns rest (Assoc.erase key fields)
      return (s :: texts, fields)

namespace Renderer

/-- A value behind its key. -/
def valueText (r : Renderer) : Value → String
  | .text s => if r.quotesTexts || needsQuotes s then Text.literal s else s
  | v => v.literal

/-- A key and its value. -/
def entryText (r : Renderer) (e : String × Value) : String := e.1 ++ "=" ++ r.valueText e.2

/-- The name of a level; only a text is one. -/
def levelText (r : Renderer) : Value → Except Failure String
  | .text s =>
    .ok ("[" ++ (r.levelStyles.lookup s).getD "" ++ padRight r.levelWidth s ++ "]")
  | _ => .error .arguments

/-- The columns in their order. An entry without a key comes before all others. -/
def columns (r : Renderer) : List Column :=
  let own : List Column := [("", fun v => .ok (r.entryText ("", v)))]
  let time : List Column := r.timestampKey.toList.map fun k => (k, fun v => .ok v.display)
  let event : List Column :=
    r.eventKey.toList.map fun k => (k, fun v => padTo r.eventWidth v.display)
  own ++ time ++ [("level", r.levelText)] ++ event
    ++ [("logger", fun v => .ok (bracketed v)), ("logger_name", fun v => .ok (bracketed v))]

/-- The entries that have no column, in their order. -/
def ordered (r : Renderer) (fields : Fields) : Fields :=
  if r.sortsKeys then fields.mergeSort fun a b => !decide (b.1 < a.1) else fields

/-- A line without blocks. -/
def lineText (r : Renderer) (fields : Fields) : Except Failure String := do
  let inLine := fields.filter fun e => !(["stack", "exception", "exc_info"].contains e.1)
  let (texts, entries) ← takeColumns r.columns inLine
  let parts := texts ++ (r.ordered entries).map r.entryText
  let line := " ".intercalate (parts.filter fun s => !s.isEmpty)
  return String.ofList (Text.dropTrailing (· == ' ') line.toList) ++ (← trailer fields)

/-- The blocks of a line, in the order of the block keys; what is nothing has none. -/
def blocks (r : Renderer) (fields : Fields) : List (String × Value) :=
  r.blockKeys.eraseDups.filterMap fun k =>
    match fields.lookup k with
    | none | some .null => none
    | some v => some (k, v)

/-- The text of a line with its blocks. -/
def render (r : Renderer) (fields : Fields) : Except Failure String := do
  let rest := fields.filter fun e => !r.blockKeys.contains e.1
  return (← r.lineText rest) ++ String.join ((r.blocks fields).map fun b => blockText b.1 b.2)

end Renderer

end CatalogReplication.Console
