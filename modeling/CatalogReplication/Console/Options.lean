import CatalogReplication.Console.Renderer

/-!
# Options of a renderer

A renderer can be described by a mapping of options. Options that aren't known and values that an
option can't have are refused.
-/

namespace CatalogReplication.Console

/-- The names of options. -/
def optionNames : List String :=
  ["render_keys", "pad_event_to", "colors", "force_colors", "repr_native_str", "level_styles",
   "exception_formatter", "sort_keys", "event_key", "timestamp_key", "columns", "pad_level",
   "pad_event"]

/-- What can be a key at all: a text is one, nothing that has parts is. -/
def keyOption : Value → Except Failure (Option String)
  | .text s => .ok (some s)
  | .list _ | .map _ => .error .arguments
  | _ => .ok none

/-- The keys in a value: the items of a list, the keys of a mapping, the characters of a text. -/
def keysOption : Value → Except Failure (List String)
  | .list items => do
    let keys ← items.mapM keyOption
    return keys.filterMap id
  | .map fields => .ok (fields.map Prod.fst)
  | .text s => .ok (s.toList.map fun c => c.toString)
  | _ => .error .arguments

/-- The width of the column of events, which has two names; only one of them may be used. -/
def widthOption (width former : Value) : Except Failure Value :=
  match former with
  | .null => .ok width
  | former => if width == .int 30 then .ok former else .error (.other "ValueError")

/-- What is written before the name of a level. -/
def styleOption (e : String × Value) : Except Failure (String × String) :=
  match e.2 with
  | .text s => .ok (e.1, s)
  | .list items => .ok (e.1, (Value.list items).display)
  | _ => .error .arguments

/-- The styles of levels and the length of the longest name; there has to be at least one. -/
def stylesOption : Value → Except Failure (Assoc String String × Nat)
  | .null => .ok ([], 9)
  | .map fields => do
    let styles ← fields.mapM styleOption
    if styles.isEmpty then .error (.other "ValueError")
    else return (styles, styles.foldl (fun n e => max n e.1.length) 0)
  | .list (_ :: _) => .error .arguments
  | _ => .error .member

/-- Columns can't be described by a value. -/
def columnsOption : Value → Except Failure Unit
  | .null => .ok ()
  | .text "" | .list [] | .map [] => .error (.other "ValueError")
  | .text _ | .list _ | .map _ => .error .member
  | _ => .error .arguments

namespace Renderer

/-- The renderer that options describe. -/
def ofOptions (options : Assoc String Value) : Except Failure Renderer := do
  if options.any fun e => !optionNames.contains e.1 then throw .arguments
  let option (name : String) (default : Value) : Value := (options.lookup name).getD default
  let width ← widthOption (option "pad_event_to" (.int 30)) (option "pad_event" .null)
  columnsOption (option "columns" .null)
  let (levelStyles, levelWidth) ← stylesOption (option "level_styles" .null)
  return {
    blockKeys := ← keysOption (option "render_keys" (.list []))
    timestampKey := ← keyOption (option "timestamp_key" (.text "timestamp"))
    eventKey := ← keyOption (option "event_key" (.text "event"))
    eventWidth := width
    levelStyles
    levelWidth := if (option "pad_level" (.bool true)).truthy then levelWidth else 0
    quotesTexts := option "repr_native_str" .null == .bool true
    sortsKeys := (option "sort_keys" (.bool true)).truthy }

end Renderer

end CatalogReplication.Console
