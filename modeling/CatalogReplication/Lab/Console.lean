import CatalogReplication.Console.Logging
import CatalogReplication.Console.Options

/-!
# Looking at a console

What a console wrote, without what depends on its layout: the widths of the columns don't count, and
of the first line of a rendered event only its words do.
-/

namespace CatalogReplication.Lab

/-- A text without repeated blanks behind something else, and without blanks at its end. -/
def tidyLine (s : List Char) : List Char :=
  let rec squeeze (isBehind : Bool) : List Char → List Char
    | [] => []
    | ' ' :: rest =>
      if isBehind && rest.head? == some ' ' then squeeze true rest else ' ' :: squeeze false rest
    | c :: rest => c :: squeeze (!Text.isBlank c) rest
  Text.dropTrailing Text.isBlank (squeeze false s)

/-- How long the style of a terminal is that a text begins with, behind the escape. -/
def styleLength? : List Char → Option Nat
  | '[' :: rest =>
    let numbers := rest.takeWhile fun c => c.isDigit || c == ';'
    if (rest.drop numbers.length).head? == some 'm' then some (numbers.length + 2) else none
  | _ => none

/-- A text without the styles of a terminal, of which `n` characters are to be skipped. -/
def dropStyles : Nat → List Char → List Char
  | _, [] => []
  | n + 1, _ :: rest => dropStyles n rest
  | 0, c :: rest =>
    match if c == '\x1b' then styleLength? rest else none with
    | some n => dropStyles n rest
    | none => c :: dropStyles 0 rest

/-- The lines that were written, tidied. -/
def tidyLines (s : String) : List String :=
  ((Text.segments '\n' (dropStyles 0 s.toList)).dropLast).map fun l => String.ofList (tidyLine l)

/-- A rendered event. -/
structure Rendered where
  /-- For each of some words, whether it is in the first line. -/
  has : List Bool
  /-- The first word of the first line, if there is one. -/
  start : List String
  /-- The lines behind the first. -/
  further : List String

/-- Renders an event and looks for words. -/
def look (r : Console.Renderer) (fields : Console.Fields) (words : List String) :
    Except Failure Rendered := do
  let text ← r.render fields
  match Text.segments '\n' text.toList with
  | [] => return { has := words.map fun _ => false, start := [], further := [] }
  | first :: further =>
    return {
      has := words.map fun w => Text.contains w.toList first
      start := ((Text.words first).take 1).map String.ofList
      further := further.map String.ofList }

end CatalogReplication.Lab
