import CatalogReplication.Text.Character
import CatalogReplication.Value.Basic

/-!
# The text of a value

`Value.display` is what a value reads as inside a message or a parameter: a text is itself, the
others are spelled as literals. `Value.literal` quotes texts too, so that the parts of a list or a
mapping stay apart.
-/

namespace CatalogReplication

namespace Text

/-- Lower-case hexadecimal digits of a number, padded with zeros. -/
def hex (width n : Nat) : List Char :=
  let ds := Nat.toDigits 16 n
  List.replicate (width - ds.length) '0' ++ ds

/-- The escape of a character by its number, as short as it can be. -/
def escape (c : Char) : List Char :=
  if c.toNat < 0x100 then '\\' :: 'x' :: hex 2 c.toNat
  else if c.toNat < 0x10000 then '\\' :: 'u' :: hex 4 c.toNat
  else '\\' :: 'U' :: hex 8 c.toNat

/-- One character inside a literal quoted with `quote`. -/
def literalChar (quote c : Char) : List Char :=
  if c == quote || c == '\\' then ['\\', c]
  else if c == '\n' then ['\\', 'n']
  else if c == '\r' then ['\\', 'r']
  else if c == '\t' then ['\\', 't']
  else if isPrintable c then [c]
  else escape c

/-- A text as a literal: in single quotes, or in double quotes where that saves escapes. -/
def literal (s : String) : String :=
  let cs := s.toList
  let quote := if cs.contains '\'' && !cs.contains '"' then '"' else '\''
  String.ofList (quote :: cs.flatMap (literalChar quote) ++ [quote])

end Text

namespace Value

mutual

/-- A value as a literal. -/
def literal : Value → String
  | .null => "None"
  | .bool true => "True"
  | .bool false => "False"
  | .int n => toString n
  | .real x => x.text
  | .text s => Text.literal s
  | .list items => "[" ++ String.intercalate ", " (literals items) ++ "]"
  | .map fields => "\x7b" ++ String.intercalate ", " (literalFields fields) ++ "\x7d"

/-- The items of a list as literals. -/
def literals : List Value → List String
  | [] => []
  | v :: rest => v.literal :: literals rest

/-- The entries of a mapping as literals. -/
def literalFields : List (String × Value) → List String
  | [] => []
  | (k, v) :: rest => (Text.literal k ++ ": " ++ v.literal) :: literalFields rest

end

/-- What a value reads as. -/
def display : Value → String
  | .text s => s
  | v => v.literal

end Value

end CatalogReplication
