import CatalogReplication.Value.Display
import CatalogReplication.Text.Cut

/-!
# Values as JSON

`Value.ofJson?` reads a JSON text and `Value.toJson` writes one. Mappings keep the order of their
keys; of a repeated key the last value counts. A number without fraction and exponent is a whole
number of any size.
-/

namespace CatalogReplication

open Number (Decimal)

namespace Json

/-- The characters between tokens. -/
def isSpace (c : Char) : Bool := c == ' ' || c == '\n' || c == '\r' || c == '\t'

/-- The text after any spaces. -/
def skip (cs : List Char) : List Char := cs.dropWhile isSpace

/-- The value of a hexadecimal digit. -/
def hexValue? (c : Char) : Option Nat :=
  if '0' ≤ c ∧ c ≤ '9' then some (c.toNat - 0x30)
  else if 'a' ≤ c ∧ c ≤ 'f' then some (c.toNat - 0x61 + 10)
  else if 'A' ≤ c ∧ c ≤ 'F' then some (c.toNat - 0x41 + 10)
  else none

/-- The number that four hexadecimal digits stand for. -/
def hex4? (a b c d : Char) : Option Nat :=
  match hexValue? a, hexValue? b, hexValue? c, hexValue? d with
  | some a, some b, some c, some d => some (((a * 16 + b) * 16 + c) * 16 + d)
  | _, _, _, _ => none

/-- Two halves of a surrogate pair make one character. -/
def pair (hi lo : Nat) : Char := Char.ofNat (0x10000 + (hi - 0xd800) * 0x400 + (lo - 0xdc00))

/-- The character of a single unit; half of a pair stands for the replacement character. -/
def single (n : Nat) : Char := if 0xd800 ≤ n ∧ n < 0xe000 then '\ufffd' else Char.ofNat n

/-- Puts a character before the text read from the rest. -/
def consText (c : Char) : Option (List Char × List Char) → Option (List Char × List Char)
  | some (s, rest) => some (c :: s, rest)
  | none => none

/-- Reads a text up to its closing quote. -/
def readText : List Char → Option (List Char × List Char)
  | [] => none
  | '"' :: rest => some ([], rest)
  | '\\' :: 'u' :: a :: b :: c :: d :: '\\' :: 'u' :: e :: f :: g :: h :: rest =>
    match hex4? a b c d, hex4? e f g h with
    | some hi, some lo =>
      if 0xd800 ≤ hi ∧ hi < 0xdc00 ∧ 0xdc00 ≤ lo ∧ lo < 0xe000 then
        consText (pair hi lo) (readText rest)
      else consText (single hi) (readText ('\\' :: 'u' :: e :: f :: g :: h :: rest))
    | some n, none => consText (single n) (readText ('\\' :: 'u' :: e :: f :: g :: h :: rest))
    | none, _ => none
  | '\\' :: 'u' :: a :: b :: c :: d :: rest =>
    match hex4? a b c d with
    | some n => consText (single n) (readText rest)
    | none => none
  | '\\' :: 'n' :: rest => consText '\n' (readText rest)
  | '\\' :: 't' :: rest => consText '\t' (readText rest)
  | '\\' :: 'r' :: rest => consText '\r' (readText rest)
  | '\\' :: 'b' :: rest => consText '\x08' (readText rest)
  | '\\' :: 'f' :: rest => consText '\x0c' (readText rest)
  | '\\' :: '"' :: rest => consText '"' (readText rest)
  | '\\' :: '\\' :: rest => consText '\\' (readText rest)
  | '\\' :: '/' :: rest => consText '/' (readText rest)
  | '\\' :: _ => none
  | c :: rest => consText c (readText rest)
termination_by cs => cs.length

/-- The number that decimal digits stand for. -/
def digits? (cs : List Char) : Option Nat :=
  if cs.isEmpty then none
  else if cs.all Char.isDigit then some (cs.foldl (fun n c => n * 10 + (c.toNat - 0x30)) 0)
  else none

/-- A whole number with an optional sign. -/
def signed? : List Char → Option Int
  | '-' :: cs => (digits? cs).map fun n => -(n : Int)
  | '+' :: cs => (digits? cs).map fun n => (n : Int)
  | cs => (digits? cs).map fun n => (n : Int)

/-- The number that the magnitude of a literal stands for. -/
def magnitude? (negative : Bool) (cs : List Char) : Option Value :=
  let mantissa := cs.takeWhile fun c => !(c == 'e' || c == 'E')
  let exponent := (cs.dropWhile fun c => !(c == 'e' || c == 'E')).drop 1
  let whole := (Text.cut '.' mantissa).1
  match (Text.cut '.' mantissa).2, exponent with
  | none, [] =>
    (digits? whole).map fun n => .int (if negative then -(n : Int) else n)
  | fraction, exponent =>
    let fraction := fraction.getD []
    let power := if exponent.isEmpty then some 0 else signed? exponent
    match digits? (whole ++ fraction), power with
    | some n, some e => some (.real (Decimal.rounded ⟨negative, n, e - fraction.length⟩))
    | _, _ => none

/-- The number that a literal stands for. -/
def number? : List Char → Option Value
  | '-' :: cs => magnitude? true cs
  | cs => magnitude? false cs

/-- The characters of which numbers are made. -/
def isNumeric (c : Char) : Bool :=
  c.isDigit || c == '-' || c == '+' || c == '.' || c == 'e' || c == 'E'

mutual

/-- Reads one value with numbers as `numeral?` says; `fuel` bounds the number of tokens. -/
def readValue (numeral? : List Char → Option Value) (fuel : Nat) (cs : List Char) :
    Option (Value × List Char) :=
  match fuel with
  | 0 => none
  | fuel + 1 =>
    match skip cs with
    | '"' :: rest => (readText rest).map fun r => (.text (String.ofList r.1), r.2)
    | '[' :: rest =>
      match skip rest with
      | ']' :: rest => some (.list [], rest)
      | rest => (readItems numeral? fuel rest).map fun r => (.list r.1, r.2)
    | '\x7b' :: rest =>
      match skip rest with
      | '\x7d' :: rest => some (.map [], rest)
      | rest => (readFields numeral? fuel rest []).map fun r => (.map r.1, r.2)
    | 'n' :: 'u' :: 'l' :: 'l' :: rest => some (.null, rest)
    | 't' :: 'r' :: 'u' :: 'e' :: rest => some (.bool true, rest)
    | 'f' :: 'a' :: 'l' :: 's' :: 'e' :: rest => some (.bool false, rest)
    | cs => (numeral? (cs.takeWhile isNumeric)).map fun v => (v, cs.dropWhile isNumeric)

/-- Reads the items of a list, behind its opening bracket. -/
def readItems (numeral? : List Char → Option Value) (fuel : Nat) (cs : List Char) :
    Option (List Value × List Char) :=
  match fuel with
  | 0 => none
  | fuel + 1 =>
    match readValue numeral? fuel cs with
    | none => none
    | some (v, rest) =>
      match skip rest with
      | ',' :: rest => (readItems numeral? fuel rest).map fun r => (v :: r.1, r.2)
      | ']' :: rest => some ([v], rest)
      | _ => none

/-- Reads the entries of a mapping, behind its opening brace, after those in `seen`. -/
def readFields (numeral? : List Char → Option Value) (fuel : Nat) (cs : List Char)
    (seen : Assoc String Value) : Option (Assoc String Value × List Char) :=
  match fuel with
  | 0 => none
  | fuel + 1 =>
    match skip cs with
    | '"' :: rest =>
      match readText rest with
      | none => none
      | some (k, rest) =>
        match skip rest with
        | ':' :: rest =>
          match readValue numeral? fuel rest with
          | none => none
          | some (v, rest) =>
            let seen := Assoc.put (String.ofList k) v seen
            match skip rest with
            | ',' :: rest => readFields numeral? fuel rest seen
            | '\x7d' :: rest => some (seen, rest)
            | _ => none
        | _ => none
    | _ => none

end

/-- A unit of sixteen bits, escaped. -/
def unit (n : Nat) : List Char := '\\' :: 'u' :: Text.hex 4 n

/-- One character inside a written text, in ASCII; those of two units are escaped as such. -/
def escapeChar (c : Char) : List Char :=
  if c == '"' then ['\\', '"']
  else if c == '\\' then ['\\', '\\']
  else if c == '\n' then ['\\', 'n']
  else if c == '\r' then ['\\', 'r']
  else if c == '\t' then ['\\', 't']
  else if 0x20 ≤ c.toNat && c.toNat < 0x80 then [c]
  else if c.toNat < 0x10000 then unit c.toNat
  else
    let n := c.toNat - 0x10000
    unit (0xd800 + n / 0x400) ++ unit (0xdc00 + n % 0x400)

/-- A text in quotes. -/
def writeText (s : String) : String :=
  String.ofList ('"' :: s.toList.flatMap escapeChar ++ ['"'])

end Json

namespace Value

/-- Reads a text that holds one value, with numbers as `numeral?` says. -/
def ofDocument? (numeral? : List Char → Option Value) (s : String) : Option Value :=
  let cs := s.toList
  match Json.readValue numeral? (2 * cs.length + 1) cs with
  | some (v, rest) => if (Json.skip rest).isEmpty then some v else none
  | none => none

/-- Reads a JSON text that holds one value. -/
def ofJson? (s : String) : Option Value := ofDocument? Json.number? s

mutual

/-- Writes a value as JSON. -/
def toJson : Value → String
  | .null => "null"
  | .bool true => "true"
  | .bool false => "false"
  | .int n => toString n
  | .real x => x.text
  | .text s => Json.writeText s
  | .list items => "[" ++ String.intercalate ", " (toJsons items) ++ "]"
  | .map fields => "\x7b" ++ String.intercalate ", " (toJsonFields fields) ++ "\x7d"

/-- Writes the items of a list. -/
def toJsons : List Value → List String
  | [] => []
  | v :: rest => v.toJson :: toJsons rest

/-- Writes the entries of a mapping. -/
def toJsonFields : List (String × Value) → List String
  | [] => []
  | (k, v) :: rest => (Json.writeText k ++ ": " ++ v.toJson) :: toJsonFields rest

end

end Value

end CatalogReplication
