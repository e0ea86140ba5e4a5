import CatalogReplication.Number.Format
import CatalogReplication.Value.Display

/-!
# Message templates

A template is a text with directives. A directive is a `%`, optionally a key in parentheses, flags,
a width, a point and a precision, and a letter that says how an argument is written:

* `s` as it reads, `r` as a literal, `a` as a literal without characters beyond one byte of ASCII;
* `d`, `i` and `u` as a whole number, `x`, `X` and `o` as one in another base;
* `e`, `f` and `g` and their capitals as a number with a fraction;
* `c` as a character.

A width or precision `*` is itself an argument. `%%` is a percent sign. The arguments are used in
their order and up; where they are a mapping, directives take them by their keys.
-/

namespace CatalogReplication.Console

open CatalogReplication.Number

/-- Why a template can't be filled. -/
inductive TemplateError where
  /-- The arguments don't fit the directives. -/
  | arguments
  /-- A directive is incomplete or unknown. -/
  | directive
  /-- The arguments don't have a key. -/
  | keyMissing
  /-- A number is beyond the range of what it is used for. -/
  | range
  /-- The text would be too long. -/
  | space
deriving DecidableEq, Repr

/-- The arguments of a template: values for its directives in turn, or a mapping. -/
inductive Arguments where
  | each (values : List Value)
  | keyed (fields : Assoc String Value)

/-- A width or a precision. -/
inductive Size where
  | absent
  | fixed (n : Nat)
  /-- The next argument. -/
  | given
deriving DecidableEq, Repr

/-- The key of a directive. -/
inductive Key where
  | absent
  | whole (name : String)
  /-- The closing parenthesis is missing. -/
  | cut
deriving DecidableEq, Repr

/-- What stands behind a `%`. -/
structure Directive where
  key : Key := .absent
  flags : List Char := []
  width : Size := .absent
  precision : Size := .absent
  /-- The letter, unless the template ends before it. -/
  letter : Option Char := none
deriving DecidableEq, Repr

/-- How an argument is written. -/
structure Layout where
  isLeft : Bool := false
  isZeroFilled : Bool := false
  /-- What a number that isn't negative begins with. -/
  plus : List Char := []
  /-- Whether bases are told and points kept. -/
  isAlternate : Bool := false
  width : Nat := 0
  precision : Option Nat := none
deriving DecidableEq, Repr

/-! ### Reading a directive -/

namespace Directive

/-- The key up to the parenthesis that closes it, with `depth` more open inside. -/
def keyText? : Nat → List Char → Option (List Char)
  | _, [] => none
  | 0, ')' :: _ => some []
  | depth + 1, ')' :: rest => (keyText? depth rest).map (')' :: ·)
  | depth, '(' :: rest => (keyText? (depth + 1) rest).map ('(' :: ·)
  | depth, c :: rest => (keyText? depth rest).map (c :: ·)

/-- The number that digits write. -/
def number (digits : List Char) : Nat := (String.ofList digits).toNat?.getD 0

/-- Reads a key, if there is one. -/
def readKey : List Char → Key × List Char
  | '(' :: rest =>
    match keyText? 0 rest with
    | some name => (.whole (String.ofList name), rest.drop (name.length + 1))
    | none => (.cut, [])
  | s => (.absent, s)

/-- Reads a width, or a precision behind its point. -/
def readSize : List Char → Size × List Char
  | '*' :: rest => (.given, rest)
  | s =>
    let digits := s.takeWhile Char.isDigit
    (if digits.isEmpty then .absent else .fixed (number digits), s.dropWhile Char.isDigit)

/-- Reads a precision, if there is one. -/
def readPrecision : List Char → Size × List Char
  | '.' :: rest =>
    match readSize rest with
    | (.absent, rest) => (.fixed 0, rest)
    | r => r
  | s => (.absent, s)

/-- Drops a letter that tells the size of an argument, which doesn't matter. -/
def dropModifier : List Char → List Char
  | c :: rest => if c == 'h' || c == 'l' || c == 'L' then rest else c :: rest
  | [] => []

/-- Whether a character is a flag. -/
def isFlag (c : Char) : Bool := c == '-' || c == '+' || c == ' ' || c == '#' || c == '0'

/-- Reads the directive at the beginning of a text; answers also how many characters it takes. -/
def read (s : List Char) : Directive × Nat :=
  let (key, rest) := readKey s
  let flags := rest.takeWhile isFlag
  let (width, rest) := readSize (rest.dropWhile isFlag)
  let (precision, rest) := readPrecision rest
  let rest := dropModifier rest
  ({ key, flags, width, precision, letter := rest.head? }, s.length - (rest.drop 1).length)

end Directive

/-! ### Writing an argument -/

namespace Layout

/-- A text with blanks up to the width. -/
def pad (l : Layout) (s : List Char) : List Char :=
  let fill := List.replicate (l.width - s.length) ' '
  if l.isLeft then s ++ fill else fill ++ s

/-- A text, cut to the precision. -/
def writeText (l : Layout) (s : List Char) : List Char :=
  l.pad (match l.precision with
    | some n => s.take n
    | none => s)

/-- A number from what begins it and its digits. -/
def writeNumber (l : Layout) (isNegative : Bool) (base digits : List Char) : List Char :=
  let head := (if isNegative then ['-'] else l.plus) ++ base
  if l.isZeroFilled && !l.isLeft then
    head ++ List.replicate (l.width - head.length - digits.length) '0' ++ digits
  else l.pad (head ++ digits)

/-- A whole number in a base, with at least as many digits as the precision says. -/
def writeWhole (l : Layout) (radix : Nat) (base : List Char) (isCapital : Bool) (n : Int) :
    List Char :=
  let ds := Nat.toDigits radix n.natAbs
  let ds := if isCapital then ds.map Char.toUpper else ds
  l.writeNumber (n < 0) (if l.isAlternate then base else [])
    (List.replicate (l.precision.getD 0 - ds.length) '0' ++ ds)

/-- A number with a fraction; one beyond the binary format is infinite. -/
def writeReal (l : Layout) (letter : Char) (isNegative : Bool) (b : Option Binary64) :
    List Char :=
  let places := l.precision.getD 6
  let digits :=
    match b, letter.toLower with
    | none, _ => "inf".toList
    | some b, 'e' => b.scientific l.isAlternate places
    | some b, 'f' => b.fixed l.isAlternate places
    | some b, _ => b.general l.isAlternate places
  l.writeNumber isNegative [] (if letter.isUpper then digits.map Char.toUpper else digits)

end Layout

/-- A value as a whole number, if it is one. -/
def integer? : Value → Option Int
  | .int n => some n
  | .bool b => some (if b then 1 else 0)
  | _ => none

/-- A value as a whole number, without its fraction. -/
def whole : Value → Except TemplateError Int
  | .real x => if x.binary?.isSome then .ok x.whole else .error .range
  | v =>
    match integer? v with
    | some n => .ok n
    | none => .error .arguments

/-- A value as a number of the binary format, with its sign. -/
def real : Value → Except TemplateError (Bool × Option Binary64)
  | .real x => .ok (x.negative, x.binary?)
  | v =>
    match integer? v with
    | none => .error .arguments
    | some n =>
      match Binary64.ofRatio n.natAbs 1 with
      | some b => .ok (decide (n < 0), some b)
      | none => .error .range

/-- A value as a character: a text of one, or the number of one. -/
def character : Value → Except TemplateError Char
  | .text s =>
    match s.toList with
    | [c] => .ok c
    | _ => .error .arguments
  | v =>
    match integer? v with
    | none => .error .arguments
    | some n => if 0 ≤ n ∧ n < 0x110000 then .ok (Char.ofNat n.toNat) else .error .range

/-- A literal in which all characters beyond ASCII are escaped. -/
def plainLiteral (v : Value) : List Char :=
  v.literal.toList.flatMap fun c => if c.toNat < 0x80 then [c] else Text.escape c

namespace Layout

/-- An argument as a letter says. -/
def write (l : Layout) (letter : Char) (v : Value) : Except TemplateError (List Char) :=
  match letter with
  | 's' => .ok (l.writeText v.display.toList)
  | 'r' => .ok (l.writeText v.literal.toList)
  | 'a' => .ok (l.writeText (plainLiteral v))
  | 'c' => (character v).map fun c => l.pad [c]
  | 'd' | 'i' | 'u' => (whole v).map fun n => l.writeWhole 10 [] false n
  | 'x' | 'X' | 'o' =>
    match integer? v with
    | none => .error .arguments
    | some n => .ok (l.writeWhole (if letter = 'o' then 8 else 16) ['0', letter] letter.isUpper n)
  | 'e' | 'E' | 'f' | 'F' | 'g' | 'G' => (real v).map fun r => l.writeReal letter r.1 r.2
  | _ => .error .directive

end Layout

/-! ### Filling a template -/

/-- The next of some values, and those behind it. -/
def next : List Value → Except TemplateError (Value × List Value)
  | [] => .error .arguments
  | v :: rest => .ok (v, rest)

/-- The largest number that a width can have. -/
def maxWidth : Nat := Nat.pow 2 63 - 1

/-- The largest number that a precision can have. -/
def maxPrecision : Nat := Nat.pow 2 31 - 1

/-- The longest that a text may become. -/
def maxLength : Nat := Nat.pow 2 30

/-- The number that a width or precision stands for, with the values that are left then. -/
def Size.resolve (limit : Nat) : Size → List Value → Except TemplateError (Option Int × List Value)
  | .absent, values => .ok (none, values)
  | .fixed n, values => if n ≤ limit then .ok (some n, values) else .error .directive
  | .given, values => do
    let (v, values) ← next values
    match integer? v with
    | none => .error .arguments
    | some n =>
      if n.natAbs ≤ limit ∨ n = -(limit + 1 : Int) then .ok (some n, values) else .error .range

namespace Directive

/-- The values that a directive takes from: with a key, the one of the mapping. -/
def select (key : Key) (args : Arguments) (values : List Value) :
    Except TemplateError (List Value) :=
  match key, args with
  | .absent, _ => .ok values
  | _, .each _ => .error .arguments
  | .cut, .keyed _ => .error .directive
  | .whole name, .keyed fields =>
    match fields.lookup name with
    | some v => .ok [v]
    | none => .error .keyMissing

/-- The text of a directive, and the values that are left then. -/
def write (d : Directive) (args : Arguments) (values : List Value) :
    Except TemplateError (List Char × List Value) := do
  let values ← select d.key args values
  let (width, values) ← d.width.resolve maxWidth values
  let (precision, values) ← d.precision.resolve maxPrecision values
  match d.letter with
  | none => .error .directive
  | some letter =>
    let (v, values) ← next values
    let width := width.getD 0
    let layout : Layout := {
      isLeft := d.flags.contains '-' || decide (width < 0)
      isZeroFilled := d.flags.contains '0'
      plus := if d.flags.contains '+' then ['+'] else if d.flags.contains ' ' then [' '] else []
      isAlternate := d.flags.contains '#'
      width := width.natAbs
      precision := precision.map Int.toNat }
    if maxLength < layout.width ∨ maxLength < layout.precision.getD 0 then
      let _ ← Layout.write { layout with width := 0, precision := none } letter v
      .error .space
    else
      let s ← layout.write letter v
      return (s, values)

end Directive

/-- Fills a template of which `n` characters are to be skipped, from the values that are left. -/
def fillFrom (args : Arguments) : List Char → Nat → List Value →
    Except TemplateError (List Char)
  | [], _, values =>
    match args with
    | .each _ => if values.isEmpty then .ok [] else .error .arguments
    | .keyed _ => .ok []
  | _ :: rest, n + 1, values => fillFrom args rest n values
  | '%' :: '%' :: rest, 0, values => do
    let s ← fillFrom args ('%' :: rest) 1 values
    return '%' :: s
  | '%' :: rest, 0, values => do
    let (d, used) := Directive.read rest
    let (s, values) ← d.write args values
    let t ← fillFrom args rest used values
    return s ++ t
  | c :: rest, 0, values => do
    let s ← fillFrom args rest 0 values
    return c :: s

namespace Arguments

/-- Whether there are any. -/
def isEmpty : Arguments → Bool
  | each values => values.isEmpty
  | keyed fields => fields.isEmpty

/-- Arguments from a list of them: a mapping alone, unless it is empty, has them by their keys. -/
def ofList : List Value → Arguments
  | [.map (e :: fields)] => keyed (e :: fields)
  | values => each values

/-- What directives without a key take in turn: of a mapping, only itself. -/
def values : Arguments → List Value
  | each values => values
  | keyed fields => [.map fields]

end Arguments

/-- Fills a template with arguments; without any, the template is the text. -/
def fill (template : String) (args : Arguments) : Except TemplateError String :=
  if args.isEmpty then .ok template
  else (fillFrom args template.toList 0 args.values).map String.ofList

end CatalogReplication.Console
