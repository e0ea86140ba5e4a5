import CatalogReplication.Failure
import CatalogReplication.Value.Json

/-!
# Documents of configurations

A configuration lies in a file as a text in flow style. It is JSON with two differences: a number
needs a point and, if it has an exponent, the sign of that, to be one with a fraction; otherwise it
is a text. And only blanks and line ends may stand between the parts.
-/

namespace CatalogReplication.Config

/-- Whether a numeral is one of a number with a fraction. -/
def isReal (cs : List Char) : Bool :=
  let isMark (c : Char) : Bool := c == 'e' || c == 'E'
  let exponent := (cs.dropWhile fun c => !isMark c).drop 1
  (cs.takeWhile fun c => !isMark c).contains '.'
    && (exponent.isEmpty || exponent.head? == some '+' || exponent.head? == some '-')

/-- The value of a numeral. -/
def numeral? (cs : List Char) : Option Value :=
  match Json.number? cs with
  | some (.real x) => some (if isReal cs then .real x else .text (String.ofList cs))
  | v => v

/-- Whether a character may stand in a document. -/
def isAllowed (c : Char) : Bool :=
  let n := c.toNat
  n == 0x09 || n == 0x0a || n == 0x0d || (0x20 ≤ n && n ≤ 0x7e) || n == 0x85
    || (0xa0 ≤ n && n ≤ 0xfffd) || 0x10000 ≤ n

/-- Whether a tab stands outside of the texts of a document; `isInside` says whether a text has
begun. -/
def hasTabOutside (isInside : Bool) : List Char → Bool
  | [] => false
  | '\\' :: _ :: rest => hasTabOutside isInside rest
  | c :: rest =>
    if c == '"' then hasTabOutside (!isInside) rest
    else (c == '\t' && !isInside) || hasTabOutside isInside rest

/-- Reads a document. An empty one holds nothing; what isn't in flow style is a text. -/
def readDocument (content : String) : Except Failure Value :=
  if !content.toList.all isAllowed then .error (.other "ReaderError")
  else if hasTabOutside false content.toList then .error (.other "ScannerError")
  else if content.toList.all Json.isSpace then .ok .null
  else .ok ((Value.ofDocument? numeral? content).getD (.text content))

end CatalogReplication.Config
