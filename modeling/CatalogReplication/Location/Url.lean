import CatalogReplication.Location.HostAddress

/-!
# The path of a URL

A location may be a plain path or a URL. `Url.path` is what is left of it without scheme,
authority, query and fragment. Leading controls and spaces and all tabs and line ends are dropped
first. An authority with brackets that enclose no host address, or with a character that stands
for a delimiter, makes the location unusable.
-/

namespace CatalogReplication.Url

/-- Why a location has no path. -/
inductive Error where
  | authority
deriving DecidableEq, Repr

/-- Characters that may stand in a scheme. -/
def isSchemeChar (c : Char) : Bool := c.isAlphanum || c == '+' || c == '-' || c == '.'

/-- Characters that end an authority. -/
def endsAuthority (c : Char) : Bool := c == '/' || c == '?' || c == '#'

/-- A location without leading controls and spaces, and without tabs and line ends. -/
def clean (s : List Char) : List Char :=
  (s.dropWhile fun c => c.toNat ≤ 0x20).filter fun c => !(c == '\t' || c == '\r' || c == '\n')

/-- What follows the scheme; the whole text if it begins with none. -/
def dropScheme (s : List Char) : List Char :=
  match Text.cut ':' s with
  | (c :: scheme, some rest) => if c.isAlpha && scheme.all isSchemeChar then rest else s
  | _ => s

/-- What follows the last `c`; the whole text if there is none. -/
def afterLast (c : Char) (s : List Char) : List Char :=
  (s.reverse.takeWhile (· != c)).reverse

/-- Whether the brackets in an authority are in order. -/
def bracketsFit (authority : List Char) : Bool :=
  match authority.contains '[', authority.contains ']' with
  | false, false => true
  | true, true =>
    match Text.cut '[' (afterLast '@' authority) with
    | (before, some bracketed) =>
      match Text.cut ']' bracketed with
      | (host, after) =>
        before.isEmpty && HostAddress.isBracketed host
          && (match after with
            | some (c :: _) => c == ':'
            | _ => true)
    | (host, none) => HostAddress.isBracketed (Text.cut ':' host).1
  | _, _ => false

/-- Characters whose compatibility form contains a delimiter of URLs. -/
def hidesDelimiter (c : Char) : Bool :=
  let n := c.toNat
  n == 0x2047 || n == 0x2048 || n == 0x2049 || n == 0x2100 || n == 0x2101 || n == 0x2105
    || n == 0x2106 || n == 0x2a74 || n == 0xfe13 || n == 0xfe16 || n == 0xfe55 || n == 0xfe56
    || n == 0xfe5f || n == 0xfe6b || n == 0xff03 || n == 0xff0f || n == 0xff1a || n == 0xff1f
    || n == 0xff20

/-- The authority with which the text behind a scheme begins, if any, and the rest. -/
def splitAuthority : List Char → List Char × List Char
  | '/' :: '/' :: rest => (rest.takeWhile (!endsAuthority ·), rest.dropWhile (!endsAuthority ·))
  | s => ([], s)

/-- The path of a location. -/
def path (s : List Char) : Except Error (List Char) :=
  let (authority, rest) := splitAuthority (dropScheme (clean s))
  if bracketsFit authority && !authority.any hidesDelimiter then
    .ok (Text.cut '?' (Text.cut '#' rest).1).1
  else .error .authority

end CatalogReplication.Url
