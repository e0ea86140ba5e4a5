import CatalogReplication.Text.Cut

/-!
# Bracketed host addresses

What may stand between the brackets of an authority: an address of version six, written as eight
groups of up to four hexadecimal digits, of which one run may be left out and the last two may be
an address of version four; or an address of a future version.
-/

namespace CatalogReplication.HostAddress

/-- Whether a character is a hexadecimal digit. -/
def isHexDigit (c : Char) : Bool :=
  c.isDigit || ('a' ≤ c && c ≤ 'f') || ('A' ≤ c && c ≤ 'F')

/-- One of the four numbers of an address of version four. -/
def isOctet (s : List Char) : Bool :=
  !s.isEmpty && s.all Char.isDigit && s.length ≤ 3 && !(1 < s.length && s.head? == some '0')
    && s.foldl (fun n c => n * 10 + (c.toNat - 0x30)) 0 ≤ 255

/-- An address of version four. -/
def isV4 (s : List Char) : Bool :=
  let parts := Text.segments '.' s
  parts.length == 4 && parts.all isOctet

/-- One group of an address of version six. -/
def isGroup (s : List Char) : Bool := !s.isEmpty && s.length ≤ 4 && s.all isHexDigit

/-- The groups of an address, with an address of version four at the end counted as two. -/
def groups? (s : List Char) : Option (List (List Char)) :=
  let parts := Text.segments ':' s
  if parts.length < 3 then none
  else
    match parts.getLast? with
    | none => none
    | some last =>
      if last.contains '.' then
        if isV4 last then some (parts.dropLast ++ [['0'], ['0']]) else none
      else some parts

/-- The positions of the empty groups that are neither first nor last. -/
def gaps (parts : List (List Char)) : List Nat :=
  (List.range parts.length).filter fun i =>
    0 < i && i + 1 < parts.length && (parts.getD i ['0']).isEmpty

/-- Whether groups make an address of version six. -/
def areGroups (parts : List (List Char)) : Bool :=
  if 9 < parts.length then false
  else
    let first := parts.headD []
    let last := parts.getLastD []
    match gaps parts with
    | [] => parts.length == 8 && parts.all isGroup
    | [i] =>
      let high := if first.isEmpty then i - 1 else i
      let rest := parts.length - i - 1
      let low := if last.isEmpty then rest - 1 else rest
      !(first.isEmpty && high != 0) && !(last.isEmpty && low != 0) && high + low < 8
        && (parts.take high).all isGroup && (parts.drop (parts.length - low)).all isGroup
    | _ => false

/-- An address of version six, with an optional zone behind `%`. -/
def isV6 (s : List Char) : Bool :=
  match Text.cut '%' s with
  | (address, zone) =>
    (match zone with
      | none => true
      | some z => !z.isEmpty && !z.contains '%')
    && match groups? address with
      | some parts => areGroups parts
      | none => false

/-- An address of a future version: `v`, hexadecimal digits, a point, and anything. -/
def isFuture : List Char → Bool
  | 'v' :: rest =>
    let version := rest.takeWhile isHexDigit
    match rest.dropWhile isHexDigit with
    | '.' :: _ :: _ => !version.isEmpty
    | _ => false
  | _ => false

/-- Whether a text may stand between the brackets of an authority. -/
def isBracketed (s : List Char) : Bool :=
  if s.head? == some 'v' then isFuture s else isV6 s

end CatalogReplication.HostAddress
