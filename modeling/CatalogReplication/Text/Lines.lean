import CatalogReplication.Text.Blank

/-!
# Lines

`lines s` cuts a text behind every line end, so that its parts put together give the text again. A
carriage return and the line feed behind it are one line end.
-/

namespace CatalogReplication.Text

/-- Whether a character ends a line. -/
def endsLine (c : Char) : Bool :=
  let n := c.toNat
  (0x0a ≤ n && n ≤ 0x0d) || (0x1c ≤ n && n ≤ 0x1e) || n == 0x85 || n == 0x2028 || n == 0x2029

/-- Puts a character at the beginning of the first line. -/
def consLine (c : Char) : List (List Char) → List (List Char)
  | [] => [[c]]
  | l :: ls => (c :: l) :: ls

/-- The lines of a text, each with its end. -/
def lines : List Char → List (List Char)
  | [] => []
  | '\r' :: '\n' :: rest => ['\r', '\n'] :: lines rest
  | c :: rest => if endsLine c then [c] :: lines rest else consLine c (lines rest)

/-- A text with `margin` before each of its lines that isn't blank. -/
def indent (margin s : List Char) : List Char :=
  (lines s).flatMap fun l => if l.all isBlank then l else margin ++ l

/-- The words of a text: what stands between its blanks. -/
def words : List Char → List (List Char)
  | [] => []
  | c :: rest =>
    if isBlank c then words rest
    else
      match rest with
      | [] => [[c]]
      | d :: _ => if isBlank d then [c] :: words rest else consLine c (words rest)

/-- Whether `part` stands somewhere in a text. -/
def contains (part : List Char) : List Char → Bool
  | [] => part.isEmpty
  | c :: rest => part.isPrefixOf (c :: rest) || contains part rest

/-! ### Nothing is lost -/

theorem flatten_consLine (c : Char) (ls : List (List Char)) :
    (consLine c ls).flatten = c :: ls.flatten := by
  cases ls <;> rfl

theorem flatten_lines (s : List Char) : (lines s).flatten = s := by
  fun_induction lines s with
  | case1 => rfl
  | case2 rest ih => simp [ih]
  | case3 c rest _ _ ih => simp [ih]
  | case4 c rest _ _ ih => rw [flatten_consLine, ih]

theorem indent_nil (s : List Char) : indent [] s = s := by
  have h : (lines s).flatMap (fun l => if l.all isBlank then l else [] ++ l)
      = (lines s).flatten := by
    simp [List.flatMap]
  exact h.trans (flatten_lines s)

end CatalogReplication.Text
