import CatalogReplication.Text.CaseFold.Table

/-!
# Case folding

`foldCase` maps every character to its full case folding, so that two texts that differ only in
case become the same text. Folding works character by character: it respects concatenation.
-/

namespace CatalogReplication.Text

/-- The folding of one character. -/
def foldChar (c : Char) : List Char :=
  match CaseFold.expansions.lookup c.toNat with
  | some cs => cs.map Char.ofNat
  | none =>
    match CaseFold.runs.find? fun r =>
        r.first ≤ c.toNat && c.toNat ≤ r.last && (c.toNat - r.first) % r.step == 0 with
    | some r => [Char.ofNat (c.toNat + r.shift).toNat]
    | none => [c]

/-- The full case folding of a text. -/
def foldCase (s : List Char) : List Char := s.flatMap foldChar

theorem foldCase_append (s t : List Char) : foldCase (s ++ t) = foldCase s ++ foldCase t := by
  simp [foldCase]

end CatalogReplication.Text
