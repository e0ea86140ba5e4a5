import CatalogReplication.Value.Basic

/-!
# Expanding references to the environment

A reference is a variable's name between `{$` and `}`. Expansion replaces every reference in a
text by the variable's value, in one pass from the left: what was put in is not looked at again.
In a value every text is expanded except the keys of mappings; the first reference to a variable
that isn't set ends the expansion.
-/

namespace CatalogReplication

/-- The variables that are set, with their values. -/
abbrev Environment := Assoc String String

namespace Text

/-- The characters that variable names are made of. -/
def isNameChar (c : Char) : Bool := c.isAlphanum || c == '_'

/-- Whether a text is a name: it is not empty and begins with no digit. -/
def isName : List Char → Bool
  | [] => false
  | c :: _ => !c.isDigit

/-- The name of the reference with which a text begins, and the text behind it. -/
def reference? : List Char → Option (List Char × List Char)
  | '\x7b' :: '$' :: rest =>
    let name := rest.takeWhile isNameChar
    match rest.dropWhile isNameChar with
    | '\x7d' :: after => if isName name then some (name, after) else none
    | _ => none
  | _ => none

theorem length_of_reference? {s name after : List Char} (h : reference? s = some (name, after)) :
    after.length < s.length := by
  unfold reference? at h
  split at h
  next rest =>
    have hle : (rest.dropWhile isNameChar).length ≤ rest.length :=
      (List.dropWhile_sublist _).length_le
    dsimp only at h
    split at h
    next after' heq =>
      split at h
      · simp only [Option.some.injEq, Prod.mk.injEq] at h
        rw [heq, h.2] at hle
        simp only [List.length_cons] at hle ⊢
        omega
      · simp at h
    · simp at h
  · simp at h

/-- A text with its references replaced; the name of the first unset variable otherwise. -/
def expand (env : Environment) (s : List Char) : Except String (List Char) :=
  match _h : reference? s with
  | some (name, after) =>
    match env.lookup (String.ofList name) with
    | none => .error (String.ofList name)
    | some value =>
      match expand env after with
      | .ok t => .ok (value.toList ++ t)
      | .error e => .error e
  | none =>
    match s with
    | [] => .ok []
    | c :: rest =>
      match expand env rest with
      | .ok t => .ok (c :: t)
      | .error e => .error e
termination_by s.length
decreasing_by
  · exact length_of_reference? ‹_›
  · simp

end Text

namespace Value

/-- A reference to a variable that isn't set, and the text that holds it. -/
structure UnsetVariable where
  name : String
  text : String

mutual

/-- A value with the references in its texts replaced. -/
def expand (env : Environment) : Value → Except UnsetVariable Value
  | .text s =>
    match Text.expand env s.toList with
    | .ok t => .ok (.text (String.ofList t))
    | .error name => .error ⟨name, s⟩
  | .list items =>
    match expandItems env items with
    | .ok items => .ok (.list items)
    | .error e => .error e
  | .map fields =>
    match expandFields env fields with
    | .ok fields => .ok (.map fields)
    | .error e => .error e
  | v => .ok v

/-- The items of a list, expanded in order. -/
def expandItems (env : Environment) : List Value → Except UnsetVariable (List Value)
  | [] => .ok []
  | v :: rest =>
    match expand env v with
    | .error e => .error e
    | .ok v =>
      match expandItems env rest with
      | .ok rest => .ok (v :: rest)
      | .error e => .error e

/-- The entries of a mapping, expanded in order. -/
def expandFields (env : Environment) :
    List (String × Value) → Except UnsetVariable (List (String × Value))
  | [] => .ok []
  | (k, v) :: rest =>
    match expand env v with
    | .error e => .error e
    | .ok v =>
      match expandFields env rest with
      | .ok rest => .ok ((k, v) :: rest)
      | .error e => .error e

end

end Value

end CatalogReplication
