import CatalogReplication.Proofs.Text.Reference
import CatalogReplication.Proofs.Value.Path

/-!
# Expanding keeps the shape of a value

`Value.Expanded` says what a value becomes when it is expanded: mappings keep their keys, lists their
lengths, and each text is replaced as `Text.Reads` reads it. `Value.textsIn` are the texts that are
expanded, in the order in which that happens. Expanding ends well just if all their references are to
variables that are set, and otherwise at the first one that is not (`Value.ends_expand`).
-/

namespace CatalogReplication.Value

open Text (Reads Passage AllSet fill Refers FirstUnset)

/-! ### What is expanded, and into what -/

/-- What a value becomes with the values of an environment put in. -/
inductive Expanded (env : Environment) : Value → Value → Prop where
  | null : Expanded env .null .null
  | bool (b : Bool) : Expanded env (.bool b) (.bool b)
  | int (n : Int) : Expanded env (.int n) (.int n)
  | real (x : Number.Decimal) : Expanded env (.real x) (.real x)
  | text {s t : String} {ps : List Passage} {rest : List Char} (h : Reads s.toList ps rest)
      (hset : AllSet env ps) (ht : t.toList = fill env ps rest) : Expanded env (.text s) (.text t)
  | list {items items' : List Value} (h : List.Forall₂ (Expanded env) items items') :
      Expanded env (.list items) (.list items')
  | map {fields fields' : List (String × Value)} (hkeys : Assoc.keys fields = Assoc.keys fields')
      (h : List.Forall₂ (Expanded env) (fields.map Prod.snd) (fields'.map Prod.snd)) :
      Expanded env (.map fields) (.map fields')

mutual

/-- The texts in a value, in order; keys are none of them. -/
def textsIn : Value → List String
  | .text s => [s]
  | .list items => textsInItems items
  | .map fields => textsInFields fields
  | _ => []

/-- The texts in the items of a list. -/
def textsInItems : List Value → List String
  | [] => []
  | v :: rest => textsIn v ++ textsInItems rest

/-- The texts in the entries of a mapping. -/
def textsInFields : List (String × Value) → List String
  | [] => []
  | (_, v) :: rest => textsIn v ++ textsInFields rest

end

/-- Every variable that a text refers to is set. -/
def Settled (env : Environment) (s : String) : Prop :=
  ∀ before name after, Refers s.toList before name after → (env.lookup name).isSome = true

theorem settled_of_reads {env : Environment} {s : String} {ps : List Passage} {rest : List Char}
    (h : Reads s.toList ps rest) (hset : AllSet env ps) : Settled env s := by
  intro before name after hrefers
  obtain ⟨p, hp, rfl⟩ := h.exists_mem hrefers
  exact hset p hp

/-! ### How expanding ends -/

/-- How the expansion of some texts ends: all of them are settled, or it stops in the first one that
isn't, at the first variable there that isn't set. -/
inductive Ends {α : Type} (env : Environment) (texts : List String) (good : α → Prop) :
    Except UnsetVariable α → Prop where
  | all {a : α} (h : good a) (hset : ∀ s ∈ texts, Settled env s) : Ends env texts good (.ok a)
  | stopped {e : UnsetVariable} {earlier later : List String}
      (htexts : texts = earlier ++ e.text :: later) (hearlier : ∀ s ∈ earlier, Settled env s)
      (hfirst : FirstUnset env e.text.toList e.name) : Ends env texts good (.error e)

section

variable {α β γ : Type} {env : Environment} {ss ts : List String} {P : α → Prop} {Q : β → Prop}
  {R : γ → Prop} {r : Except UnsetVariable α} {r' : Except UnsetVariable β}

theorem Ends.map (h : Ends env ss P r) {f : α → γ} (hf : ∀ a, P a → R (f a)) :
    Ends env ss R (r.map f) := by
  cases h with
  | all h hset => exact .all (hf _ h) hset
  | stopped htexts hearlier hfirst => exact .stopped htexts hearlier hfirst

/-- One thing after another. -/
theorem Ends.append (h : Ends env ss P r) (h' : Ends env ts Q r') {f : α → β → γ}
    (hf : ∀ a b, P a → Q b → R (f a b)) :
    Ends env (ss ++ ts) R (r.bind fun a => r'.map (f a)) := by
  cases h with
  | stopped htexts hearlier hfirst =>
    exact .stopped (by rw [htexts, List.append_assoc]; rfl) hearlier hfirst
  | @all a h hset =>
    cases h' with
    | @all b h' hset' =>
      exact .all (hf a b h h') fun s hs => (List.mem_append.1 hs).elim (hset s) (hset' s)
    | @stopped e earlier later htexts hearlier hfirst =>
      have happend : ss ++ ts = (ss ++ earlier) ++ e.text :: later := by
        rw [htexts, List.append_assoc]
      exact .stopped happend (fun s hs => (List.mem_append.1 hs).elim (hset s) (hearlier s)) hfirst

end

theorem ends_expandText (env : Environment) (s : String) :
    Ends env [s] (Expanded env (.text s)) (expand env (.text s)) := by
  rw [expand]
  cases h : Text.expand env s.toList with
  | ok t =>
    obtain ⟨ps, rest, hreads⟩ := Text.exists_reads s.toList
    obtain ⟨hset, rfl⟩ := (Text.expand_eq_ok_iff hreads).1 h
    refine .all (.text hreads hset String.toList_ofList) fun s' hs => ?_
    obtain rfl := List.mem_singleton.1 hs
    exact settled_of_reads hreads hset
  | error name =>
    exact .stopped (List.nil_append [s]).symm nofun (Text.firstUnset_of_expand h)

theorem ends_expandItems {env : Environment} {items : List Value}
    (h : ∀ v ∈ items, Ends env (textsIn v) (Expanded env v) (expand env v)) :
    Ends env (textsInItems items) (List.Forall₂ (Expanded env) items) (expandItems env items) := by
  induction items with
  | nil =>
    rw [textsInItems, expandItems]
    exact .all .nil nofun
  | cons v rest ih =>
    obtain ⟨hv, hrest⟩ := List.forall_mem_cons.1 h
    have happend := hv.append (ih hrest) (f := List.cons) fun _ _ hv hrest => List.Forall₂.cons hv hrest
    rw [textsInItems, expandItems]
    convert happend using 1
    cases expand env v with
    | error e => rfl
    | ok w => cases expandItems env rest <;> rfl

/-- What a mapping becomes. -/
def ExpandedFields (env : Environment) (fields fields' : List (String × Value)) : Prop :=
  Assoc.keys fields = Assoc.keys fields' ∧
    List.Forall₂ (Expanded env) (fields.map Prod.snd) (fields'.map Prod.snd)

theorem ends_expandFields {env : Environment} {fields : List (String × Value)}
    (h : ∀ e ∈ fields, Ends env (textsIn e.2) (Expanded env e.2) (expand env e.2)) :
    Ends env (textsInFields fields) (ExpandedFields env fields) (expandFields env fields) := by
  induction fields with
  | nil =>
    rw [textsInFields, expandFields]
    exact .all ⟨rfl, .nil⟩ nofun
  | cons e rest ih =>
    obtain ⟨k, v⟩ := e
    obtain ⟨hv, hrest⟩ := List.forall_mem_cons.1 h
    have happend := hv.append (ih hrest) (f := fun w rest' => (k, w) :: rest')
      (R := ExpandedFields env ((k, v) :: rest)) fun _ _ hw hrest =>
        ⟨congrArg (k :: ·) hrest.1, List.Forall₂.cons hw hrest.2⟩
    rw [textsInFields, expandFields]
    convert happend using 1
    cases expand env v with
    | error e => rfl
    | ok w => cases expandFields env rest <;> rfl

/-- **How the expansion of a value ends.** -/
theorem ends_expand (env : Environment) (v : Value) :
    Ends env (textsIn v) (Expanded env v) (expand env v) := by
  induction v using inductionOn with
  | null => exact .all .null nofun
  | bool b => exact .all (.bool b) nofun
  | int n => exact .all (.int n) nofun
  | real x => exact .all (.real x) nofun
  | text s => exact ends_expandText env s
  | list items ih =>
    have hitems := (ends_expandItems ih).map (f := list) fun _ h => Expanded.list h
    rw [textsIn, expand]
    convert hitems using 1
    cases expandItems env items <;> rfl
  | map fields ih =>
    have hfields := (ends_expandFields ih).map (f := map) fun _ h => Expanded.map h.1 h.2
    rw [textsIn, expand]
    convert hfields using 1
    cases expandFields env fields <;> rfl

end CatalogReplication.Value
