import CatalogReplication.Config.Configuration
import CatalogReplication.Proofs.Value.Exchange

/-!
# The layers of a configuration

What a configuration says about an instance is laid over what it says about any, and that over the
defaults; then references to the environment are replaced.

* `Configuration.layering_laws`: the layers can be grouped in any way.
* `Configuration.expandIn_replaces`: references are replaced once, and an error names the first one
  to a variable that isn't set.
* `Configuration.layering_expands`: layers may as well be expanded before they are merged. What
  is overridden need not be set if they are merged first.
-/

namespace CatalogReplication.Config.Configuration

open Value (merge WellFormed Layered Clashes Settled)
open Text (Reads Refers FirstUnset)

/-! ### Layers on each other -/

theorem wellFormed_defaults : WellFormed defaults := by
  simp [defaults, sectionFor, Assoc.keys]

theorem layOver_cons_eq_ok_iff {v layer w : Value} {rest : List Value} :
    layOver v (layer :: rest) = .ok w ↔ ∃ m, merge v layer = .ok m ∧ layOver m rest = .ok w := by
  rw [layOver]
  cases merge v layer <;> simp

theorem wellFormed_of_layOver {v w : Value} {layers : List Value} (hv : v.WellFormed)
    (hlayers : ∀ layer ∈ layers, layer.WellFormed) (h : layOver v layers = .ok w) :
    w.WellFormed := by
  induction layers generalizing v with
  | nil =>
    cases h
    exact hv
  | cons layer rest ih =>
    obtain ⟨hlayer, hrest⟩ := List.forall_mem_cons.1 hlayers
    obtain ⟨m, hm, hw⟩ := layOver_cons_eq_ok_iff.1 h
    exact ih (Value.wellFormed_of_merge hv hlayer hm) hrest hw

/-- Layers may be laid on each other before they are laid over a value. -/
theorem layOver_eq_ok_iff {v lower w : Value} {upper : List Value} (hv : v.WellFormed)
    (hlower : lower.WellFormed) (hupper : ∀ layer ∈ upper, layer.WellFormed) :
    layOver v (lower :: upper) = .ok w ↔
      ∃ above, layOver lower upper = .ok above ∧ merge v above = .ok w := by
  induction upper generalizing v lower w with
  | nil =>
    rw [layOver_cons_eq_ok_iff]
    simp [layOver]
  | cons next upper ih =>
    obtain ⟨hnext, hrest⟩ := List.forall_mem_cons.1 hupper
    constructor
    · intro h
      obtain ⟨m, hm, hw⟩ := layOver_cons_eq_ok_iff.1 h
      obtain ⟨above, habove, hw⟩ := (ih (Value.wellFormed_of_merge hv hlower hm) hnext hrest).1 hw
      obtain ⟨n, hn, hw⟩ := (Value.merge_assoc hv hlower
        (wellFormed_of_layOver hnext hrest habove)).1 ⟨m, hm, hw⟩
      exact ⟨n, (ih hlower hnext hrest).2 ⟨above, habove, hn⟩, hw⟩
    · rintro ⟨n, hn, hw⟩
      obtain ⟨above, habove, hn⟩ := (ih hlower hnext hrest).1 hn
      obtain ⟨m, hm, hw⟩ := (Value.merge_assoc hv hlower
        (wellFormed_of_layOver hnext hrest habove)).2 ⟨n, hn, hw⟩
      exact layOver_cons_eq_ok_iff.2 ⟨m, hm,
        (ih (Value.wellFormed_of_merge hv hlower hm) hnext hrest).2 ⟨above, habove, hw⟩⟩

/-- Merging three layers, the lower two first. -/
theorem merge_merge_eq_ok_iff {x y z w : Value} :
    (do merge (← merge x y) z) = .ok w ↔ ∃ v, merge x y = .ok v ∧ merge v z = .ok w := by
  cases merge x y <;> simp [bind, Except.bind]

theorem toOption_eq_some_iff {ε α : Type} {r : Except ε α} {a : α} :
    r.toOption = some a ↔ r = .ok a := by
  cases r <;> simp [Except.toOption]

theorem exists_eq_ok {ε α : Type} {r : Except ε α} (h : r.toOption.isSome = true) :
    ∃ a, r = .ok a :=
  (Option.isSome_iff_exists.1 h).imp fun _ => toOption_eq_some_iff.1

theorem merged_of_layers {c : Configuration} {name : Value} {layers : List Value}
    (h : c.layers name = .ok layers) : c.merged name = layOver defaults layers := by
  rw [merged, h]
  rfl

/-- **Layering.** Nothing is the neutral layer. Two layers fit unless a path leads to a mapping in
one of them and to something else in the other; then all keys of both are kept, and under each the
upper layer counts if it has something there. Of three layers, any two may be merged first: both
ways fail, or they give the same, even in the order of the keys. So what a configuration says about
an instance may be laid over what it says about any before both are laid over the defaults. -/
theorem layering_laws {x y z : Value} (hx : x.WellFormed) (hy : y.WellFormed)
    (hz : z.WellFormed) :
    (merge .null x = .ok x ∧ merge x .null = .ok x) ∧
    ((∃ e, merge x y = .error e) ↔
      ∃ path a b, x.at? path = some a ∧ y.at? path = some b ∧ a.Clashes b) ∧
    (layOver x [y] = .error .layers ↔ ∃ e, merge x y = .error e) ∧
    (∀ v, merge x y = .ok v → v.WellFormed ∧ Layered x y v) ∧
    (do merge (← merge x y) z).toOption = (do merge x (← merge y z)).toOption ∧
    ∀ (c : Configuration) (name lower : Value) (upper : List Value),
      c.layers name = .ok (lower :: upper) → (∀ layer ∈ lower :: upper, layer.WellFormed) →
      ∀ w, c.merged name = .ok w ↔
        ∃ above, layOver lower upper = .ok above ∧ merge defaults above = .ok w := by
  refine ⟨⟨Value.null_merge x, Value.merge_null x⟩, Value.merge_eq_error_iff hx, ?_,
    fun v hv => ⟨Value.wellFormed_of_merge hx hy hv, Value.layered_of_merge hv⟩, ?_, ?_⟩
  · rw [layOver]
    cases merge x y <;> simp [layOver]
  · refine Option.ext fun w => ?_
    rw [toOption_eq_some_iff, toOption_eq_some_iff, merge_merge_eq_ok_iff]
    refine (Value.merge_assoc hx hy hz).trans ?_
    cases merge y z <;> simp [bind, Except.bind]
  · intro c name lower upper hlayers hwell w
    obtain ⟨hlower, hupper⟩ := List.forall_mem_cons.1 hwell
    rw [merged_of_layers hlayers]
    exact layOver_eq_ok_iff wellFormed_defaults hlower hupper

namespace Sample

def below : Value :=
  .map [("fs_root", .text "/prod"), ("args", .map [("x", .int 1)]), ("hosts", .list [.null])]

def middle : Value := .map [("args", .map [("y", .int 2)]), ("fs_root", .null)]

def above : Value := .map [("args", .map [("x", .null)]), ("hosts", .text "a")]

def configuration : Configuration :=
  { fields := [("instances", .map [("__any__", middle), ("nightly", above)])] }

end Sample

open Sample in
/-- Three layers that fit, and a fourth one that doesn't. -/
theorem layering_laws_sample :
    (below.WellFormed ∧ middle.WellFormed ∧ above.WellFormed) ∧
    (∃ v, merge below middle = .ok v ∧ v.WellFormed ∧ Layered below middle v ∧
      v.at? ["fs_root"] = some (.text "/prod") ∧ "x" ∈ v.keysAt ["args"]) ∧
    (∃ e, merge below (.map [("args", .text "")]) = .error e) ∧
    (do merge (← merge below middle) above).toOption =
      (do merge below (← merge middle above)).toOption ∧
    ∃ w both, configuration.merged (.text "nightly") = .ok w ∧
      merge middle above = .ok both ∧ merge defaults both = .ok w := by
  have hbelow : below.WellFormed := by
    simp [below, Assoc.keys, WellFormed.list]
  have hmiddle : middle.WellFormed := by simp [middle, Assoc.keys]
  have habove : above.WellFormed := by simp [above, Assoc.keys]
  have hclash : WellFormed (.map [("args", .text "")]) := by simp [Assoc.keys]
  obtain ⟨-, -, -, hlayered, hgroup, hconfiguration⟩ := layering_laws hbelow hmiddle habove
  obtain ⟨-, hfit, -⟩ := layering_laws hbelow hclash habove
  have hlayers : configuration.layers (.text "nightly") = .ok [middle, above] := rfl
  have hmerge : ∃ v, merge below middle = .ok v ∧ v.at? ["fs_root"] = some (.text "/prod") ∧
    v.keysAt ["args"] = ["x", "y"] := ⟨_, rfl, rfl, rfl⟩
  obtain ⟨v, hv, hroot, hkeys⟩ := hmerge
  obtain ⟨hwell, hboth⟩ := hlayered v hv
  have hw : ∃ w, configuration.merged (.text "nightly") = .ok w := ⟨_, rfl⟩
  obtain ⟨w, hw⟩ := hw
  obtain ⟨both, hlower, hmerged⟩ := (hconfiguration _ _ _ _ hlayers (by simp [hmiddle, habove]) w).1 hw
  obtain ⟨m, hm, hlast⟩ := layOver_cons_eq_ok_iff.1 hlower
  cases hlast
  exact ⟨⟨hbelow, hmiddle, habove⟩, ⟨v, hv, hwell, hboth, hroot, by simp [hkeys]⟩,
    hfit.2 ⟨["args"], _, _, rfl, rfl, ⟨rfl, rfl, by decide⟩⟩, hgroup, w, both, hw, hm, hmerged⟩

/-! ### Expanding -/

variable {env : Environment} {v w x x' y y' : Value}

theorem expandIn_eq_ok_iff : expandIn env v = .ok w ↔ v.expand env = .ok w := by
  rw [expandIn]
  cases v.expand env <;> simp

theorem expandIn_eq_error_iff {f : Failure} :
    expandIn env v = .error f ↔
      ∃ e, v.expand env = .error e ∧ f = .config (.unsetVariable e.name e.text) := by
  rw [expandIn]
  cases v.expand env <;> simp [eq_comm]

theorem expanded_of_expandIn (h : expandIn env v = .ok w) : v.Expanded env w := by
  have hends := v.ends_expand env
  rw [expandIn_eq_ok_iff.1 h] at hends
  cases hends with
  | all h _ => exact h

theorem settled_of_expandIn (h : expandIn env v = .ok w) : ∀ s ∈ v.textsIn, Settled env s := by
  have hends := v.ends_expand env
  rw [expandIn_eq_ok_iff.1 h] at hends
  cases hends with
  | all _ hset => exact hset

/-- A value can be expanded just if every variable that one of its texts refers to is set. -/
theorem exists_expandIn_eq_error_iff :
    (∃ f, expandIn env v = .error f) ↔
      ∃ s ∈ v.textsIn, ∃ before name after,
        Refers s.toList before name after ∧ env.lookup name = none := by
  constructor
  · rintro ⟨f, hf⟩
    obtain ⟨e, he, -⟩ := expandIn_eq_error_iff.1 hf
    have hends := v.ends_expand env
    rw [he] at hends
    cases hends with
    | stopped htexts _ hfirst =>
      obtain ⟨before, after, hrefers, hunset, -⟩ := hfirst
      exact ⟨e.text, by rw [htexts]; simp, before, e.name, after, hrefers, hunset⟩
  · rintro ⟨s, hs, before, name, after, hrefers, hunset⟩
    cases hv : expandIn env v with
    | error f => exact ⟨f, rfl⟩
    | ok w =>
      have hsome := settled_of_expandIn hv s hs before name after hrefers
      rw [hunset] at hsome
      cases hsome

theorem exists_expandIn_of_settled (h : ∀ s ∈ v.textsIn, Settled env s) :
    ∃ w, expandIn env v = .ok w ∧ v.Expanded env w := by
  cases hv : expandIn env v with
  | ok w => exact ⟨w, rfl, expanded_of_expandIn hv⟩
  | error f =>
    obtain ⟨s, hs, before, name, after, hrefers, hunset⟩ :=
      exists_expandIn_eq_error_iff.1 ⟨f, hv⟩
    have hsome := h s hs before name after hrefers
    rw [hunset] at hsome
    cases hsome

/-- **Expanding replaces the references, once.** Every text is read in one way, from one leftmost
reference to the next; what stands between them is copied and the values of the variables are put in
their places. Nothing else changes. It fails just if a text refers to a variable that isn't set, and
the error names the first one. -/
theorem expandIn_replaces (env : Environment) (v : Value) :
    (∀ s, ∃ ps rest, Reads s ps rest ∧
      ∀ ps' rest', Reads s ps' rest' → ps = ps' ∧ rest = rest') ∧
    (∀ w, expandIn env v = .ok w → v.Expanded env w) ∧
    ((∃ f, expandIn env v = .error f) ↔
      ∃ s ∈ v.textsIn, ∃ before name after,
        Refers s.toList before name after ∧ env.lookup name = none) ∧
    ∀ f, expandIn env v = .error f → ∃ earlier s later name,
      v.textsIn = earlier ++ s :: later ∧ (∀ s' ∈ earlier, Settled env s') ∧
      FirstUnset env s.toList name ∧ f = .config (.unsetVariable name s) ∧
      f.message? = some
        ("Could not find environment variable '" ++ name ++ "' referenced in '" ++ s ++ "'.") := by
  have hends := v.ends_expand env
  refine ⟨fun s => ?_, fun w hw => ?_, exists_expandIn_eq_error_iff, fun f hf => ?_⟩
  · obtain ⟨ps, rest, h⟩ := Text.exists_reads s
    exact ⟨ps, rest, h, fun ps' rest' h' => h.unique h'⟩
  · exact expanded_of_expandIn hw
  · obtain ⟨e, he, rfl⟩ := expandIn_eq_error_iff.1 hf
    rw [he] at hends
    cases hends with
    | stopped htexts hearlier hfirst =>
      exact ⟨_, e.text, _, e.name, htexts, hearlier, hfirst, rfl, rfl⟩

namespace Sample

def nested : Environment := [("A", "\x7b$B"), ("B", "b")]

/-- What is put in completes another reference. -/
def listed : Value := .list [.text "\x7b$A\x7d\x7d\x7b\x7b$B\x7d", .int 1]

end Sample

open Sample in
/-- What is put in is not read again; a name that isn't set is named. -/
theorem expandIn_replaces_sample :
    (∃ w, expandIn nested listed = .ok w ∧ listed.Expanded nested w) ∧
    ∃ f earlier s later name, expandIn nested (.list [listed, .text "\x7b$C\x7d"]) = .error f ∧
      (Value.list [listed, .text "\x7b$C\x7d"]).textsIn = earlier ++ s :: later ∧
      FirstUnset nested s.toList name ∧ f = .config (.unsetVariable name s) := by
  obtain ⟨-, hkept, -, -⟩ := expandIn_replaces nested listed
  obtain ⟨-, -, hfails, hfirst⟩ := expandIn_replaces nested (.list [listed, .text "\x7b$C\x7d"])
  obtain ⟨w, hw⟩ : ∃ w, expandIn nested listed = .ok w := exists_eq_ok (by decide +kernel)
  obtain ⟨f, hf⟩ : ∃ f, expandIn nested (.list [listed, .text "\x7b$C\x7d"]) = .error f := by
    refine hfails.2 ⟨"\x7b$C\x7d", by simp [Value.textsIn, Value.textsInItems], [], "C", [],
      ⟨⟨'C', [], rfl, .inr (.inl ⟨by decide, by decide⟩), nofun⟩, rfl⟩, rfl⟩
  obtain ⟨earlier, s, later, name, htexts, -, hunset, hfailure, -⟩ := hfirst f hf
  exact ⟨⟨w, hw, hkept w hw⟩, f, earlier, s, later, name, hf, htexts, hunset, hfailure⟩

/-! ### Expanding layers -/

theorem expanded_of_merged {c : Configuration} {name : Value} (h : c.merged name = .ok v) :
    c.expanded env name = expandIn env v := by
  rw [expanded, h]
  rfl

/-- **Expanding and layering can be exchanged.** Layers that can be expanded may be merged before or
after that: both ways fail, or they give the same. And what is said about an instance can be
expanded after merging just as soon as every variable to which the merged texts refer is set, be it
that what was overridden refers to others. -/
theorem layering_expands (env : Environment) :
    (∀ x y x' y', expandIn env x = .ok x' → expandIn env y = .ok y' →
      (∀ v, merge x y = .ok v → ∃ w, expandIn env v = .ok w ∧ merge x' y' = .ok w) ∧
      ((∃ e, merge x y = .error e) ↔ ∃ e, merge x' y' = .error e)) ∧
    (∀ x y v, merge x y = .ok v → (∀ s ∈ v.textsIn, Settled env s) →
      ∃ w, expandIn env v = .ok w ∧ v.Expanded env w) ∧
    ∀ (c : Configuration) name v, c.merged name = .ok v → (∀ s ∈ v.textsIn, Settled env s) →
      ∃ w, c.expanded env name = .ok w ∧ v.Expanded env w := by
  refine ⟨fun x y x' y' hx hy => ?_, fun x y v _ hset => exists_expandIn_of_settled hset, ?_⟩
  · have htogether := Value.together_merge (expandIn_eq_ok_iff.1 hx) (expandIn_eq_ok_iff.1 hy)
    generalize merge x y = r, merge x' y' = r' at htogether
    cases htogether with
    | ok h => exact ⟨fun v hv => by cases hv; exact ⟨_, expandIn_eq_ok_iff.2 h, rfl⟩, by simp⟩
    | error e e' => exact ⟨nofun, by simp⟩
  · intro c name v hv hset
    rw [expanded_of_merged hv]
    exact exists_expandIn_of_settled hset

namespace Sample

def environment : Environment := [("HOME", "/home")]

def unset : Value := .map [("fs_root", .text "\x7b$U\x7d/a")]

def set : Value := .map [("fs_root", .text "\x7b$HOME\x7d/a")]

def overriding : Configuration :=
  { fields := [("instances", .map [("__any__", unset), ("nightly", set)])] }

end Sample

open Sample in
/-- Below is a reference to a variable that isn't set, and above it one to a variable that is. -/
theorem layering_expands_sample :
    (∃ f, expandIn environment unset = .error f) ∧
    (∃ v w, merge unset set = .ok v ∧ expandIn environment v = .ok w ∧ v.Expanded environment w) ∧
    (∃ v w, overriding.merged (.text "nightly") = .ok v ∧
      overriding.expanded environment (.text "nightly") = .ok w ∧ v.Expanded environment w) ∧
    ∃ set' v w, expandIn environment set = .ok set' ∧ merge set set = .ok v ∧
      expandIn environment v = .ok w ∧ merge set' set' = .ok w := by
  obtain ⟨hexchange, hmerge, hconfiguration⟩ := layering_expands environment
  have hunset : ∃ f, expandIn environment unset = .error f := by
    refine exists_expandIn_eq_error_iff.2 ⟨"\x7b$U\x7d/a", ?_, [], "U", "/a".toList,
      ⟨⟨'U', [], rfl, .inr (.inl ⟨by decide, by decide⟩), nofun⟩, rfl⟩, rfl⟩
    simp [unset, Value.textsIn, Value.textsInFields]
  obtain ⟨set', hset⟩ : ∃ w, expandIn environment set = .ok w := exists_eq_ok (by decide +kernel)
  have hover : merge unset set = .ok set := rfl
  have hself : merge set set = .ok set := rfl
  obtain ⟨v, hv⟩ : ∃ v, overriding.merged (.text "nightly") = .ok v := ⟨_, rfl⟩
  obtain ⟨w, hw⟩ : ∃ w, overriding.expanded environment (.text "nightly") = .ok w :=
    exists_eq_ok (by decide +kernel)
  rw [expanded_of_merged hv] at hw
  obtain ⟨u, hu⟩ := hmerge unset set set hover (settled_of_expandIn hset)
  obtain ⟨both, hboth⟩ := (hexchange set set set' set' hset hset).1 set hself
  exact ⟨hunset, ⟨set, u, hover, hu⟩,
    ⟨v, (hconfiguration _ _ v hv (settled_of_expandIn hw)).imp fun _ h => ⟨hv, h⟩⟩,
    set', set, both, hset, hself, hboth⟩

end CatalogReplication.Config.Configuration
