import CatalogReplication.Failure
import CatalogReplication.Transfer.Request
import Mathlib.Logic.Function.Basic

/-!
# Carriers of data

A carrier is whoever answers transfer requests and keeps to the contract: looking changes nothing, a
copy or a move that succeeds puts exactly the tree of its source at its destination and leaves alone
what is apart from both. What a copy or a move that fails leaves behind is not said. The flat
carrier (`flat`) keeps one tree for each location.
-/

namespace CatalogReplication.Transfer

/-- Whether there are two trees that count as the same. -/
def agree {τ : Type} (same : τ → τ → Bool) : Option τ → Option τ → Bool
  | some x, some y => same x y
  | _, _ => false

/-- Whoever carries trees and keeps to the contract. -/
structure Carrier where
  State : Type
  Tree : Type
  /-- The tree at a location. -/
  tree : String → State → Option Tree
  /-- Whether two trees hold the same files, of the same sizes. -/
  same : Tree → Tree → Bool
  /-- Neither location lies in the tree of the other. -/
  Apart : String → String → Prop
  serve : (r : Request) → State → Except Failure r.Answer × State
  same_refl : ∀ x, same x x = true
  same_symm : ∀ x y, same x y = same y x
  apart_symm : ∀ {a b}, Apart a b → Apart b a
  serve_exists : ∀ a s, serve (.exists a) s = (.ok (tree a s).isSome, s)
  serve_equal : ∀ a b s, serve (.equal a b) s = (.ok (agree same (tree a s) (tree b s)), s)
  tree_copy : ∀ {a b tags s n s'}, serve (.copy a b tags) s = (.ok n, s') → Apart a b →
    tree b s' = tree a s ∧ ∀ c, Apart c b → tree c s' = tree c s
  tree_move : ∀ {a b s s'}, serve (.move a b) s = (.ok (), s') → Apart a b →
    tree b s' = tree a s ∧ tree a s' = none ∧
      ∀ c, Apart c a → Apart c b → tree c s' = tree c s

namespace Carrier

variable {K : Carrier} {a b : String} {s s' : K.State}

/-- Whether the trees at two locations count as the same. -/
def agrees (K : Carrier) (a b : String) (s : K.State) : Bool :=
  agree K.same (K.tree a s) (K.tree b s)

theorem agrees_symm : K.agrees a b s = K.agrees b a s := by
  unfold agrees
  cases K.tree a s <;> cases K.tree b s <;> simp [agree, K.same_symm]

theorem agrees_of_tree_eq (h : K.tree a s = K.tree b s) (ha : (K.tree a s).isSome = true) :
    K.agrees a b s = true := by
  obtain ⟨x, hx⟩ := Option.isSome_iff_exists.1 ha
  unfold agrees
  rw [← h, hx]
  exact K.same_refl x

theorem agrees_eq_false_of_none (h : K.tree a s = none) : K.agrees a b s = false := by
  unfold agrees
  rw [h]
  rfl

/-- What two locations say about each other depends on their trees alone. -/
theorem agrees_congr (ha : K.tree a s' = K.tree a s) (hb : K.tree b s' = K.tree b s) :
    K.agrees a b s' = K.agrees a b s := by
  unfold agrees
  rw [ha, hb]

/-- A copy that succeeds leaves two trees that agree. -/
theorem agrees_of_copy {tags : List Value} {n : Int}
    (h : K.serve (.copy a b tags) s = (.ok n, s')) (hab : K.Apart a b)
    (ha : (K.tree a s).isSome = true) : K.agrees a b s' = true := by
  obtain ⟨hb, hrest⟩ := K.tree_copy h hab
  have hsource : K.tree a s' = K.tree a s := hrest a hab
  exact agrees_of_tree_eq (hsource.trans hb.symm) (hsource ▸ ha)

/-- Moving a tree that agrees with a third leaves the third in agreement with where it went. -/
theorem agrees_of_move {c : String} (h : K.serve (.move c b) s = (.ok (), s'))
    (hcb : K.Apart c b) (hac : K.Apart a c) (hab : K.Apart a b) (hc : K.agrees c a s = true) :
    K.agrees a b s' = true := by
  obtain ⟨hb, -, hrest⟩ := K.tree_move h hcb
  have hsource : K.tree a s' = K.tree a s := hrest a hac hab
  unfold agrees
  rw [hsource, hb]
  rwa [agrees_symm] at hc

end Carrier

/-! ### One tree for each location -/

/-- A tree as the list of its files with their sizes. -/
abbrev Listing := List (List String × Nat)

/-- Trees at locations that have nothing to do with each other. -/
abbrev Shelf := String → Option Listing

/-- Answers a request about trees at locations that have nothing to do with each other. -/
def serveShelf : (r : Request) → Shelf → Except Failure r.Answer × Shelf
  | .exists a, s => (.ok (s a).isSome, s)
  | .equal a b, s => (.ok (agree (· == ·) (s a) (s b)), s)
  | .copy a b _, s =>
    match s a with
    | none => (.error (.transfer (.sourceMissing a)), s)
    | some files =>
      (.ok (files.foldl (fun n f => n + f.2) 0 : Nat), Function.update s b (some files))
  | .move a b, s =>
    match s a with
    | none => (.error (.transfer (.moveFailed a b)), s)
    | some files => (.ok (), Function.update (Function.update s b (some files)) a none)

/-- The carrier that keeps one tree for each location. -/
def flat : Carrier where
  State := Shelf
  Tree := Listing
  tree a s := s a
  same x y := x == y
  Apart a b := a ≠ b
  serve := serveShelf
  same_refl x := by simp
  same_symm x y := Bool.beq_comm
  apart_symm h := h.symm
  serve_exists _ _ := rfl
  serve_equal _ _ _ := rfl
  tree_copy {a b tags s n s'} h hab := by
    unfold serveShelf at h
    cases ha : s a with
    | none => simp [ha] at h
    | some files =>
      simp only [ha, Prod.mk.injEq] at h
      obtain ⟨-, rfl⟩ := h
      refine ⟨Function.update_self _ _ _, fun c hc => Function.update_of_ne hc _ _⟩
  tree_move {a b s s'} h hab := by
    unfold serveShelf at h
    cases ha : s a with
    | none => simp [ha] at h
    | some files =>
      simp only [ha, Prod.mk.injEq] at h
      obtain ⟨-, rfl⟩ := h
      refine ⟨?_, Function.update_self _ _ _, fun c hca hcb => ?_⟩
      · rw [Function.update_of_ne hab.symm, Function.update_self]
      · rw [Function.update_of_ne hca, Function.update_of_ne hcb]

end CatalogReplication.Transfer
