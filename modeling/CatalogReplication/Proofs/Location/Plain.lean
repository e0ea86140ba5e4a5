import CatalogReplication.Proofs.Location.Rebase
import CatalogReplication.Task.Data

/-!
# Plain paths

A plain path begins with just one slash (`IsPlain`). Where it is staged, and where it is rebased to
if it lies outside the root, is told by its path as that of a URL. This is all of it if no character
in it has a meaning of its own in a URL (`IsLiteral`), and then different paths go to different
places. A path with such a character shares its place with the literal one that is left of it
(`plain_paths_apart`), so two partitions can meet in one directory (`plain_paths_meet`).
-/

namespace CatalogReplication

namespace Url

/-- Characters that are dropped from a location, or at which its path ends. -/
def isReserved (c : Char) : Bool :=
  c == '\t' || c == '\r' || c == '\n' || c == '?' || c == '#'

/-! ### The path of a plain path -/

theorem dropScheme_slash (rest : List Char) : dropScheme ('/' :: rest) = '/' :: rest := by
  have hcut : Text.cut ':' ('/' :: rest) = ('/' :: (Text.cut ':' rest).1, (Text.cut ':' rest).2) := by
    simp [Text.cut]
  unfold dropScheme
  rw [hcut]
  cases (Text.cut ':' rest).2 <;> rfl

theorem clean_slash (rest : List Char) :
    clean ('/' :: rest) = '/' :: rest.filter fun c => !(c == '\t' || c == '\r' || c == '\n') := by
  simp [clean]

theorem splitAuthority_slash {rest : List Char} (h : rest.head? ≠ some '/') :
    splitAuthority ('/' :: rest) = ([], '/' :: rest) := by
  unfold splitAuthority
  split
  · simp_all
  · rfl

/-- A plain path without reserved characters is all path. -/
theorem path_of_plain {rest : List Char} (h : rest.head? ≠ some '/')
    (hliteral : ∀ c ∈ rest, isReserved c = false) : path ('/' :: rest) = .ok ('/' :: rest) := by
  have hclean : clean ('/' :: rest) = '/' :: rest := by
    rw [clean_slash, List.filter_eq_self.2]
    intro c hc
    have hreserved := hliteral c hc
    unfold isReserved at hreserved
    simp_all
  have hcut : ∀ d, isReserved d = true → d ≠ '/' → Text.cut d ('/' :: rest) = ('/' :: rest, none) := by
    intro d hd hslash
    refine Text.cut_of_not_mem ?_
    rintro (- | ⟨-, hmem⟩)
    · exact hslash rfl
    · rw [hliteral d hmem] at hd
      cases hd
  unfold path
  rw [hclean, dropScheme_slash, splitAuthority_slash h]
  simp only [hcut '#' (by decide) (by decide), hcut '?' (by decide) (by decide)]
  rfl

/-! ### What is left of any location -/

theorem dropScheme_subset (s : List Char) : dropScheme s ⊆ s := by
  unfold dropScheme
  split
  next c scheme rest hcut =>
    have hs := Text.cut_eq_some (congrArg Prod.snd hcut)
    split
    · intro d hd
      rw [hs]
      exact List.mem_append_right _ (List.mem_cons_of_mem _ hd)
    · exact List.Subset.refl s
  next => exact List.Subset.refl s

theorem splitAuthority_snd_subset (s : List Char) : (splitAuthority s).2 ⊆ s := by
  unfold splitAuthority
  split
  next rest =>
    have hrest := (List.dropWhile_suffix (l := rest) (!endsAuthority ·)).subset
    exact fun c hc => List.mem_cons_of_mem _ (List.mem_cons_of_mem _ (hrest hc))
  next => exact List.Subset.refl s

/-- No reserved character is left in a path. -/
theorem isReserved_of_mem_path {s p : List Char} (h : path s = .ok p) {c : Char} (hc : c ∈ p) :
    isReserved c = false := by
  unfold path at h
  simp only at h
  generalize hrest : (splitAuthority (dropScheme (clean s))).2 = rest at h
  split at h
  · cases h
    have hcut := Text.cut_fst_subset '?' (Text.cut '#' rest).1 hc
    have hquery : c ≠ '?' := by
      rintro rfl
      exact Text.not_mem_cut_fst _ _ hc
    have hfragment : c ≠ '#' := by
      rintro rfl
      exact Text.not_mem_cut_fst _ _ hcut
    have hclean : c ∈ clean s := by
      have hmem := Text.cut_fst_subset '#' rest hcut
      rw [← hrest] at hmem
      exact dropScheme_subset _ (splitAuthority_snd_subset _ hmem)
    have hkept := (List.mem_filter.1 hclean).2
    unfold isReserved
    simp_all
  · cases h

end Url

namespace Location

/-! ### Plain paths -/

/-- A path that begins with just one slash. -/
def IsPlain (p : String) : Prop := p.toList.head? = some '/' ∧ p.toList.tail.head? ≠ some '/'

instance (p : String) : Decidable (IsPlain p) := inferInstanceAs (Decidable (_ ∧ _))

/-- A location in which no character has a meaning of its own. -/
def IsLiteral (p : String) : Prop := ∀ c ∈ p.toList, Url.isReserved c = false

instance (p : String) : Decidable (IsLiteral p) :=
  decidable_of_iff (p.toList.any Url.isReserved = false) <| by
    simp [IsLiteral]

theorem IsPlain.toList_eq {p : String} (hp : IsPlain p) :
    ∃ rest, p.toList = '/' :: rest ∧ rest.head? ≠ some '/' := by
  obtain ⟨hslash, hhead⟩ := hp
  obtain ⟨rest, hrest⟩ := List.head?_eq_some_iff.1 hslash
  rw [hrest] at hhead
  exact ⟨rest, hrest, hhead⟩

theorem path_of_isPlain {p : String} (hp : IsPlain p) (hliteral : IsLiteral p) :
    Url.path p.toList = .ok p.toList := by
  obtain ⟨rest, hrest, hhead⟩ := hp.toList_eq
  rw [hrest]
  refine Url.path_of_plain hhead fun c hc => hliteral c ?_
  rw [hrest]
  exact List.mem_cons_of_mem _ hc

theorem attach_of_isPlain {p : String} (hp : IsPlain p) (root : List Char) :
    attach root p.toList = root ++ p.toList := by
  obtain ⟨rest, hrest, hhead⟩ := hp.toList_eq
  have hdrop : rest.dropWhile (· == '/') = rest := by
    cases rest with
    | nil => rfl
    | cons c rest => simpa using hhead
  unfold attach
  rw [hrest, List.dropWhile_cons_of_pos (by decide), hdrop]

/-- A literal plain path is staged below the root as it is. -/
theorem staged_of_isPlain {p : String} (hp : IsPlain p) (hliteral : IsLiteral p) (root : String) :
    staged root p = .ok (String.ofList (trimRoot root ++ p.toList)) := by
  rw [staged_of_path (path_of_isPlain hp hliteral), attach_of_isPlain hp]

/-- Every location that has a path is staged where a literal plain path is. -/
theorem exists_isLiteral_staged {l : String} {path : List Char} (h : Url.path l.toList = .ok path) :
    ∃ q, IsPlain q ∧ IsLiteral q ∧ ∀ root, staged root l = staged root q := by
  have hplain : IsPlain (String.ofList ('/' :: path.dropWhile (· == '/'))) := by
    unfold IsPlain
    rw [String.toList_ofList]
    refine ⟨rfl, fun hhead => ?_⟩
    rw [List.tail_cons] at hhead
    have hnot := List.head?_dropWhile_not (· == '/') path
    simp [hhead] at hnot
  have hliteral : IsLiteral (String.ofList ('/' :: path.dropWhile (· == '/'))) := by
    intro c hc
    rw [String.toList_ofList] at hc
    rcases List.mem_cons.1 hc with rfl | hc
    · rfl
    · exact Url.isReserved_of_mem_path h ((List.dropWhile_suffix _).subset hc)
  refine ⟨_, hplain, hliteral, fun root => ?_⟩
  rw [staged_of_path h, staged_of_isPlain hplain hliteral, String.toList_ofList]
  rfl

theorem ofList_append_ne {p q : String} (h : p ≠ q) (t : List Char) :
    String.ofList (t ++ p.toList) ≠ String.ofList (t ++ q.toList) := by
  intro heq
  have hlist := List.append_cancel_left (String.ofList_injective heq)
  exact h (String.toList_injective hlist)

end Location

namespace Task

theorem stagedPath_text (root location : String) : stagedPath (.text root) (.text location) =
    (Location.staged root location).mapError fun _ => .authority := rfl

end Task

namespace Location

open CatalogReplication.Task (stagedPath)

theorem stagedPath_of_isPlain {p : String} (hp : IsPlain p) (hliteral : IsLiteral p) (root : String) :
    stagedPath (.text root) (.text p) = .ok (String.ofList (trimRoot root ++ p.toList)) := by
  rw [Task.stagedPath_text, staged_of_isPlain hp hliteral]
  rfl

theorem rebase_of_isPlain {p rootA rootB : String} {a b : Cluster} (hp : IsPlain p)
    (hliteral : IsLiteral p) (ha : a.root = .text rootA) (hb : b.root = .text rootB)
    (hout : ¬ IsWithin rootA p) :
    a.rebase b (.text p) = .ok (some (String.ofList (trimRoot rootB ++ p.toList))) := by
  refine Cluster.rebase_text_of_ok ha hb ?_
  rw [rebase_of_not_isWithin rootB hout, staged_of_isPlain hp hliteral]

/-- **A plain path has a place of its own** among the literal ones if it is literal, where it is
staged as well as where it is rebased to from outside the root. If it isn't, another plain path is
staged at the same place. -/
theorem plain_paths_apart {p : String} (hp : IsPlain p) :
    (IsLiteral p → ∀ q, IsPlain q → IsLiteral q → p ≠ q →
      (∀ root, ∃ l m, stagedPath (.text root) (.text p) = .ok l ∧
        stagedPath (.text root) (.text q) = .ok m ∧ l ≠ m) ∧
      ∀ (a b : Cluster) (rootA rootB : String), a.root = .text rootA → b.root = .text rootB →
        ¬ IsWithin rootA p → ¬ IsWithin rootA q →
        ∃ l m, a.rebase b (.text p) = .ok (some l) ∧ a.rebase b (.text q) = .ok (some m) ∧ l ≠ m) ∧
    (¬ IsLiteral p → ∀ path, Url.path p.toList = .ok path → ∃ q, IsPlain q ∧ q ≠ p ∧
      ∀ root, stagedPath (.text root) (.text p) = stagedPath (.text root) (.text q)) := by
  refine ⟨fun hp' q hq hq' hne => ⟨fun root => ?_, ?_⟩, fun hp' path hpath => ?_⟩
  · exact ⟨_, _, stagedPath_of_isPlain hp hp' root, stagedPath_of_isPlain hq hq' root,
      ofList_append_ne hne _⟩
  · intro a b rootA rootB ha hb hpout hqout
    exact ⟨_, _, rebase_of_isPlain hp hp' ha hb hpout, rebase_of_isPlain hq hq' ha hb hqout,
      ofList_append_ne hne _⟩
  · obtain ⟨q, hq, hq', hstaged⟩ := exists_isLiteral_staged hpath
    refine ⟨q, hq, ?_, fun root => ?_⟩
    · rintro rfl
      exact hp' hq'
    · rw [Task.stagedPath_text, Task.stagedPath_text, hstaged root]

/-- With a blank and a point, and with a character that ends the path. -/
theorem plain_paths_apart_sample :
    (∃ l m, stagedPath (.text "/stage/") (.text "/lake/ds=a 1") = .ok l ∧
      stagedPath (.text "/stage/") (.text "/lake/ds=a.1") = .ok m ∧ l ≠ m) ∧
    (∃ l m, Cluster.rebase ⟨.text "src", .text "/src"⟩ ⟨.text "dst", .text "/dst"⟩
        (.text "/lake/ds=a 1") = .ok (some l) ∧
      Cluster.rebase ⟨.text "src", .text "/src"⟩ ⟨.text "dst", .text "/dst"⟩
        (.text "/lake/ds=a.1") = .ok (some m) ∧ l ≠ m) ∧
    ∃ q, IsPlain q ∧ q ≠ "/lake/ds=a?1" ∧ ∀ root,
      stagedPath (.text root) (.text "/lake/ds=a?1") = stagedPath (.text root) (.text q) := by
  have hblank : IsPlain "/lake/ds=a 1" := by decide
  have hpoint : IsPlain "/lake/ds=a.1" := by decide
  have hquery : IsPlain "/lake/ds=a?1" := by decide
  obtain ⟨hstaged, hrebased⟩ :=
    (plain_paths_apart hblank).1 (by decide) "/lake/ds=a.1" hpoint (by decide) (by decide)
  refine ⟨hstaged "/stage/", ?_, ?_⟩
  · exact hrebased ⟨.text "src", .text "/src"⟩ ⟨.text "dst", .text "/dst"⟩ "/src" "/dst" rfl rfl
      (by decide) (by decide)
  · exact (plain_paths_apart hquery).2 (by decide) "/lake/ds=a".toList (by decide)

/-- **Two partitions meet in one directory** if their plain paths differ behind a `#` only. -/
theorem plain_paths_meet :
    IsPlain "/lake/t/ds=a#1" ∧ IsPlain "/lake/t/ds=a#2" ∧ "/lake/t/ds=a#1" ≠ "/lake/t/ds=a#2" ∧
    stagedPath (.text "/stage") (.text "/lake/t/ds=a#1") = .ok "/stage/lake/t/ds=a" ∧
    stagedPath (.text "/stage") (.text "/lake/t/ds=a#2") = .ok "/stage/lake/t/ds=a" ∧
    ¬ IsWithin "/src" "/lake/t/ds=a#1" ∧ ¬ IsWithin "/src" "/lake/t/ds=a#2" ∧
    Cluster.rebase ⟨.text "src", .text "/src"⟩ ⟨.text "dst", .text "/dst"⟩
      (.text "/lake/t/ds=a#1") = .ok (some "/dst/lake/t/ds=a") ∧
    Cluster.rebase ⟨.text "src", .text "/src"⟩ ⟨.text "dst", .text "/dst"⟩
      (.text "/lake/t/ds=a#2") = .ok (some "/dst/lake/t/ds=a") := by
  refine ⟨by decide, by decide, by decide, ?_, ?_, by decide, by decide, ?_, ?_⟩
  · rfl
  · rfl
  · rfl
  · rfl

end Location

end CatalogReplication
