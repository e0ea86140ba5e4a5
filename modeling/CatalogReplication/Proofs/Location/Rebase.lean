import CatalogReplication.Proofs.Text.Cut
import CatalogReplication.Task.Builder

/-!
# From one root to the other

A location lies at a root or below it if it is the root without the slashes at its end, or goes on
from there with a slash (`IsWithin`). Such a location keeps what follows the root when it is rebased,
so rebasing it back gives it again; every other location goes where its path alone puts it. Either
way the result lies at or below the other root (`Cluster.rebase_inverse`).
-/

namespace CatalogReplication

namespace Location

/-! ### Roots -/

/-- A trimmed root is what is left when all the slashes at the end are gone. -/
theorem trimRoot_eq_iff {root : String} {t : List Char} :
    trimRoot root = t ↔
      (∃ n, root.toList = t ++ List.replicate n '/') ∧ t.getLast? ≠ some '/' := by
  unfold trimRoot
  rw [Text.dropTrailing_eq_iff]
  refine and_congr ⟨?_, ?_⟩ ⟨?_, ?_⟩
  · rintro ⟨u, hu, hslashes⟩
    have hreplicate : u = List.replicate u.length '/' :=
      List.eq_replicate_iff.2 ⟨rfl, fun c hc => by simpa using hslashes c hc⟩
    exact ⟨u.length, hreplicate ▸ hu⟩
  · rintro ⟨n, hn⟩
    exact ⟨_, hn, fun c hc => by simp [List.eq_of_mem_replicate hc]⟩
  · intro hlast h
    simpa using hlast '/' h
  · intro hlast c hc
    simp only [beq_eq_false_iff_ne]
    rintro rfl
    exact hlast hc

/-- Roots that agree up to the slashes at their ends. -/
def SameRoot (root root' : String) : Prop :=
  ∃ m n, root.toList ++ List.replicate m '/' = root'.toList ++ List.replicate n '/'

theorem sameRoot_iff {root root' : String} : SameRoot root root' ↔ trimRoot root = trimRoot root' := by
  constructor
  · rintro ⟨m, n, h⟩
    have hslashes : ∀ k, ∀ c ∈ List.replicate k '/', (c == '/') = true := fun k c hc => by
      simp [List.eq_of_mem_replicate hc]
    have htrim := congrArg (Text.dropTrailing (· == '/')) h
    rwa [Text.dropTrailing_append (hslashes m), Text.dropTrailing_append (hslashes n)] at htrim
  · intro h
    obtain ⟨⟨m, hm⟩, -⟩ := trimRoot_eq_iff.1 h
    obtain ⟨⟨n, hn⟩, -⟩ := trimRoot_eq_iff.1 (rfl : trimRoot root' = _)
    refine ⟨n, m, ?_⟩
    rw [hm, hn, List.append_assoc, List.append_assoc, List.replicate_append_replicate,
      List.replicate_append_replicate, Nat.add_comm]

/-! ### At a root or below it -/

/-- A location that is a root, or goes on from there with a slash. -/
def IsWithin (root location : String) : Prop :=
  location.toList = trimRoot root ∨ ∃ rest, location.toList = trimRoot root ++ '/' :: rest

theorem below?_eq_some_iff {root location rest : List Char} :
    below? root location = some rest ↔
      location = root ++ rest ∧ (rest = [] ∨ ∃ path, rest = '/' :: path) := by
  rw [← Text.stripHead?_eq_some_iff]
  unfold below?
  split
  next h =>
    rw [h, iff_self_and]
    rintro ⟨⟩
    exact .inl rfl
  next path h =>
    rw [h, iff_self_and]
    rintro ⟨⟩
    exact .inr ⟨path, rfl⟩
  next hroot hslash =>
    constructor
    · intro h
      cases h
    · rintro ⟨h, rfl | ⟨path, rfl⟩⟩
      · exact absurd h hroot
      · exact absurd h (hslash path)

theorem isWithin_iff {root location : String} :
    IsWithin root location ↔ ∃ rest, below? (trimRoot root) location.toList = some rest := by
  simp only [below?_eq_some_iff, IsWithin]
  constructor
  · rintro (h | ⟨path, h⟩)
    · exact ⟨[], by simpa using h, .inl rfl⟩
    · exact ⟨_, h, .inr ⟨path, rfl⟩⟩
  · rintro ⟨rest, h, rfl | ⟨path, rfl⟩⟩
    · exact .inl (by simpa using h)
    · exact .inr ⟨path, h⟩

instance (root location : String) : Decidable (IsWithin root location) :=
  decidable_of_iff ((below? (trimRoot root) location.toList).isSome = true) <| by
    rw [Option.isSome_iff_exists, isWithin_iff]

theorem not_isWithin_of_append {root location : String} {c : Char} {rest : List Char}
    (h : location.toList = trimRoot root ++ c :: rest) (hc : c ≠ '/') : ¬ IsWithin root location := by
  rintro (hroot | ⟨path, hpath⟩)
  · simp [h] at hroot
  · rw [h, List.append_cancel_left_eq, List.cons.injEq] at hpath
    exact hc hpath.1

/-! ### Where a location goes -/

variable {source dest location moved : String}

/-- What follows the root stays. -/
theorem rebase_of_below {rest : List Char}
    (h : below? (trimRoot source) location.toList = some rest) :
    rebase source dest location = .ok (String.ofList (trimRoot dest ++ rest)) := by
  unfold rebase
  rw [h]

/-- Rebasing what lies within one root is undone by rebasing it back. -/
theorem exists_rebase_of_isWithin (dest : String) (h : IsWithin source location) :
    ∃ moved, rebase source dest location = .ok moved ∧ IsWithin dest moved ∧
      rebase dest source moved = .ok location := by
  obtain ⟨rest, hrest⟩ := isWithin_iff.1 h
  obtain ⟨hlocation, hpath⟩ := below?_eq_some_iff.1 hrest
  have hmoved : below? (trimRoot dest) (String.ofList (trimRoot dest ++ rest)).toList = some rest :=
    below?_eq_some_iff.2 ⟨String.toList_ofList, hpath⟩
  refine ⟨_, rebase_of_below hrest, isWithin_iff.2 ⟨rest, hmoved⟩, ?_⟩
  rw [rebase_of_below hmoved, ← hlocation, String.ofList_toList]

theorem rebase_of_sameRoot (hroot : SameRoot source dest) (h : IsWithin source location) :
    rebase source dest location = .ok location := by
  obtain ⟨rest, hrest⟩ := isWithin_iff.1 h
  rw [rebase_of_below hrest, ← sameRoot_iff.1 hroot, ← (below?_eq_some_iff.1 hrest).1,
    String.ofList_toList]

/-- Of a location elsewhere only the path counts, as where it is staged. -/
theorem rebase_of_not_isWithin (dest : String) (h : ¬ IsWithin source location) :
    rebase source dest location = staged dest location := by
  have hbelow : below? (trimRoot source) location.toList = none := by
    rw [isWithin_iff, ← Option.isSome_iff_exists] at h
    simpa using h
  unfold rebase staged
  rw [hbelow]

/-- What is staged below a root lies there. -/
theorem isWithin_of_staged (h : staged dest location = .ok moved) : IsWithin dest moved := by
  unfold staged at h
  split at h
  · cases h
    exact .inr ⟨_, String.toList_ofList⟩
  · cases h

theorem isWithin_of_rebase (h : rebase source dest location = .ok moved) : IsWithin dest moved := by
  by_cases hwithin : IsWithin source location
  · obtain ⟨moved', hmoved, hdest, -⟩ := exists_rebase_of_isWithin dest hwithin
    rw [h] at hmoved
    cases hmoved
    exact hdest
  · rw [rebase_of_not_isWithin dest hwithin] at h
    exact isWithin_of_staged h

theorem staged_of_path {path : List Char} (h : Url.path location.toList = .ok path) (root : String) :
    staged root location = .ok (String.ofList (attach (trimRoot root) path)) := by
  unfold staged
  rw [h]

theorem staged_of_path_error {e : Url.Error} (h : Url.path location.toList = .error e)
    (root : String) : staged root location = .error e := by
  unfold staged
  rw [h]

theorem exists_rebase_of_path {path : List Char} (h : Url.path location.toList = .ok path)
    (source dest : String) : ∃ moved, rebase source dest location = .ok moved := by
  by_cases hwithin : IsWithin source location
  · obtain ⟨moved, hmoved, -⟩ := exists_rebase_of_isWithin dest hwithin
    exact ⟨moved, hmoved⟩
  · exact ⟨_, (rebase_of_not_isWithin dest hwithin).trans (staged_of_path h dest)⟩

end Location

/-! ### Between clusters -/

namespace Cluster

variable {a b : Cluster} {rootA rootB location moved : String}

theorem rebase_text_of_ok (ha : a.root = .text rootA) (hb : b.root = .text rootB)
    (h : Location.rebase rootA rootB location = .ok moved) :
    a.rebase b (.text location) = .ok (some moved) := by
  simp only [Cluster.rebase, ha, hb, h]

theorem rebase_text_of_error (ha : a.root = .text rootA) (hb : b.root = .text rootB) {e : Url.Error}
    (h : Location.rebase rootA rootB location = .error e) :
    a.rebase b (.text location) = .error .authority := by
  simp only [Cluster.rebase, ha, hb, h]

/-- **Rebasing is a bijection between the roots.** What lies within one root goes to the other and
comes back as it was, and stays where it is if the roots agree. Any location that has a path ends up
within the other root. One that only begins like the root is taken for one that lies elsewhere. -/
theorem rebase_inverse (ha : a.root = .text rootA) (hb : b.root = .text rootB) :
    (∀ l, Location.IsWithin rootA l → ∃ m, a.rebase b (.text l) = .ok (some m) ∧
      Location.IsWithin rootB m ∧ b.rebase a (.text m) = .ok (some l)) ∧
    (Location.SameRoot rootA rootB → ∀ l, Location.IsWithin rootA l →
      a.rebase b (.text l) = .ok (some l)) ∧
    (∀ l path, Url.path l.toList = .ok path → ∃ m, a.rebase b (.text l) = .ok (some m) ∧
      Location.IsWithin rootB m) ∧
    ∀ l c rest, l.toList = Location.trimRoot rootA ++ c :: rest → c ≠ '/' →
      ¬ Location.IsWithin rootA l ∧
      (∀ path, Url.path l.toList = .ok path → a.rebase b (.text l) =
        .ok (some (String.ofList (Location.attach (Location.trimRoot rootB) path)))) ∧
      ∀ e, Url.path l.toList = .error e → a.rebase b (.text l) = .error .authority := by
  refine ⟨fun l hl => ?_, fun hroot l hl => ?_, fun l path hpath => ?_, fun l c rest hl hc => ?_⟩
  · obtain ⟨m, hm, hwithin, hback⟩ := Location.exists_rebase_of_isWithin rootB hl
    exact ⟨m, rebase_text_of_ok ha hb hm, hwithin, rebase_text_of_ok hb ha hback⟩
  · exact rebase_text_of_ok ha hb (Location.rebase_of_sameRoot hroot hl)
  · obtain ⟨m, hm⟩ := Location.exists_rebase_of_path hpath rootA rootB
    exact ⟨m, rebase_text_of_ok ha hb hm, Location.isWithin_of_rebase hm⟩
  · have hnot := Location.not_isWithin_of_append hl hc
    have hstaged := Location.rebase_of_not_isWithin rootB hnot
    refine ⟨hnot, fun path hpath => ?_, fun e he => ?_⟩
    · exact rebase_text_of_ok ha hb (hstaged.trans (Location.staged_of_path hpath rootB))
    · exact rebase_text_of_error ha hb (hstaged.trans (Location.staged_of_path_error he rootB))

/-- From a root with a slash at its end, to another root and to the same one without it. -/
theorem rebase_inverse_sample :
    (Location.IsWithin "hdfs://near/" "hdfs://near/t?" ∧
      ∃ m, rebase ⟨.text "near", .text "hdfs://near/"⟩ ⟨.text "far", .text "s3://far"⟩
          (.text "hdfs://near/t?") = .ok (some m) ∧
        rebase ⟨.text "far", .text "s3://far"⟩ ⟨.text "near", .text "hdfs://near/"⟩ (.text m) =
          .ok (some "hdfs://near/t?")) ∧
    (Location.SameRoot "hdfs://near/" "hdfs://near" ∧
      rebase ⟨.text "near", .text "hdfs://near/"⟩ ⟨.text "far", .text "hdfs://near"⟩
        (.text "hdfs://near/t?") = .ok (some "hdfs://near/t?")) ∧
    (∃ m, rebase ⟨.text "near", .text "hdfs://near/"⟩ ⟨.text "far", .text "s3://far"⟩
        (.text "/t?") = .ok (some m) ∧ Location.IsWithin "s3://far" m) ∧
    rebase ⟨.text "near", .text "hdfs://near/"⟩ ⟨.text "far", .text "s3://far"⟩
      (.text "hdfs://nearer/t") = .ok (some "s3://far/t") ∧
    rebase ⟨.text "near", .text "hdfs://near/"⟩ ⟨.text "far", .text "s3://far"⟩
      (.text "hdfs://near]/t") = .error .authority := by
  obtain ⟨hinverse, -, hpath, helsewhere⟩ := rebase_inverse
    (a := ⟨.text "near", .text "hdfs://near/"⟩) (b := ⟨.text "far", .text "s3://far"⟩) rfl rfl
  obtain ⟨-, hsame, -⟩ := rebase_inverse
    (a := ⟨.text "near", .text "hdfs://near/"⟩) (b := ⟨.text "far", .text "hdfs://near"⟩) rfl rfl
  have hwithin : Location.IsWithin "hdfs://near/" "hdfs://near/t?" := by decide
  have hroot : Location.SameRoot "hdfs://near/" "hdfs://near" := ⟨0, 1, by decide⟩
  obtain ⟨m, hm, -, hback⟩ := hinverse "hdfs://near/t?" hwithin
  refine ⟨⟨hwithin, m, hm, hback⟩, ⟨hroot, hsame hroot _ hwithin⟩,
    hpath "/t?" "/t".toList (by decide), ?_, ?_⟩
  · have hnearer := helsewhere "hdfs://nearer/t" 'e' "r/t".toList (by decide) (by decide)
    exact hnearer.2.1 "/t".toList (by decide)
  · have hbracket := helsewhere "hdfs://near]/t" ']' "/t".toList (by decide) (by decide)
    exact hbracket.2.2 .authority (by decide)

end Cluster

end CatalogReplication
