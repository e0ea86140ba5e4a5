import CatalogReplication.Lock.Manager
import CatalogReplication.Proofs.Text.Percent

/-!
# Lock nodes and their keys

The name of a lock node is one part of a path, and its key can be read off it
(`nodeName_reads_back`). So locks share a node just if they have the same key: the kind of a lock
doesn't show in the path, and no two keys are merged.
-/

namespace CatalogReplication.Lock

open Text.Percent

theorem toList_nodeName (key : String) : (nodeName key).toList = encode key.toList :=
  String.toList_ofList

theorem isEncoded_nodeName (key : String) : IsEncoded (nodeName key).toList := by
  rw [toList_nodeName]
  exact isEncoded_encode key.toList

theorem decode_nodeName (key : String) : decode (nodeName key).toList = some key := by
  rw [toList_nodeName, decode_encode, String.ofList_toList]

/-- Neither separates parts of a path nor words. -/
theorem not_mem_nodeName {c : Char} (hc : c = '/' ∨ c = ' ') (key : String) :
    c ∉ (nodeName key).toList := by
  intro hmem
  rcases (isEncoded_nodeName key).mem hmem with hplain | hsign
  · rcases hc with rfl | rfl <;> exact absurd hplain (by decide)
  · rcases hc with rfl | rfl <;> exact absurd hsign (by decide)

theorem nodeName_inj {key key' : String} (h : nodeName key = nodeName key') : key = key' := by
  have hdecode := decode_nodeName key
  rw [h, decode_nodeName key'] at hdecode
  exact (Option.some.inj hdecode).symm

theorem nodePath_eq_iff {s : Service} {r r' : Requirement} :
    Desk.nodePath s r = Desk.nodePath s r' ↔ r.key = r'.key := by
  constructor
  · intro h
    have hlist := congrArg String.toList h
    unfold Desk.nodePath at hlist
    rw [String.toList_append, String.toList_append] at hlist
    exact nodeName_inj (String.toList_inj.1 (List.append_cancel_left hlist))
  · intro h
    unfold Desk.nodePath
    rw [h]

/-- **The name of a lock node** is one part of a path in letters, digits, `_ . - ~` and escapes. Its
key is read back, by whoever reads only names like this and by whoever reads any text. So different
keys have different nodes, and of a lock only its key shows in the path. -/
theorem nodeName_reads_back (key : String) :
    IsEncoded (nodeName key).toList ∧ '/' ∉ (nodeName key).toList ∧
    decode (nodeName key).toList = some key ∧ unescape (nodeName key).toList = key.toList ∧
    (∀ key', nodeName key' = nodeName key → key' = key) ∧
    ∀ (s : Service) (kind kind' : Kind) (key' : String),
      Desk.nodePath s ⟨kind, key⟩ = Desk.nodePath s ⟨kind', key'⟩ ↔ key = key' := by
  refine ⟨isEncoded_nodeName key, not_mem_nodeName (.inl rfl) key, decode_nodeName key, ?_,
    fun key' h => nodeName_inj h, fun s kind kind' key' => nodePath_eq_iff⟩
  rw [toList_nodeName]
  exact unescape_encode key.toList

example : nodeName "d.t/ds=ü%2F€𝄞" = "d.t%2Fds%3D%C3%BC%252F%E2%82%AC%F0%9D%84%9E" := by
  decide +kernel

end CatalogReplication.Lock
