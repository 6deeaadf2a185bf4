import Mathlib.Data.Finset.Fold
import ServerlessComponents.Library.Distinct
import ServerlessComponents.TraceSampler.Signature

/-!
# Similar traces have one signature

The signature of a trace depends on the hash of its root and on which span hashes there are; neither
the order of the spans nor how often a hash comes up matters.
-/
namespace ServerlessComponents.TraceSampler

/-- The hash of every span of a trace, the root's among them, without the resource. -/
def spanHashes (spans : List SpanView) (env : String) : List UInt32 :=
  spans.map fun span => computeSpanHash span env false

/-- A hash and every distinct hash of a list, XOR-ed. -/
def xorDistinct (rootHash : UInt32) (hashes : List UInt32) : UInt32 :=
  hashes.toFinset.fold (fun a b : UInt32 => a ^^^ b) rootHash id

theorem mergeHashes_eq_foldl (rootHash : UInt32) (sorted : List UInt32) :
    mergeHashes rootHash sorted = (sorted.destutter (· ≠ ·)).foldl (· ^^^ ·) rootHash := by
  cases sorted with
  | nil => rfl
  | cons first rest =>
    rw [mergeHashes, UInt32.xor_comm first rootHash]
    exact Distinct.foldl_runs (· ^^^ ·) rootHash first rest

/-- Every hash comes in once. -/
theorem mergeHashes_insertionSort (rootHash : UInt32) (hashes : List UInt32) :
    mergeHashes rootHash (hashes.insertionSort (· ≤ ·)) =
      xorDistinct rootHash hashes := by
  have sorted : (hashes.insertionSort (· ≤ ·)).Pairwise (· ≤ ·) := hashes.pairwise_insertionSort _
  have perm : ((hashes.insertionSort (· ≤ ·)).destutter (· ≠ ·)).Perm hashes.dedup :=
    (Distinct.perm_destutter_dedup sorted).trans (hashes.perm_insertionSort (· ≤ ·)).dedup
  rw [mergeHashes_eq_foldl, xorDistinct, Finset.fold, List.toFinset_val, Multiset.map_id,
    ← Multiset.coe_eq_coe.2 perm, Multiset.coe_fold_l]

/-- Traces of one environment with the same root hash and the same span hashes, in any order and any
number, have the same signature: the root hash and each distinct span hash once, XOR-ed. -/
theorem computeSignatureWithRootAndEnv_canonical (spans spans' : List SpanView)
    (rootIndex rootIndex' : Nat) (inBounds : rootIndex < spans.length)
    (inBounds' : rootIndex' < spans'.length) (env : String)
    (sameRoot : computeSpanHash (spans.get ⟨rootIndex, inBounds⟩) env true =
      computeSpanHash (spans'.get ⟨rootIndex', inBounds'⟩) env true)
    (sameHashes : ∀ hash, hash ∈ spanHashes spans env ↔ hash ∈ spanHashes spans' env) :
    computeSignatureWithRootAndEnv spans rootIndex inBounds env =
      computeSignatureWithRootAndEnv spans' rootIndex' inBounds' env ∧
    computeSignatureWithRootAndEnv spans rootIndex inBounds env =
      (xorDistinct (computeSpanHash (spans.get ⟨rootIndex, inBounds⟩) env true)
        (spanHashes spans env)).toUInt64 := by
  have closed (spans : List SpanView) (rootIndex : Nat) (inBounds : rootIndex < spans.length) :
      computeSignatureWithRootAndEnv spans rootIndex inBounds env =
        (xorDistinct (computeSpanHash (spans.get ⟨rootIndex, inBounds⟩) env true)
          (spanHashes spans env)).toUInt64 :=
    congrArg UInt32.toUInt64 (mergeHashes_insertionSort _ _)
  have same : (spanHashes spans env).toFinset = (spanHashes spans' env).toFinset :=
    List.toFinset.ext sameHashes
  exact ⟨by rw [closed, closed, sameRoot, xorDistinct, xorDistinct, same],
    closed spans rootIndex inBounds⟩

/-- A span that comes up twice, and one trace the other way round. -/
theorem computeSignatureWithRootAndEnv_canonical_repeated :
    let web : SpanView := ⟨"web", "http.request", "GET /", false, some "200", none⟩
    let db : SpanView := ⟨"db", "query", "SELECT", true, none, some "Timeout"⟩
    computeSignatureWithRootAndEnv [web, db, db] 0 (by decide) "prod" =
      computeSignatureWithRootAndEnv [db, web] 1 (by decide) "prod" :=
  (computeSignatureWithRootAndEnv_canonical _ _ 0 1 (by decide) (by decide) "prod" rfl
    fun hash => by simp [spanHashes, or_comm]).1

end ServerlessComponents.TraceSampler
