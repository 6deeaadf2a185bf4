import Mathlib.Algebra.BigOperators.Group.Finset.Piecewise
import Mathlib.Algebra.Order.BigOperators.Group.List
import Mathlib.Algebra.Order.Field.Basic
import Mathlib.Order.Bounds.Basic
import ServerlessComponents.Library.RollingWindow
import ServerlessComponents.TraceSampler.Update

/-!
# The circular buffers against the plain counts

The plain model keeps every count with its bucket id; `total` adds up what was counted for a
signature in a bucket id. In exact arithmetic, with weights that are not negative and timestamps
that do not decrease, the circular buffers of `Sampler` hold the totals of the last six ids.
-/
namespace ServerlessComponents.TraceSampler

open RollingWindow (idOf slot)

/-- Exact arithmetic does not distinguish the two float types. -/
instance exactWiden (K : Type*) : Widen K K := ⟨id⟩

theorem bucketIndex_eq_slot (i : Int) : bucketIndex i = slot NUM_BUCKETS i := rfl

/-! ## The loop of `zero_and_get_max` -/

section Loop

variable {K : Type*}

/-- The buckets whose counts the loop has compared after `m` iterations. -/
def compared (buckets : Buckets K) (previousBucket newBucket : Int) (m : Nat) : Set K :=
  {x | ∃ i, previousBucket < i ∧ i ≤ previousBucket + m ∧ newBucket ≤ i ∧
    buckets (bucketIndex i) = x}

theorem compared_succ (buckets : Buckets K) (previousBucket newBucket : Int) (m : Nat) :
    compared buckets previousBucket newBucket (m + 1) =
      if newBucket ≤ previousBucket + 1 + m then
        insert (buckets (bucketIndex (previousBucket + 1 + m)))
          (compared buckets previousBucket newBucket m)
      else compared buckets previousBucket newBucket m := by
  ext x
  split
  · rename_i reached
    constructor
    · rintro ⟨i, lo, hi, new, rfl⟩
      by_cases last : i = previousBucket + 1 + m
      · exact .inl (by rw [last])
      · exact .inr ⟨i, lo, by push_cast at hi; omega, new, rfl⟩
    · rintro (rfl | ⟨i, lo, hi, new, rfl⟩)
      · exact ⟨_, by omega, by push_cast; omega, reached, rfl⟩
      · exact ⟨i, lo, by push_cast; omega, new, rfl⟩
  · constructor
    · rintro ⟨i, lo, hi, new, rfl⟩
      exact ⟨i, lo, by push_cast at hi; omega, new, rfl⟩
    · rintro ⟨i, lo, hi, new, rfl⟩
      exact ⟨i, lo, by push_cast; omega, new, rfl⟩

variable [Zero K] [LinearOrder K]

theorem zeroAndGetMaxStep_snd (newBucket i : Int) (acc : K × Buckets K) :
    (zeroAndGetMaxStep newBucket acc i).2 =
      if i ≤ newBucket then Function.update acc.2 (bucketIndex i) 0 else acc.2 := by
  rcases lt_trichotomy i newBucket with lt | eq | gt
  · simp [zeroAndGetMaxStep, lt, lt.le]
  · simp [zeroAndGetMaxStep, eq]
  · simp [zeroAndGetMaxStep, gt.not_gt, gt.not_ge, gt.ne']

theorem zeroAndGetMaxStep_fst (newBucket i : Int) (acc : K × Buckets K) :
    (zeroAndGetMaxStep newBucket acc i).1 =
      if newBucket ≤ i then max acc.1 (acc.2 (bucketIndex i)) else acc.1 := by
  by_cases reached : newBucket ≤ i
  · simp only [zeroAndGetMaxStep, reached.not_gt, if_false, reached, if_true, max_def_lt]
  · simp [zeroAndGetMaxStep, not_le.1 reached, reached]

/-- After `m` iterations the slots of the ids passed are clear and the largest of the others seen
is known; the slot of the next id has not been touched. -/
theorem zeroAndGetMax_loop (buckets : Buckets K) (previousBucket newBucket : Int) (m : Nat)
    (le : m ≤ NUM_BUCKETS) :
    let done := ((List.range m).map fun k : Nat => previousBucket + 1 + k).foldl
      (zeroAndGetMaxStep newBucket) (0, buckets)
    (∀ k, done.2 k = if idOf (previousBucket + NUM_BUCKETS) k ≤ previousBucket + m ∧
      idOf (previousBucket + NUM_BUCKETS) k ≤ newBucket then 0 else buckets k) ∧
    IsGreatest (insert 0 (compared buckets previousBucket newBucket m)) done.1 := by
  induction m with
  | zero =>
    refine ⟨?_, ?_⟩
    · intro k
      have lo := RollingWindow.lt_idOf (previousBucket + NUM_BUCKETS) k
      rw [if_neg (by push_cast at lo ⊢; omega)]
      rfl
    · have none : compared buckets previousBucket newBucket 0 = ∅ := by
        apply Set.eq_empty_of_forall_notMem
        rintro x ⟨i, lo, hi, _⟩
        push_cast at hi
        omega
      simp [none]
  | succ m ih =>
    obtain ⟨hbuckets, hmax⟩ := ih (by omega)
    rw [List.range_succ, List.map_append, List.foldl_append]
    simp only [List.map_cons, List.map_nil, List.foldl_cons, List.foldl_nil]
    have le' : (m : ℤ) + 1 ≤ NUM_BUCKETS := by exact_mod_cast le
    have hid : idOf (previousBucket + NUM_BUCKETS) (slot NUM_BUCKETS (previousBucket + 1 + m)) =
        previousBucket + 1 + m :=
      RollingWindow.idOf_slot (by omega) (by omega)
    refine ⟨?_, ?_⟩
    · intro k
      rw [zeroAndGetMaxStep_snd, bucketIndex_eq_slot]
      by_cases current : k = slot NUM_BUCKETS (previousBucket + 1 + m)
      · subst current
        rw [hid]
        split
        · rw [Function.update_self, if_pos ⟨by push_cast; omega, ‹_›⟩]
        · rw [hbuckets, hid, if_neg (by omega), if_neg (by omega)]
      · have other : idOf (previousBucket + NUM_BUCKETS) k ≠ previousBucket + 1 + m := by
          intro h
          apply current
          rw [← h, RollingWindow.slot_idOf]
        have same : idOf (previousBucket + NUM_BUCKETS) k ≤ previousBucket + (m + 1 : Nat) ↔
            idOf (previousBucket + NUM_BUCKETS) k ≤ previousBucket + m := by
          rw [Nat.cast_succ m]
          omega
        simp only [same, ← hbuckets k]
        split
        · exact Function.update_of_ne current ..
        · rfl
    · have untouched := hbuckets (slot NUM_BUCKETS (previousBucket + 1 + m))
      rw [hid, if_neg (by omega), ← bucketIndex_eq_slot] at untouched
      rw [zeroAndGetMaxStep_fst, compared_succ, untouched]
      split
      · rw [Set.insert_comm, max_comm]
        exact hmax.insert _
      · exact hmax

/-- The loop clears what `RollingWindow.advance` clears. -/
theorem zeroAndGetMax_snd (buckets : Buckets K) (previousBucket newBucket : Int) :
    (zeroAndGetMax buckets previousBucket newBucket).2 =
      RollingWindow.advance buckets previousBucket newBucket := by
  funext k
  have h := (zeroAndGetMax_loop buckets previousBucket newBucket NUM_BUCKETS le_rfl).1 k
  have le := RollingWindow.idOf_le (previousBucket + NUM_BUCKETS) k
  simp only [le, true_and] at h
  exact h

theorem zeroAndGetMax_fst (buckets : Buckets K) (previousBucket newBucket : Int) :
    IsGreatest (insert 0 (compared buckets previousBucket newBucket NUM_BUCKETS))
      (zeroAndGetMax buckets previousBucket newBucket).1 :=
  (zeroAndGetMax_loop buckets previousBucket newBucket NUM_BUCKETS le_rfl).2

/-- Nothing is left in the buckets of a signature whose largest live count is 0. -/
theorem advance_eq_zero {buckets : Buckets K} (nonneg : ∀ k, 0 ≤ buckets k)
    {previousBucket newBucket : Int}
    (h : (zeroAndGetMax buckets previousBucket newBucket).1 = 0) :
    RollingWindow.advance buckets previousBucket newBucket = 0 := by
  funext k
  by_cases passed : idOf (previousBucket + NUM_BUCKETS) k ≤ newBucket
  · rw [RollingWindow.advance, if_pos passed]
    rfl
  · have lo := RollingWindow.lt_idOf (previousBucket + NUM_BUCKETS) k
    have hi := RollingWindow.idOf_le (previousBucket + NUM_BUCKETS) k
    have live : buckets k ∈ compared buckets previousBucket newBucket NUM_BUCKETS :=
      ⟨_, by omega, hi, by omega, by rw [bucketIndex_eq_slot, RollingWindow.slot_idOf]⟩
    have le := (zeroAndGetMax_fst buckets previousBucket newBucket).2 (.inr live)
    rw [h] at le
    rw [RollingWindow.advance, if_neg passed]
    exact le_antisymm le (nonneg k)

end Loop

namespace Sampler

variable {K : Type*} [Field K]

/-- The buckets of a signature; one that is not tracked counts nothing. -/
def bucketsOf (s : Sampler K K) (sig : Signature) : Buckets K := (s.seen.lookup sig).getD 0

/-- The plain model: what was counted for a signature in a bucket id. -/
def total (counts : List (Int × Signature × K)) (sig : Signature) (id : Int) : K :=
  ((counts.filter fun (now, other, _) => other = sig ∧ bucketOf now = id).map
    fun (_, _, n) => n).sum

/-- The state holds the totals of the plain model, and its sums over the signatures. -/
structure Refines (s : Sampler K K) (counts : List (Int × Signature × K)) : Prop where
  window : ∀ sig, RollingWindow.Holds (s.bucketsOf sig) s.lastBucketId (total counts sig)
  allSigs : ∀ k, s.allSigsSeen k = ∑ sig ∈ s.seen.keys.toFinset, s.bucketsOf sig k

theorem bucketsOf_of_lookup {s : Sampler K K} {sig : Signature} {buckets : Buckets K}
    (h : s.seen.lookup sig = some buckets) : s.bucketsOf sig = buckets := by
  simp [bucketsOf, h]

theorem bucketsOf_of_notMem {s : Sampler K K} {sig : Signature} (h : sig ∉ s.seen) :
    s.bucketsOf sig = 0 := by
  simp [bucketsOf, AList.lookup_eq_none.2 h]

theorem total_append (counts : List (Int × Signature × K)) (now : Int) (sig other : Signature)
    (n : K) :
    total (counts ++ [(now, other, n)]) sig =
      if other = sig then
        Function.update (total counts sig) (bucketOf now) (total counts sig (bucketOf now) + n)
      else total counts sig := by
  funext id
  by_cases same : other = sig
  · by_cases current : bucketOf now = id
    · subst current
      simp [total, same]
    · rw [if_pos same, Function.update_of_ne (Ne.symm current)]
      simp [total, same, current]
  · simp [total, same]

variable [LinearOrder K] [IsStrictOrderedRing K]

theorem total_nonneg {counts : List (Int × Signature × K)} (nonneg : ∀ c ∈ counts, 0 ≤ c.2.2)
    (sig : Signature) (id : Int) : 0 ≤ total counts sig id := by
  apply List.sum_nonneg
  intro n hn
  obtain ⟨c, hc, rfl⟩ := List.mem_map.1 hn
  exact nonneg c (List.mem_of_mem_filter hc)

/-! ## A rotation -/

omit [IsStrictOrderedRing K] in
/-- A signature is evicted only when nothing is observed of it. -/
theorem tps_eq_zero_of_evicts {s : Sampler K K} {previousBucket newBucket : Int}
    {sig : Signature} {buckets : Buckets K}
    (h : s.evicts previousBucket newBucket sig buckets = true) :
    (bucketTps buckets previousBucket newBucket : K) = 0 := by
  simpa [evicts, isIdle] using (Bool.and_eq_true_iff.1 h).2

theorem max_eq_zero_of_evicts {s : Sampler K K} {previousBucket newBucket : Int}
    {sig : Signature} {buckets : Buckets K}
    (h : s.evicts previousBucket newBucket sig buckets = true) :
    (zeroAndGetMax buckets previousBucket newBucket).1 = 0 := by
  have nonzero : ((BUCKET_DURATION_SECS : ℕ) : K) ≠ 0 := by norm_num [BUCKET_DURATION_SECS]
  exact (div_eq_zero_iff.1 (tps_eq_zero_of_evicts h)).resolve_right nonzero

/-- Whether it stays tracked or not, the buckets of a signature are advanced. -/
theorem bucketsOf_updateRates {s : Sampler K K} (nonneg : ∀ sig k, 0 ≤ s.bucketsOf sig k)
    (previousBucket newBucket : Int) (sig : Signature) :
    (s.updateRates previousBucket newBucket).bucketsOf sig =
      RollingWindow.advance (s.bucketsOf sig) previousBucket newBucket := by
  rw [bucketsOf, lookup_seen_updateRates]
  cases hs : s.seen.lookup sig with
  | none => simp [bucketsOf, hs, RollingWindow.advance_zero]
  | some buckets =>
    rw [bucketsOf_of_lookup hs]
    by_cases out : s.evicts previousBucket newBucket sig buckets = true
    · have zero := advance_eq_zero (bucketsOf_of_lookup hs ▸ nonneg sig) (max_eq_zero_of_evicts out)
      simp [out, zero]
    · simp [out, zeroAndGetMax_snd]

theorem allSigs_updateRates {s : Sampler K K} (nonneg : ∀ sig k, 0 ≤ s.bucketsOf sig k)
    (all : ∀ k, s.allSigsSeen k = ∑ sig ∈ s.seen.keys.toFinset, s.bucketsOf sig k)
    (previousBucket newBucket : Int) (k : Fin NUM_BUCKETS) :
    (s.updateRates previousBucket newBucket).allSigsSeen k =
      ∑ sig ∈ (s.updateRates previousBucket newBucket).seen.keys.toFinset,
        (s.updateRates previousBucket newBucket).bucketsOf sig k := by
  by_cases empty : s.seen.entries = []
  · rw [updateRates_of_empty empty, all]
  have sub : (s.updateRates previousBucket newBucket).seen.keys.toFinset ⊆
      s.seen.keys.toFinset := by
    intro sig hsig
    exact List.mem_toFinset.2 (mem_seen_of_mem_updateRates (List.mem_toFinset.1 hsig))
  have gone : ∀ sig ∈ s.seen.keys.toFinset,
      sig ∉ (s.updateRates previousBucket newBucket).seen.keys.toFinset →
      (s.updateRates previousBucket newBucket).bucketsOf sig k = 0 := by
    intro sig _ hsig
    rw [bucketsOf_of_notMem (mt (fun h => List.mem_toFinset.2 h) hsig)]
    rfl
  rw [Finset.sum_subset sub gone]
  simp only [bucketsOf_updateRates nonneg]
  simp only [updateRates, List.isEmpty_iff, empty, if_false, zeroAndGetMax_snd,
    RollingWindow.advance]
  split
  · simp
  · exact all k

theorem refines_enterBucket {s : Sampler K K} {counts : List (Int × Signature × K)}
    (nonneg : ∀ c ∈ counts, 0 ≤ c.2.2) (h : s.Refines counts) {now : Int}
    (le : s.lastBucketId ≤ bucketOf now) : (s.enterBucket now).1.Refines counts := by
  rw [enterBucket_eq]
  split
  · exact h
  have buckets_nonneg (sig k) : 0 ≤ s.bucketsOf sig k := by
    rw [(h.window sig).apply k]
    exact total_nonneg nonneg ..
  constructor
  · intro sig
    change RollingWindow.Holds ((s.updateRates ..).bucketsOf sig) _ _
    rw [bucketsOf_updateRates buckets_nonneg]
    exact (h.window sig).advance le
  · exact allSigs_updateRates buckets_nonneg h.allSigs _ _

/-! ## A count -/

theorem bucketOf_mono {earlier later : Int} (le : earlier ≤ later) :
    bucketOf earlier ≤ bucketOf later :=
  Int.tdiv_le_tdiv (by decide) le

omit [LinearOrder K] [IsStrictOrderedRing K] in
theorem Refines.count {s : Sampler K K} {counts : List (Int × Signature × K)} (h : s.Refines counts)
    {now : Int} (current : s.lastBucketId = bucketOf now) (sig : Signature) (n : K) :
    let idx := bucketIndex (bucketOf now)
    Refines { s with
      seen := s.seen.insert sig
        (Function.update (s.bucketsOf sig) idx (s.bucketsOf sig idx + n))
      allSigsSeen := Function.update s.allSigsSeen idx (s.allSigsSeen idx + n) }
      (counts ++ [(now, sig, n)]) := by
  intro idx
  constructor
  · intro other
    rw [total_append]
    have held := h.window other
    by_cases same : sig = other
    · subst same
      rw [if_pos rfl, ← current]
      simpa [bucketsOf, idx, ← current, bucketIndex_eq_slot] using held.add n
    · rw [if_neg same]
      simpa [bucketsOf, Ne.symm same] using held
  · intro k
    have split_count (other : Signature) :
        bucketsOf { s with
          seen := s.seen.insert sig
            (Function.update (s.bucketsOf sig) idx (s.bucketsOf sig idx + n))
          allSigsSeen := Function.update s.allSigsSeen idx (s.allSigsSeen idx + n) } other k =
        s.bucketsOf other k + if other = sig then (if k = idx then n else 0) else 0 := by
      by_cases same : other = sig
      · subst same
        by_cases slot : k = idx <;> simp [bucketsOf, slot]
      · simp [bucketsOf, same]
    have keys : (s.seen.insert sig
        (Function.update (s.bucketsOf sig) idx (s.bucketsOf sig idx + n))).keys.toFinset =
        insert sig s.seen.keys.toFinset := by
      ext other
      simp only [List.mem_toFinset, Finset.mem_insert, ← AList.mem_keys, AList.mem_insert]
    have untracked : sig ∉ s.seen.keys.toFinset → s.bucketsOf sig k = 0 := by
      intro h
      rw [bucketsOf_of_notMem (mt (fun h => List.mem_toFinset.2 h) h)]
      rfl
    have sums :
        ∑ other ∈ insert sig s.seen.keys.toFinset, s.bucketsOf other k = s.allSigsSeen k := by
      rw [Finset.sum_insert_of_eq_zero_if_notMem untracked, h.allSigs]
    simp only [split_count, keys, Finset.sum_add_distrib, Finset.sum_ite_eq',
      Finset.mem_insert_self, if_true, sums]
    by_cases slot : k = idx
    · simp [slot]
    · simp [slot]

omit [IsStrictOrderedRing K] in
theorem refines_countWeightedSig {s : Sampler K K} {counts : List (Int × Signature × K)} {now : Int}
    (h : (s.enterBucket now).1.Refines counts) (sig : Signature) (n : K) :
    (s.countWeightedSig now sig n).1.Refines (counts ++ [(now, sig, n)]) :=
  h.count (enterBucket_lastBucketId s now) sig n

/-! ## A run -/

/-- The timestamps do not decrease and the weights are not negative. -/
structure Orderly (counts : List (Int × Signature × K)) : Prop where
  sorted : (counts.map (·.1)).Pairwise (· ≤ ·)
  nonneg : ∀ c ∈ counts, 0 ≤ c.2.2

theorem refines_enterBucket_run (extraRate targetTps : K) {counts : List (Int × Signature × K)}
    (orderly : Orderly counts) {now : Int} (later : ∀ c ∈ counts, c.1 ≤ now) :
    ((new extraRate targetTps : Sampler K K).run counts).Refines counts ∧
    (((new extraRate targetTps : Sampler K K).run counts).enterBucket now).1.Refines counts := by
  induction counts using List.reverseRecOn generalizing now with
  | nil =>
    have start (last : Int) :
        { (new extraRate targetTps : Sampler K K) with lastBucketId := last }.Refines [] :=
      ⟨fun _ => .zero last, fun _ => rfl⟩
    refine ⟨start 0, ?_⟩
    rw [enterBucket_eq]
    split
    · exact start 0
    · rw [updateRates_of_empty rfl]
      exact start _
  | append_singleton counts c ih =>
    obtain ⟨time, sig, n⟩ := c
    obtain ⟨sorted, nonneg⟩ := orderly
    rw [List.map_append, List.pairwise_append] at sorted
    have before : ∀ c ∈ counts, c.1 ≤ time := by
      intro c hc
      exact sorted.2.2 c.1 (List.mem_map_of_mem hc) time (by simp)
    obtain ⟨_, entered⟩ := ih ⟨sorted.1, fun c hc => nonneg c (by simp [hc])⟩ before
    have refined :
        ((new extraRate targetTps : Sampler K K).run (counts ++ [(time, sig, n)])).Refines
          (counts ++ [(time, sig, n)]) := by
      rw [run_append]
      exact refines_countWeightedSig entered sig n
    refine ⟨refined, refines_enterBucket nonneg refined ?_⟩
    rw [run_append]
    change (countWeightedSig _ _ _ _).1.lastBucketId ≤ _
    rw [countWeightedSig_lastBucketId]
    exact bucketOf_mono (later (time, sig, n) (by simp))

/-! ## The three agreements -/

/-- Each slot of each tracked signature holds what was counted for it in the one bucket id with
that residue among the last six. -/
def WindowAgrees (s : Sampler K K) (counts : List (Int × Signature × K)) : Prop :=
  ∀ sig buckets, s.seen.lookup sig = some buckets → ∀ k, ∃ id,
    (∀ i, s.lastBucketId - NUM_BUCKETS < i ∧ i ≤ s.lastBucketId ∧ bucketIndex i = k ↔ i = id) ∧
    buckets k = total counts sig id

/-- The totals over all signatures are the sums over the tracked ones. -/
def TotalsAgree (s : Sampler K K) : Prop :=
  ∀ k, s.allSigsSeen k = (s.seen.entries.map fun e => e.2 k).sum

/-- Every signature with weight in one of the last six bucket ids is tracked. -/
def TracksWeight (s : Sampler K K) (counts : List (Int × Signature × K)) : Prop :=
  ∀ sig id, s.lastBucketId - NUM_BUCKETS < id → id ≤ s.lastBucketId → total counts sig id ≠ 0 →
    sig ∈ s.seen

/-- The largest count a rotation to `newBucket` uses is the largest of the six ids before. -/
def MaximaAgree (s : Sampler K K) (counts : List (Int × Signature × K)) (newBucket : Int) : Prop :=
  ∀ sig buckets, s.seen.lookup sig = some buckets →
    IsGreatest {x | ∃ id, newBucket - NUM_BUCKETS ≤ id ∧ id < newBucket ∧ total counts sig id = x}
      (zeroAndGetMax buckets s.lastBucketId newBucket).1

omit [LinearOrder K] [IsStrictOrderedRing K] in
theorem Refines.windowAgrees {s : Sampler K K} {counts : List (Int × Signature × K)}
    (h : s.Refines counts) : s.WindowAgrees counts := by
  intro sig buckets hs k
  refine ⟨idOf s.lastBucketId k, ?_, ?_⟩
  · intro i
    constructor
    · rintro ⟨lo, hi, rfl⟩
      exact (RollingWindow.idOf_slot lo hi).symm
    · rintro rfl
      exact ⟨RollingWindow.lt_idOf .., RollingWindow.idOf_le .., RollingWindow.slot_idOf ..⟩
  · rw [← bucketsOf_of_lookup hs]
    exact (h.window sig).apply k

omit [LinearOrder K] [IsStrictOrderedRing K] in
theorem Refines.totalsAgree {s : Sampler K K} {counts : List (Int × Signature × K)}
    (h : s.Refines counts) : s.TotalsAgree := by
  intro k
  rw [h.allSigs k, AList.sum_keys]
  apply congrArg List.sum
  apply List.map_congr_left
  intro e he
  rw [bucketsOf_of_lookup (AList.lookup_of_mem_entries he)]

omit [LinearOrder K] [IsStrictOrderedRing K] in
theorem Refines.tracksWeight {s : Sampler K K} {counts : List (Int × Signature × K)}
    (h : s.Refines counts) : s.TracksWeight counts := by
  intro sig id lo hi weight
  by_contra untracked
  apply weight
  rw [← (h.window sig).window id lo hi, bucketsOf_of_notMem untracked]
  rfl

theorem Refines.maximaAgree {s : Sampler K K} {counts : List (Int × Signature × K)}
    (nonneg : ∀ c ∈ counts, 0 ≤ c.2.2) (h : s.Refines counts) {newBucket : Int}
    (lt : s.lastBucketId < newBucket) : s.MaximaAgree counts newBucket := by
  intro sig buckets hs
  have held := bucketsOf_of_lookup hs ▸ h.window sig
  obtain ⟨attained, upper⟩ := zeroAndGetMax_fst buckets s.lastBucketId newBucket
  -- an id of the window is six before the id the loop meets its slot at
  have loop_id (id : Int) (lo : newBucket - NUM_BUCKETS ≤ id) (hi : id ≤ s.lastBucketId) :
      total counts sig id ∈ compared buckets s.lastBucketId newBucket NUM_BUCKETS :=
    ⟨id + NUM_BUCKETS, by omega, by omega, by omega, by
      rw [bucketIndex_eq_slot, RollingWindow.slot_add_width, held.window id (by omega) hi]⟩
  have bound : ∀ id, newBucket - NUM_BUCKETS ≤ id → id < newBucket →
      total counts sig id ≤ (zeroAndGetMax buckets s.lastBucketId newBucket).1 := by
    intro id lo _
    by_cases counted : id ≤ s.lastBucketId
    · exact upper (.inr (loop_id id lo counted))
    · rw [held.future id (by omega)]
      exact upper (.inl rfl)
  refine ⟨?_, ?_⟩
  · rcases attained with zero | ⟨i, lo, hi, live, value⟩
    · -- nothing is positive, so any id of the window attains the maximum
      refine ⟨newBucket - 1, by rw [NUM_BUCKETS]; omega, by omega, ?_⟩
      have le := bound (newBucket - 1) (by rw [NUM_BUCKETS]; omega) (by omega)
      rw [zero] at le ⊢
      exact le_antisymm le (total_nonneg nonneg ..)
    · refine ⟨i - NUM_BUCKETS, by omega, by omega, ?_⟩
      rw [← value, ← held.window (i - NUM_BUCKETS) (by omega) (by omega), bucketIndex_eq_slot,
        ← RollingWindow.slot_add_width (i - NUM_BUCKETS), sub_add_cancel]
  · rintro _ ⟨id, lo, hi, rfl⟩
    exact bound id lo hi

/-- The maxima that the rotation after a run uses. -/
theorem maximaAgree_run (extraRate targetTps : K) {counts : List (Int × Signature × K)}
    (orderly : Orderly counts) {now : Int} (later : ∀ c ∈ counts, c.1 ≤ now)
    (rotates : ((new extraRate targetTps : Sampler K K).run counts).lastBucketId ≠ bucketOf now) :
    ((new extraRate targetTps : Sampler K K).run counts).MaximaAgree counts (bucketOf now) := by
  obtain ⟨refined, -⟩ := refines_enterBucket_run extraRate targetTps orderly later
  rcases counts.eq_nil_or_concat with rfl | ⟨before, c, rfl⟩
  · intro sig buckets hs
    cases hs
  · have last : ((new extraRate targetTps : Sampler K K).run (before.concat c)).lastBucketId =
        bucketOf c.1 := by
      simp only [List.concat_eq_append, run_append]
      exact countWeightedSig_lastBucketId (S := K) (D := K) _ _ _ _
    have le := bucketOf_mono (later c (by simp))
    exact refined.maximaAgree orderly.nonneg (lt_of_le_of_ne (last ▸ le) rotates)

/-- The circular buffers refine the plain model: after every run, and after the rotation a later
timestamp brings, they hold its totals, and every signature with weight among them; and that
rotation uses its maxima. -/
theorem run_refines (extraRate targetTps : K) (counts : List (Int × Signature × K))
    (orderly : Orderly counts) (now : Int) (later : ∀ c ∈ counts, c.1 ≤ now) :
    let s := (new extraRate targetTps : Sampler K K).run counts
    s.WindowAgrees counts ∧ s.TotalsAgree ∧
    (s.lastBucketId ≠ bucketOf now → s.MaximaAgree counts (bucketOf now)) ∧
    (s.enterBucket now).1.WindowAgrees counts ∧ (s.enterBucket now).1.TotalsAgree ∧
    s.TracksWeight counts ∧ (s.enterBucket now).1.TracksWeight counts := by
  intro s
  obtain ⟨refined, entered⟩ := refines_enterBucket_run extraRate targetTps orderly later
  exact ⟨refined.windowAgrees, refined.totalsAgree,
    maximaAgree_run extraRate targetTps orderly later, entered.windowAgrees,
    entered.totalsAgree, refined.tracksWeight, entered.tracksWeight⟩

/-- Two signatures six buckets apart. -/
theorem run_refines_gap :
    let counts : List (Int × Signature × ℚ) := [(0, 7, 1), (33, 8, 2)]
    let s := (new 1 10 : Sampler ℚ ℚ).run counts
    s.WindowAgrees counts ∧ s.TotalsAgree ∧ 8 ∈ s.seen ∧ (s.enterBucket 40).1.TotalsAgree := by
  intro counts s
  obtain ⟨window, totals, -, -, entered, tracks, -⟩ :=
    run_refines (K := ℚ) 1 10 counts ⟨by decide, by simp [counts]⟩ 40 (by decide)
  have weight : total counts 8 6 ≠ 0 := by decide +kernel
  exact ⟨window, totals, tracks 8 6 (by decide +kernel) (by decide +kernel) weight, entered⟩

end Sampler

end ServerlessComponents.TraceSampler
