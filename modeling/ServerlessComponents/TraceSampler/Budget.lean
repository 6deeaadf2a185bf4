import ServerlessComponents.Library.Waterfill
import ServerlessComponents.TraceSampler.Window

/-!
# The sampling budget

In exact arithmetic, the rates an update gives keep the traffic it has observed within the target,
and use the target up unless the 20% cap held some rate back.
-/
namespace ServerlessComponents.TraceSampler

variable {K : Type*} [Field K] [LinearOrder K]

/-! ## The share of a signature -/

theorem computeTpsPerSigLoop_eq_level {sorted : List K} (ne : sorted ≠ []) (targetTps : K) :
    computeTpsPerSigLoop targetTps (targetTps / sorted.length) sorted =
      Waterfill.level targetTps sorted := by
  induction sorted generalizing targetTps with
  | nil => exact absurd rfl ne
  | cons c rest ih =>
    rw [computeTpsPerSigLoop, Waterfill.level]
    by_cases last : targetTps / (c :: rest).length ≤ c ∨ rest = []
    · rw [if_pos last, if_pos last]
    · rw [if_neg last, if_neg last]
      exact ih (not_or.1 last).2 _

omit [Field K] in
theorem insertionSort_eq (seen : List K) :
    seen.insertionSort (fun a b => ¬ b < a) = seen.insertionSort (· ≤ ·) := by
  simp only [not_lt]

omit [Field K] in
theorem insertionSort_ne_nil {seen : List K} (ne : seen ≠ []) :
    seen.insertionSort (· ≤ ·) ≠ [] := by
  rw [← List.length_pos_iff, List.length_insertionSort]
  exact List.length_pos_iff.2 ne

theorem computeTpsPerSig_eq_level {seen : List K} (ne : seen ≠ []) (targetTps : K) :
    computeTpsPerSig targetTps seen = Waterfill.level targetTps (seen.insertionSort (· ≤ ·)) := by
  rw [computeTpsPerSig, insertionSort_eq]
  exact computeTpsPerSigLoop_eq_level (insertionSort_ne_nil ne) targetTps

variable [IsStrictOrderedRing K]

theorem computeTpsPerSig_pos {seen : List K} (ne : seen ≠ []) {targetTps : K}
    (pos : 0 < targetTps) : 0 < computeTpsPerSig targetTps seen := by
  rw [computeTpsPerSig_eq_level ne]
  exact Waterfill.level_pos (insertionSort_ne_nil ne) pos

/-- Cut at the share, the observed traffic is the target or everything. -/
theorem sum_min_computeTpsPerSig {seen : List K} (ne : seen ≠ []) (targetTps : K) :
    (seen.map fun tps => min tps (computeTpsPerSig targetTps seen)).sum =
      min targetTps seen.sum := by
  rw [computeTpsPerSig_eq_level ne]
  have perm := seen.perm_insertionSort (· ≤ ·)
  have sorted : (seen.insertionSort (· ≤ ·)).Pairwise (· ≤ ·) := seen.pairwise_insertionSort _
  rw [← perm.sum_eq, ← Waterfill.sum_min_level (insertionSort_ne_nil ne) sorted]
  exact (perm.map _).sum_eq.symm

omit [Field K] [IsStrictOrderedRing K] in
theorem insertionSort_of_perm {seen seen' : List K} (perm : seen.Perm seen') :
    seen.insertionSort (· ≤ ·) = seen'.insertionSort (· ≤ ·) := by
  apply List.Perm.eq_of_pairwise' (seen.pairwise_insertionSort (· ≤ ·))
    (seen'.pairwise_insertionSort (· ≤ ·))
  calc seen.insertionSort (· ≤ ·)
    List.Perm _ seen := seen.perm_insertionSort _
    List.Perm _ seen' := perm
    List.Perm _ (seen'.insertionSort (· ≤ ·)) := (seen'.perm_insertionSort _).symm

/-- The share cuts the traffic to the target or leaves all of it, is not below the even share, and
does not depend on the order of the signatures. -/
theorem computeTpsPerSig_fair {seen : List K} (ne : seen ≠ []) (targetTps : K) :
    (seen.map fun tps => min tps (computeTpsPerSig targetTps seen)).sum = min targetTps seen.sum ∧
    targetTps / seen.length ≤ computeTpsPerSig targetTps seen ∧
    ∀ seen' : List K, seen.Perm seen' →
      computeTpsPerSig targetTps seen' = computeTpsPerSig targetTps seen := by
  refine ⟨sum_min_computeTpsPerSig ne targetTps, ?_, ?_⟩
  · have le := Waterfill.share_le_level (insertionSort_ne_nil ne) targetTps
    rwa [List.length_insertionSort, ← computeTpsPerSig_eq_level ne] at le
  · intro seen' perm
    have ne' : seen' ≠ [] := by
      rintro rfl
      exact ne perm.eq_nil
    rw [computeTpsPerSig_eq_level ne', computeTpsPerSig_eq_level ne, insertionSort_of_perm perm]

/-- Of ten traces a second, one signature needs one; the others get three each. -/
theorem computeTpsPerSig_fair_four :
    computeTpsPerSig 10 [20, 3, 1, 9] = (3 : ℚ) ∧
    computeTpsPerSig 10 [1, 3, 9, 20] = computeTpsPerSig (10 : ℚ) [20, 3, 1, 9] :=
  ⟨by decide +kernel, (computeTpsPerSig_fair (by simp) 10).2.2 [1, 3, 9, 20] (by decide)⟩

/-! ## The rate of a signature -/

omit [IsStrictOrderedRing K] in
theorem shareRate_mul {tpsPerSig : K} (pos : 0 < tpsPerSig) (seen : K) :
    shareRate tpsPerSig seen * seen = min seen tpsPerSig := by
  unfold shareRate
  split
  · rename_i cut
    rw [div_mul_cancel₀ _ cut.2.ne', min_eq_right cut.1.le]
  · rename_i uncut
    have le : seen ≤ tpsPerSig := not_lt.1 fun lt => uncut ⟨lt, pos.trans lt⟩
    rw [one_mul, min_eq_left le]

theorem shareRate_pos {tpsPerSig seen : K} (pos : 0 < tpsPerSig) :
    0 < shareRate tpsPerSig seen := by
  unfold shareRate
  split
  · rename_i cut
    exact div_pos pos cut.2
  · exact zero_lt_one

theorem shareRate_le_one {tpsPerSig seen : K} : shareRate tpsPerSig seen ≤ 1 := by
  unfold shareRate
  split
  · rename_i cut
    exact (div_le_one cut.2).2 cut.1.le
  · exact le_rfl

omit [IsStrictOrderedRing K] in
theorem capIncrease_of_not_heldBack {prevRate : Option K} {rate : K}
    (h : heldBack prevRate rate = false) : capIncrease prevRate rate = rate := by
  cases prevRate with
  | none => rfl
  | some prevRate => simp [capIncrease, h]

/-- The cap lowers a rate, and leaves it positive. -/
theorem capIncrease_bounds {prevRate : Option K} {rate : K} (pos : 0 < rate)
    (prev_pos : ∀ r, prevRate = some r → 0 < r) :
    0 < capIncrease prevRate rate ∧ capIncrease prevRate rate ≤ rate := by
  by_cases h : heldBack prevRate rate = true
  · cases prevRate with
    | none => cases h
    | some prevRate =>
      have prev_pos := prev_pos prevRate rfl
      have increase : (MAX_RATE_INCREASE : K) < rate / prevRate := by
        simpa [heldBack, prev_pos.ne'] using h
      have factor_pos : (0 : K) < MAX_RATE_INCREASE := by norm_num [MAX_RATE_INCREASE]
      simp only [capIncrease, h, if_true]
      refine ⟨mul_pos prev_pos factor_pos, ?_⟩
      rw [mul_comm]
      exact ((lt_div_iff₀ prev_pos).1 increase).le
  · rw [capIncrease_of_not_heldBack (by simpa using h)]
    exact ⟨pos, le_rfl⟩

theorem signatureRate_eq {tpsPerSig seen : K} {prevRate : Option K} (pos : 0 < tpsPerSig)
    (prev_pos : ∀ r, prevRate = some r → 0 < r) :
    signatureRate tpsPerSig seen prevRate = capIncrease prevRate (shareRate tpsPerSig seen) := by
  have share : 0 < shareRate tpsPerSig seen := shareRate_pos pos
  have le := (capIncrease_bounds share prev_pos).2
  exact if_neg (not_lt.2 (le.trans shareRate_le_one))

theorem signatureRate_mul_le {tpsPerSig seen : K} {prevRate : Option K} (pos : 0 < tpsPerSig)
    (nonneg : 0 ≤ seen) (prev_pos : ∀ r, prevRate = some r → 0 < r) :
    signatureRate tpsPerSig seen prevRate * seen ≤ min seen tpsPerSig := by
  rw [signatureRate_eq pos prev_pos, ← shareRate_mul pos]
  exact mul_le_mul_of_nonneg_right (capIncrease_bounds (shareRate_pos pos) prev_pos).2 nonneg

theorem signatureRate_mul_eq {tpsPerSig seen : K} {prevRate : Option K} (pos : 0 < tpsPerSig)
    (prev_pos : ∀ r, prevRate = some r → 0 < r)
    (free : heldBack prevRate (shareRate tpsPerSig seen) = false) :
    signatureRate tpsPerSig seen prevRate * seen = min seen tpsPerSig := by
  rw [signatureRate_eq pos prev_pos, capIncrease_of_not_heldBack free, shareRate_mul pos]

theorem signatureRate_pos {tpsPerSig seen : K} {prevRate : Option K} (pos : 0 < tpsPerSig)
    (prev_pos : ∀ r, prevRate = some r → 0 < r) : 0 < signatureRate tpsPerSig seen prevRate := by
  rw [signatureRate_eq pos prev_pos]
  exact (capIncrease_bounds (shareRate_pos pos) prev_pos).1

namespace Sampler

/-! ## An update -/

/-- The traces per second an update at `newBucket` observes for a signature. -/
def tpsOf (s : Sampler K K) (newBucket : Int) (sig : Signature) : K :=
  bucketTps (s.bucketsOf sig) s.lastBucketId newBucket

/-- The rate a signature has; 0 when it has none. -/
def rateOf (s : Sampler K K) (sig : Signature) : K := (s.rates.lookup sig).getD 0

/-- The 20% cap holds the rate of a signature back in an update at `newBucket`. -/
def HeldBack (s : Sampler K K) (newBucket : Int) (sig : Signature) : Prop :=
  heldBack (s.rates.lookup sig)
    (shareRate (s.tpsPerSig s.lastBucketId newBucket) (s.tpsOf newBucket sig)) = true

def RatesPositive (s : Sampler K K) : Prop := ∀ sig r, s.rates.lookup sig = some r → 0 < r

theorem bucketTps_nonneg (buckets : Buckets K) (previousBucket newBucket : Int) :
    (0 : K) ≤ bucketTps buckets previousBucket newBucket :=
  div_nonneg ((zeroAndGetMax_fst buckets previousBucket newBucket).2 (.inl rfl)) (Nat.cast_nonneg _)

theorem tpsPerSig_pos {s : Sampler K K} (tracking : s.seen.entries ≠ []) (pos : 0 < s.targetTps)
    (newBucket : Int) : 0 < s.tpsPerSig s.lastBucketId newBucket := by
  refine computeTpsPerSig_pos ?_ pos
  simpa [observedTps, AList.mapValues] using tracking

theorem tpsPerSig_pos_lookup {s : Sampler K K} {sig : Signature} {buckets : Buckets K}
    (hs : s.seen.lookup sig = some buckets) (pos : 0 < s.targetTps) (newBucket : Int) :
    0 < s.tpsPerSig s.lastBucketId newBucket :=
  tpsPerSig_pos (fun h => by simp [AList.lookup, h] at hs) pos newBucket

theorem newRate_pos {s : Sampler K K} (positive : s.RatesPositive) (pos : 0 < s.targetTps)
    (newBucket : Int) {sig : Signature} {buckets : Buckets K}
    (hs : s.seen.lookup sig = some buckets) :
    0 < s.newRate s.lastBucketId newBucket sig buckets :=
  signatureRate_pos (tpsPerSig_pos_lookup hs pos newBucket) (positive sig)

theorem ratesPositive_updateRates {s : Sampler K K} (positive : s.RatesPositive)
    (pos : 0 < s.targetTps) (newBucket : Int) :
    (s.updateRates s.lastBucketId newBucket).RatesPositive := by
  by_cases empty : s.seen.entries = []
  · rwa [updateRates_of_empty empty]
  intro sig r hr
  rw [lookup_rates_updateRates empty] at hr
  obtain ⟨buckets, hs, hr⟩ := Option.bind_eq_some_iff.1 hr
  split at hr <;> cases hr
  exact newRate_pos positive pos newBucket hs

omit [IsStrictOrderedRing K] in
/-- What a tracked signature is sampled at after an update, times what was observed of it. -/
theorem rateOf_mul_tpsOf {s : Sampler K K} {newBucket : Int} {sig : Signature}
    {buckets : Buckets K} (hs : s.seen.lookup sig = some buckets) :
    (s.updateRates s.lastBucketId newBucket).rateOf sig * s.tpsOf newBucket sig =
      s.newRate s.lastBucketId newBucket sig buckets * s.tpsOf newBucket sig := by
  have tracking : s.seen.entries ≠ [] := fun h => by simp [AList.lookup, h] at hs
  rw [rateOf, lookup_rates_updateRates tracking, hs, Option.bind_some]
  split
  · rename_i out
    have idle : s.tpsOf newBucket sig = 0 := by
      rw [tpsOf, bucketsOf_of_lookup hs, tps_eq_zero_of_evicts out]
    rw [idle, mul_zero, mul_zero]
  · rfl

omit [IsStrictOrderedRing K] in
/-- The signatures an update drops have no traffic, so the sum runs over those before it. -/
theorem sum_rateOf_mul_tpsOf (s : Sampler K K) (newBucket : Int) :
    ∑ sig ∈ (s.updateRates s.lastBucketId newBucket).seen.keys.toFinset,
      (s.updateRates s.lastBucketId newBucket).rateOf sig * s.tpsOf newBucket sig =
    (s.seen.entries.map fun e => s.newRate s.lastBucketId newBucket e.1 e.2 *
      bucketTps e.2 s.lastBucketId newBucket).sum := by
  have sub : (s.updateRates s.lastBucketId newBucket).seen.keys.toFinset ⊆
      s.seen.keys.toFinset := fun sig hsig =>
    List.mem_toFinset.2 (mem_seen_of_mem_updateRates (List.mem_toFinset.1 hsig))
  rw [Finset.sum_subset sub, AList.sum_keys]
  · apply congrArg List.sum
    apply List.map_congr_left
    intro e he
    have hs := AList.lookup_of_mem_entries he
    rw [rateOf_mul_tpsOf hs, tpsOf, bucketsOf_of_lookup hs]
  · intro sig hsig gone
    obtain ⟨buckets, hs⟩ := Option.isSome_iff_exists.1
      (AList.lookup_isSome.2 (List.mem_toFinset.1 hsig))
    have out : (s.updateRates s.lastBucketId newBucket).seen.lookup sig = none :=
      AList.lookup_eq_none.2 (mt (fun h => List.mem_toFinset.2 h) gone)
    rw [lookup_seen_updateRates, hs, Option.bind_some] at out
    split at out
    · rename_i idle
      rw [tpsOf, bucketsOf_of_lookup hs, tps_eq_zero_of_evicts idle, mul_zero]
    · cases out

omit [IsStrictOrderedRing K] in
theorem map_tps_eq (s : Sampler K K) (newBucket : Int) :
    (s.observedTps s.lastBucketId newBucket).entries.map (·.2) =
      s.seen.entries.map fun e => bucketTps e.2 s.lastBucketId newBucket := by
  simp [observedTps, AList.mapValues, Function.comp_def]

omit [IsStrictOrderedRing K] in
theorem sum_tpsOf (s : Sampler K K) (newBucket : Int) :
    ∑ sig ∈ s.seen.keys.toFinset, s.tpsOf newBucket sig =
      (s.seen.entries.map fun e => bucketTps e.2 s.lastBucketId newBucket).sum := by
  rw [AList.sum_keys]
  apply congrArg List.sum
  apply List.map_congr_left
  intro e he
  rw [tpsOf, bucketsOf_of_lookup (AList.lookup_of_mem_entries he)]

/-- The observed traffic, each signature cut at its share. -/
theorem sum_min_tps {s : Sampler K K} (tracking : s.seen.entries ≠ []) (newBucket : Int) :
    (s.seen.entries.map fun e => min (bucketTps e.2 s.lastBucketId newBucket)
      (s.tpsPerSig s.lastBucketId newBucket)).sum =
    min s.targetTps (∑ sig ∈ s.seen.keys.toFinset, s.tpsOf newBucket sig) := by
  have ne : (s.observedTps s.lastBucketId newBucket).entries.map (·.2) ≠ [] := by
    simpa [map_tps_eq] using tracking
  have h := sum_min_computeTpsPerSig ne s.targetTps
  rw [sum_tpsOf]
  simpa only [map_tps_eq, List.map_map, Function.comp_def, tpsPerSig] using h

theorem update_within_target {s : Sampler K K} (positive : s.RatesPositive)
    (pos : 0 < s.targetTps) (newBucket : Int) :
    ∑ sig ∈ (s.updateRates s.lastBucketId newBucket).seen.keys.toFinset,
      (s.updateRates s.lastBucketId newBucket).rateOf sig * s.tpsOf newBucket sig ≤
        s.targetTps := by
  rw [sum_rateOf_mul_tpsOf]
  by_cases empty : s.seen.entries = []
  · simpa [empty] using pos.le
  calc (s.seen.entries.map fun e => s.newRate s.lastBucketId newBucket e.1 e.2 *
        bucketTps e.2 s.lastBucketId newBucket).sum
      ≤ (s.seen.entries.map fun e => min (bucketTps e.2 s.lastBucketId newBucket)
          (s.tpsPerSig s.lastBucketId newBucket)).sum :=
        List.sum_le_sum fun e _ => signatureRate_mul_le (tpsPerSig_pos empty pos newBucket)
          (bucketTps_nonneg ..) (positive e.1)
    _ = min s.targetTps (∑ sig ∈ s.seen.keys.toFinset, s.tpsOf newBucket sig) :=
        sum_min_tps empty newBucket
    _ ≤ s.targetTps := min_le_left ..

theorem update_uses_target {s : Sampler K K} (positive : s.RatesPositive)
    (pos : 0 < s.targetTps) (newBucket : Int)
    (free : ∀ sig ∈ s.seen, ¬ s.HeldBack newBucket sig) :
    ∑ sig ∈ (s.updateRates s.lastBucketId newBucket).seen.keys.toFinset,
      (s.updateRates s.lastBucketId newBucket).rateOf sig * s.tpsOf newBucket sig =
        min s.targetTps (∑ sig ∈ s.seen.keys.toFinset, s.tpsOf newBucket sig) := by
  rw [sum_rateOf_mul_tpsOf]
  by_cases empty : s.seen.entries = []
  · simp [empty, AList.keys, pos.le]
  rw [← sum_min_tps empty]
  apply congrArg List.sum
  apply List.map_congr_left
  intro e he
  have hs := AList.lookup_of_mem_entries he
  have free := free e.1 (AList.lookup_isSome.1 (by rw [hs]; rfl))
  refine signatureRate_mul_eq (tpsPerSig_pos empty pos newBucket) (positive e.1) ?_
  simpa [HeldBack, tpsOf, bucketsOf_of_lookup hs] using free

/-! ## Every reachable state -/

theorem ratesPositive_enterBucket {s : Sampler K K} (positive : s.RatesPositive)
    (pos : 0 < s.targetTps) (now : Int) : (s.enterBucket now).1.RatesPositive := by
  rw [enterBucket_eq]
  split
  · exact positive
  · exact ratesPositive_updateRates positive pos _

omit [IsStrictOrderedRing K] in
theorem enterBucket_targetTps (s : Sampler K K) (now : Int) :
    (s.enterBucket now).1.targetTps = s.targetTps := by
  rw [enterBucket_eq]
  split
  · rfl
  · exact updateRates_targetTps ..

theorem ratesPositive_run {s : Sampler K K} (positive : s.RatesPositive) (pos : 0 < s.targetTps)
    (counts : List (Int × Signature × K)) :
    (s.run counts).RatesPositive ∧ (s.run counts).targetTps = s.targetTps := by
  induction counts generalizing s with
  | nil => exact ⟨positive, rfl⟩
  | cons c rest ih =>
    have target : (s.countWeightedSig c.1 c.2.1 c.2.2).1.targetTps = s.targetTps :=
      enterBucket_targetTps s c.1
    have h := ih (s := (s.countWeightedSig c.1 c.2.1 c.2.2).1)
      (ratesPositive_enterBucket positive pos c.1) (target ▸ pos)
    exact ⟨h.1, h.2.trans target⟩

/-- In every reachable state, when a timestamp brings a new bucket: the rates just set keep the
observed traffic within the target, and when none was held back they use up the target or sample
everything. -/
theorem run_budget (extraRate targetTps : K) (pos : 0 < targetTps)
    (counts : List (Int × Signature × K)) (now : Int) :
    let s := (new extraRate targetTps : Sampler K K).run counts
    let updated := (s.enterBucket now).1
    s.lastBucketId ≠ bucketOf now →
    (∀ sig, sig ∈ updated.seen ↔ sig ∈ updated.rates) ∧
    ∑ sig ∈ updated.seen.keys.toFinset, updated.rateOf sig * s.tpsOf (bucketOf now) sig ≤
      targetTps ∧
    ((∀ sig ∈ s.seen, ¬ s.HeldBack (bucketOf now) sig) →
      ∑ sig ∈ updated.seen.keys.toFinset, updated.rateOf sig * s.tpsOf (bucketOf now) sig =
        min targetTps (∑ sig ∈ s.seen.keys.toFinset, s.tpsOf (bucketOf now) sig)) := by
  intro s updated rotates
  obtain ⟨positive, target⟩ := ratesPositive_run (s := (new extraRate targetTps : Sampler K K))
    (fun sig r h => by cases h) pos counts
  have tracked := ratesTracked_enterBucket (ratesTracked_run
    (s := (new extraRate targetTps : Sampler K K))
    (fun sig h => absurd h (AList.notMem_empty sig)) counts) now
  have target : s.targetTps = targetTps := target
  have pos : 0 < s.targetTps := target ▸ pos
  have eq : updated = { s.updateRates s.lastBucketId (bucketOf now) with
      lastBucketId := bucketOf now } := by
    simp only [updated, enterBucket_eq, if_neg rotates]
  refine ⟨?_, ?_, ?_⟩
  · intro sig
    refine ⟨?_, tracked sig⟩
    intro h
    rw [eq] at h ⊢
    by_cases empty : s.seen.entries = []
    · have h := mem_seen_of_mem_updateRates h
      rw [AList.ext (s := s.seen) (t := ∅) empty] at h
      exact absurd h (AList.notMem_empty sig)
    · exact (mem_rates_updateRates_iff empty).2 h
  · rw [eq]
    exact (update_within_target positive pos _).trans_eq target
  · intro free
    rw [eq, ← target]
    exact update_uses_target positive pos _ free

/-- Two signatures, after an update that cut the first, of twenty traces a second, to six and kept
the second: an update that cuts them so again. -/
theorem run_budget_first :
    let s := (new 1 10 : Sampler ℚ ℚ).run [(0, 7, 100), (1, 8, 20), (6, 7, 30), (7, 8, 10)]
    let updated := (s.enterBucket 10).1
    (s.rateOf 7, s.rateOf 8) = (3 / 10, 1) ∧
    ∑ sig ∈ updated.seen.keys.toFinset, updated.rateOf sig * s.tpsOf (bucketOf 10) sig ≤ 10 ∧
    ∑ sig ∈ updated.seen.keys.toFinset, updated.rateOf sig * s.tpsOf (bucketOf 10) sig =
      min 10 (∑ sig ∈ s.seen.keys.toFinset, s.tpsOf (bucketOf 10) sig) := by
  intro s updated
  obtain ⟨-, within, uses⟩ := run_budget (K := ℚ) 1 10 (by norm_num)
    [(0, 7, 100), (1, 8, 20), (6, 7, 30), (7, 8, 10)] 10 (by decide +kernel)
  have keys : s.seen.keys = [8, 7] := by decide +kernel
  have free : ∀ sig ∈ s.seen.keys, ¬ s.HeldBack (bucketOf 10) sig := by
    unfold HeldBack
    rw [keys, List.forall_mem_cons, List.forall_mem_singleton]
    constructor <;> decide +kernel
  exact ⟨by decide +kernel, within, uses free⟩

end Sampler

end ServerlessComponents.TraceSampler
