import ServerlessComponents.TraceSampler.Budget

/-!
# The bookkeeping of the rates

Rates, window and the two summary rates change together when a new bucket begins. In exact
arithmetic every rate stays in (0, 1] and belongs to a tracked signature, the lowest rate is the
least of them, the unknown signatures are sampled at no more than any known one, no rate grows by
more than 20%, and a signature is let go only at rate 1 without traffic.
-/
namespace ServerlessComponents.TraceSampler

variable {K : Type*} [Field K] [LinearOrder K]

/-! ## The lowest rate -/

/-- The rates that are stored. -/
def storedRates (rates : AList fun _ : Signature => K) : Set K :=
  {rate | ∃ sig, rates.lookup sig = some rate}

omit [Field K] [LinearOrder K] in
@[simp]
theorem storedRates_empty : storedRates (∅ : AList fun _ : Signature => K) = ∅ := by
  simp [storedRates]

omit [Field K] [LinearOrder K] in
theorem storedRates_insert {rates : AList fun _ : Signature => K} {sig : Signature}
    (fresh : sig ∉ rates) (rate : K) :
    storedRates (rates.insert sig rate) = insert rate (storedRates rates) := by
  ext other
  constructor
  · rintro ⟨found, lookup⟩
    by_cases same : found = sig
    · subst same
      rw [AList.lookup_insert] at lookup
      exact .inl (Option.some.inj lookup).symm
    · rw [AList.lookup_insert_ne same] at lookup
      exact .inr ⟨found, lookup⟩
  · rintro (rfl | ⟨found, lookup⟩)
    · exact ⟨sig, AList.lookup_insert _⟩
    · refine ⟨found, ?_⟩
      rw [AList.lookup_insert_ne, lookup]
      rintro rfl
      exact fresh (AList.lookup_isSome.1 (lookup ▸ rfl))

namespace Sampler

/-- One turn of the loop: the lowest rate follows the rates. -/
theorem isLeast_rateLoopStep {tpsPerSig : K} {prevRates : AList fun _ : Signature => K}
    {acc : RateLoop K K} {sig : Signature} (fresh : sig ∉ acc.rates)
    (least : IsLeast (insert 1 (storedRates acc.rates)) acc.lowestRate) (seen : K) :
    IsLeast (insert 1 (storedRates (rateLoopStep tpsPerSig prevRates acc ⟨sig, seen⟩).rates))
      (rateLoopStep tpsPerSig prevRates acc ⟨sig, seen⟩).lowestRate := by
  simp only [rateLoopStep]
  split
  · exact least
  · rw [storedRates_insert fresh, Set.insert_comm, ← min_def_lt]
    exact least.insert _

theorem mem_rates_rateLoopStep {tpsPerSig : K} {prevRates : AList fun _ : Signature => K}
    {acc : RateLoop K K} {sig other : Signature} {seen : K}
    (mem : other ∈ (rateLoopStep tpsPerSig prevRates acc ⟨sig, seen⟩).rates) :
    other = sig ∨ other ∈ acc.rates := by
  simp only [rateLoopStep] at mem
  split at mem
  · exact .inr mem
  · exact (AList.mem_insert _).1 mem

theorem isLeast_rateLoop (tpsPerSig : K) (prevRates : AList fun _ : Signature => K)
    (observed : List (Σ _ : Signature, K)) (nodup : observed.NodupKeys) (acc : RateLoop K K)
    (fresh : ∀ sig ∈ observed.keys, sig ∉ acc.rates)
    (least : IsLeast (insert 1 (storedRates acc.rates)) acc.lowestRate) :
    IsLeast
      (insert 1 (storedRates (observed.foldl (rateLoopStep tpsPerSig prevRates) acc).rates))
      (observed.foldl (rateLoopStep tpsPerSig prevRates) acc).lowestRate := by
  induction observed generalizing acc with
  | nil => exact least
  | cons entry rest ih =>
    obtain ⟨sig, seen⟩ := entry
    obtain ⟨first, nodup⟩ := List.nodupKeys_cons.1 nodup
    rw [List.keys_cons] at fresh
    rw [List.foldl_cons]
    refine ih nodup _ ?_ (isLeast_rateLoopStep (fresh sig List.mem_cons_self) least seen)
    intro other mem added
    rcases mem_rates_rateLoopStep added with rfl | old
    · exact first mem
    · exact fresh other (List.mem_cons_of_mem _ mem) old

/-- The lowest rate is the least of 1 and the stored rates. -/
def LowestIsLeast (s : Sampler K K) : Prop := IsLeast (insert 1 (storedRates s.rates)) s.lowestRate

theorem lowestIsLeast_updateRates {s : Sampler K K} (tracking : s.seen.entries ≠ [])
    (previousBucket newBucket : Int) : (s.updateRates previousBucket newBucket).LowestIsLeast := by
  simp only [LowestIsLeast, updateRates, List.isEmpty_iff, tracking, if_false]
  refine isLeast_rateLoop _ _ _ (s.observedTps previousBucket newBucket).nodupKeys _ ?_ ?_
  · intro sig _
    exact AList.notMem_empty sig
  · simp

variable [IsStrictOrderedRing K]

/-- Unknown signatures are not sampled at a higher rate than any known one. -/
theorem defaultRate_le {s : Sampler K K} (pos : 0 < s.targetTps) (positive : s.RatesPositive)
    (least : s.LowestIsLeast) {sig : Signature} {rate : K}
    (stored : s.rates.lookup sig = some rate) : s.defaultRate ≤ rate := by
  have lowest_le : s.lowestRate ≤ rate := least.2 (.inr ⟨sig, stored⟩)
  have lowest_pos : 0 < s.lowestRate := by
    rcases least.1 with one | ⟨sig, stored⟩
    · rw [one]
      exact zero_lt_one
    · exact positive sig _ stored
  have cut (upper : K) : (if s.lowestRate < upper ∧ (s.lowestRate != 0) = true then s.lowestRate
      else upper) ≤ s.lowestRate := by
    split
    · exact le_rfl
    · rename_i above
      rw [not_and, bne_iff_ne, not_not] at above
      exact not_lt.1 fun lt => lowest_pos.ne' (above lt)
  simp only [defaultRate, beq_iff_eq, pos.ne', if_false]
  exact (cut _).trans lowest_le

/-! ## The bounds of a rate -/

omit [IsStrictOrderedRing K] in
theorem signatureRate_le_one (tpsPerSig seen : K) (prevRate : Option K) :
    signatureRate tpsPerSig seen prevRate ≤ 1 := by
  rw [signatureRate]
  split
  · exact le_rfl
  · rename_i le
    exact not_lt.1 le

theorem signatureRate_le_mul {tpsPerSig seen prevRate : K} (pos : 0 < prevRate) :
    signatureRate tpsPerSig seen (some prevRate) ≤ prevRate * MAX_RATE_INCREASE := by
  have capped : capIncrease (some prevRate) (shareRate tpsPerSig seen) ≤
      prevRate * MAX_RATE_INCREASE := by
    rw [capIncrease]
    split
    · exact le_rfl
    · rename_i free
      simp only [heldBack, bne_iff_ne.2 pos.ne', Bool.true_and, decide_eq_true_eq, not_lt] at free
      rwa [div_le_iff₀ pos, mul_comm] at free
  rw [signatureRate]
  split
  · rename_i above
    exact above.le.trans capped
  · exact capped

/-! ## One count -/

/-- What holds of the rates between counts. -/
structure RatesKept (s : Sampler K K) : Prop where
  target : 0 < s.targetTps
  positive : s.RatesPositive
  le_one : ∀ sig r, s.rates.lookup sig = some r → r ≤ 1
  tracked : s.RatesTracked

variable {s : Sampler K K}

omit [IsStrictOrderedRing K] in
theorem le_one_enterBucket (kept : s.RatesKept) (now : Int) :
    ∀ sig r, (s.enterBucket now).1.rates.lookup sig = some r → r ≤ 1 := by
  intro sig r stored
  rw [enterBucket_eq] at stored
  split at stored
  · exact kept.le_one sig r stored
  · by_cases empty : s.seen.entries = []
    · rw [updateRates_of_empty empty] at stored
      exact kept.le_one sig r stored
    · simp only [lookup_rates_updateRates empty] at stored
      obtain ⟨buckets, -, given⟩ := Option.bind_eq_some_iff.1 stored
      split at given <;> cases given
      exact signatureRate_le_one ..

theorem ratesKept_countWeightedSig (kept : s.RatesKept) (now : Int) (sig : Signature) (n : K) :
    (s.countWeightedSig now sig n).1.RatesKept where
  target := by
    have target : (s.countWeightedSig now sig n).1.targetTps = s.targetTps :=
      enterBucket_targetTps s now
    rw [target]
    exact kept.target
  positive := ratesPositive_enterBucket kept.positive kept.target now
  le_one := le_one_enterBucket kept now
  tracked := ratesTracked_countWeightedSig kept.tracked now sig n

/-- A rotation gives no signature more than 20% above the rate it had. -/
theorem rate_enterBucket_le (kept : s.RatesKept) (now : Int) {sig : Signature} {rate rate' : K}
    (before : s.rates.lookup sig = some rate)
    (after : (s.enterBucket now).1.rates.lookup sig = some rate') :
    rate' ≤ rate * MAX_RATE_INCREASE := by
  have pos := kept.positive sig rate before
  have grows : rate ≤ rate * MAX_RATE_INCREASE := by
    rw [le_mul_iff_one_le_right pos]
    norm_num [MAX_RATE_INCREASE]
  rw [enterBucket_eq] at after
  split at after
  · obtain rfl := Option.some.inj (before.symm.trans after)
    exact grows
  · by_cases empty : s.seen.entries = []
    · rw [updateRates_of_empty empty] at after
      obtain rfl := Option.some.inj (before.symm.trans after)
      exact grows
    · simp only [lookup_rates_updateRates empty] at after
      obtain ⟨buckets, -, given⟩ := Option.bind_eq_some_iff.1 after
      split at given <;> cases given
      rw [newRate, before]
      exact signatureRate_le_mul pos

/-- A signature that a rotation drops has reached rate 1, and no traffic is left of it. -/
theorem evicts_of_dropped {now : Int} {sig : Signature} (tracked : sig ∈ s.seen)
    (dropped : sig ∉ (s.enterBucket now).1.seen) :
    s.lastBucketId ≠ bucketOf now ∧
      s.newRate s.lastBucketId (bucketOf now) sig (s.bucketsOf sig) = 1 ∧
      (zeroAndGetMax (s.bucketsOf sig) s.lastBucketId (bucketOf now)).1 = 0 := by
  obtain ⟨buckets, found⟩ := Option.isSome_iff_exists.1 (AList.lookup_isSome.2 tracked)
  have rotates : s.lastBucketId ≠ bucketOf now := by
    intro same
    rw [enterBucket_eq, if_pos same] at dropped
    exact dropped tracked
  rw [enterBucket_eq, if_neg rotates] at dropped
  have out : s.evicts s.lastBucketId (bucketOf now) sig buckets = true := by
    have gone := AList.lookup_eq_none.2 dropped
    simp only [lookup_seen_updateRates, found, Option.bind_some] at gone
    by_contra stays
    rw [if_neg stays] at gone
    cases gone
  rw [bucketsOf_of_lookup found]
  refine ⟨rotates, ?_, max_eq_zero_of_evicts out⟩
  rw [evicts, isIdle, Bool.and_eq_true] at out
  exact eq_of_beq out.1

/-! ## Every run -/

theorem ratesKept_run {extraRate targetTps : K} (pos : 0 < targetTps)
    (counts : List (Int × Signature × K)) :
    ((new extraRate targetTps : Sampler K K).run counts).RatesKept := by
  induction counts using List.reverseRecOn with
  | nil =>
    refine ⟨pos, ?_, ?_, ?_⟩
    · intro sig r stored
      cases stored
    · intro sig r stored
      cases stored
    · intro sig mem
      exact absurd mem (AList.notMem_empty sig)
  | append_singleton counts c ih =>
    rw [run_append]
    exact ratesKept_countWeightedSig ih c.1 c.2.1 c.2.2

/-- In every run, and for every count that follows: the stored rates lie in (0, 1] and belong to
tracked signatures; when the count rotates a window that is not empty, the lowest rate is then the
least of 1 and the stored rates, and the default rate is at most each of them; no rate grows by more
than 20%; and a signature that is dropped has reached rate 1 and has no traffic in the six ids
before the new one. -/
theorem run_rates (extraRate targetTps : K) (pos : 0 < targetTps)
    (counts : List (Int × Signature × K)) (now : Int) (sig : Signature) (n : K)
    (orderly : Orderly (counts ++ [(now, sig, n)])) :
    let s := (new extraRate targetTps : Sampler K K).run counts
    let next := (s.countWeightedSig now sig n).1
    (∀ other r, s.rates.lookup other = some r → 0 < r ∧ r ≤ 1 ∧ other ∈ s.seen) ∧
    (s.lastBucketId ≠ bucketOf now → s.seen.entries ≠ [] →
      IsLeast (insert 1 {r | ∃ other, next.rates.lookup other = some r}) next.lowestRate ∧
      ∀ other r, next.rates.lookup other = some r → next.defaultRate ≤ r) ∧
    (∀ other r r', s.rates.lookup other = some r → next.rates.lookup other = some r' →
      r' ≤ r * MAX_RATE_INCREASE) ∧
    ∀ other ∈ s.seen, other ∉ next.seen →
      s.newRate s.lastBucketId (bucketOf now) other (s.bucketsOf other) = 1 ∧
      ∀ id, bucketOf now - NUM_BUCKETS ≤ id → id < bucketOf now → total counts other id = 0 := by
  intro s next
  have kept : s.RatesKept := ratesKept_run pos counts
  have kept' : next.RatesKept := ratesKept_countWeightedSig kept now sig n
  obtain ⟨sorted, nonneg⟩ := orderly
  rw [List.map_append, List.pairwise_append] at sorted
  have orderly : Orderly counts := ⟨sorted.1, fun c hc => nonneg c (List.mem_append_left _ hc)⟩
  have later : ∀ c ∈ counts, c.1 ≤ now := fun c hc =>
    sorted.2.2 c.1 (List.mem_map_of_mem hc) now (by simp)
  refine ⟨?_, ?_, ?_, ?_⟩
  · intro other r stored
    exact ⟨kept.positive other r stored, kept.le_one other r stored,
      kept.tracked other (AList.lookup_isSome.1 (stored ▸ rfl))⟩
  · intro rotates tracking
    have least : next.LowestIsLeast := by
      have least := lowestIsLeast_updateRates tracking s.lastBucketId (bucketOf now)
      have entered : (s.enterBucket now).1.LowestIsLeast := by
        rw [enterBucket_eq, if_neg rotates]
        exact least
      exact entered
    exact ⟨least, fun other r stored => defaultRate_le kept'.target kept'.positive least stored⟩
  · intro other r r' before after
    exact rate_enterBucket_le kept now before after
  · intro other tracked dropped
    have gone : other ∉ (s.enterBucket now).1.seen := by
      intro stays
      apply dropped
      rw [countWeightedSig_seen, AList.mem_insert]
      exact .inr stays
    obtain ⟨rotates, one, zero⟩ := evicts_of_dropped tracked gone
    refine ⟨one, ?_⟩
    intro id lo hi
    have agree := maximaAgree_run extraRate targetTps orderly later rotates
    obtain ⟨buckets, found⟩ := Option.isSome_iff_exists.1 (AList.lookup_isSome.2 tracked)
    have greatest := agree other buckets found
    rw [← bucketsOf_of_lookup found, zero] at greatest
    exact le_antisymm (greatest.2 ⟨id, lo, hi, rfl⟩) (total_nonneg orderly.nonneg other id)

/-- A signature is cut to five sixths and idles; its rate reaches 1 in the eighth bucket. -/
def idling : List (Int × Signature × ℚ) := [(0, 7, 60), (5, 8, 1), (30, 8, 1), (35, 8, 1)]

theorem run_rates_dropped :
    let s := (new 1 10 : Sampler ℚ ℚ).run idling
    s.rates.lookup 7 = some (49 / 50) ∧ 7 ∉ (s.countWeightedSig 40 8 1).1.seen ∧
    ∀ id, bucketOf 40 - NUM_BUCKETS ≤ id → id < bucketOf 40 → total idling 7 id = 0 :=
  ⟨by decide +kernel, by decide +kernel,
    ((run_rates 1 10 (by norm_num) idling 40 8 1 ⟨by decide, by simp [idling]⟩).2.2.2 7
      (by decide +kernel) (by decide +kernel)).2⟩

end Sampler

end ServerlessComponents.TraceSampler
