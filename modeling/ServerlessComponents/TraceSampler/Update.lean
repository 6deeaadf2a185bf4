import ServerlessComponents.TraceSampler.Sampler

/-!
# What an update of the rates does

`update_rates` and `count_weighted_sig`, said once for a single signature: its buckets, its rate,
and whether it is still there.
-/
namespace ServerlessComponents.TraceSampler.Sampler

variable {S D : Type*} [Zero D] [One D] [Mul D] [Div D] [OfScientific D] [LT D] [DecidableLT D]
  [BEq D]

/-! ## The loop over the signatures -/

theorem lookup_seen_rateLoopStep_self (tpsPerSig : D) (prevRates : AList fun _ : Signature => D)
    (acc : RateLoop S D) (sig : Signature) (seen : D) :
    (rateLoopStep tpsPerSig prevRates acc ⟨sig, seen⟩).seen.lookup sig =
      if isIdle (signatureRate tpsPerSig seen (prevRates.lookup sig)) seen then none
      else acc.seen.lookup sig := by
  simp only [rateLoopStep]
  split <;> simp

theorem lookup_rates_rateLoopStep_self (tpsPerSig : D) (prevRates : AList fun _ : Signature => D)
    (acc : RateLoop S D) (sig : Signature) (seen : D) :
    (rateLoopStep tpsPerSig prevRates acc ⟨sig, seen⟩).rates.lookup sig =
      if isIdle (signatureRate tpsPerSig seen (prevRates.lookup sig)) seen then
        acc.rates.lookup sig
      else some (signatureRate tpsPerSig seen (prevRates.lookup sig)) := by
  simp only [rateLoopStep]
  split <;> simp

theorem lookup_rateLoopStep_of_ne (tpsPerSig : D) (prevRates : AList fun _ : Signature => D)
    (acc : RateLoop S D) {sig other : Signature} (seen : D) (ne : sig ≠ other) :
    (rateLoopStep tpsPerSig prevRates acc ⟨other, seen⟩).seen.lookup sig = acc.seen.lookup sig ∧
    (rateLoopStep tpsPerSig prevRates acc ⟨other, seen⟩).rates.lookup sig =
      acc.rates.lookup sig := by
  simp only [rateLoopStep]
  split <;> simp [ne]

/-- Each signature is met once; what its turn does stays. -/
theorem lookup_rateLoop (tpsPerSig : D) (prevRates : AList fun _ : Signature => D)
    (sig : Signature) (observed : List (Σ _ : Signature, D)) (nodup : observed.NodupKeys)
    (acc : RateLoop S D) :
    ((observed.foldl (rateLoopStep tpsPerSig prevRates) acc).seen.lookup sig,
      (observed.foldl (rateLoopStep tpsPerSig prevRates) acc).rates.lookup sig) =
    match observed.dlookup sig with
    | none => (acc.seen.lookup sig, acc.rates.lookup sig)
    | some seen =>
      let rate := signatureRate tpsPerSig seen (prevRates.lookup sig)
      if isIdle rate seen then (none, acc.rates.lookup sig)
      else (acc.seen.lookup sig, some rate) := by
  induction observed generalizing acc with
  | nil => simp
  | cons entry rest ih =>
    obtain ⟨other, seen⟩ := entry
    obtain ⟨fresh, nodup⟩ := List.nodupKeys_cons.1 nodup
    rw [List.foldl_cons, ih nodup]
    by_cases eq : sig = other
    · subst eq
      have gone : rest.dlookup sig = none := List.dlookup_eq_none.2 fresh
      simp only [gone, List.dlookup_cons_eq, lookup_seen_rateLoopStep_self,
        lookup_rates_rateLoopStep_self]
      split <;> rfl
    · obtain ⟨hseen, hrates⟩ := lookup_rateLoopStep_of_ne tpsPerSig prevRates acc seen eq
      rw [List.dlookup_cons_ne _ _ eq, hseen, hrates]

/-! ## One update -/

variable [Zero S] [LT S] [DecidableLT S] [Widen S D] [Sub D] [NatCast D] [LE D] [DecidableLE D]

/-- The rate an update gives to a signature with these buckets. -/
def newRate (s : Sampler S D) (previousBucket newBucket : Int) (sig : Signature)
    (buckets : Buckets S) : D :=
  signatureRate (s.tpsPerSig previousBucket newBucket)
    (bucketTps buckets previousBucket newBucket) (s.rates.lookup sig)

/-- Whether an update removes a signature with these buckets. -/
def evicts (s : Sampler S D) (previousBucket newBucket : Int) (sig : Signature)
    (buckets : Buckets S) : Bool :=
  isIdle (s.newRate previousBucket newBucket sig buckets)
    (bucketTps buckets previousBucket newBucket : D)

theorem lookup_updateRates {s : Sampler S D} (tracking : s.seen.entries ≠ [])
    (previousBucket newBucket : Int) (sig : Signature) :
    ((s.updateRates previousBucket newBucket).seen.lookup sig,
      (s.updateRates previousBucket newBucket).rates.lookup sig) =
    match s.seen.lookup sig with
    | none => (none, none)
    | some buckets =>
      if s.evicts previousBucket newBucket sig buckets then (none, none)
      else (some (zeroAndGetMax buckets previousBucket newBucket).2,
        some (s.newRate previousBucket newBucket sig buckets)) := by
  have h := lookup_rateLoop (s.tpsPerSig previousBucket newBucket) s.rates sig
    (s.observedTps previousBucket newBucket).entries
    (s.observedTps previousBucket newBucket).nodupKeys
    ⟨s.seen.mapValues fun _ buckets => (zeroAndGetMax buckets previousBucket newBucket).2, ∅, 1⟩
  have hd : (s.observedTps previousBucket newBucket).entries.dlookup sig =
      (s.seen.lookup sig).map fun buckets => bucketTps buckets previousBucket newBucket :=
    AList.lookup_mapValues ..
  rw [hd] at h
  simp only [updateRates, List.isEmpty_iff, tracking, if_false]
  rw [h]
  cases hs : s.seen.lookup sig with
  | none => simp [hs]
  | some buckets =>
    simp only [Option.map_some, AList.lookup_mapValues, AList.lookup_empty, hs]
    rfl

theorem updateRates_of_empty {s : Sampler S D} (empty : s.seen.entries = [])
    (previousBucket newBucket : Int) : s.updateRates previousBucket newBucket = s := by
  simp [updateRates, empty]

/-- The buckets of a signature after an update. -/
theorem lookup_seen_updateRates (s : Sampler S D) (previousBucket newBucket : Int)
    (sig : Signature) :
    (s.updateRates previousBucket newBucket).seen.lookup sig =
      (s.seen.lookup sig).bind fun buckets =>
        if s.evicts previousBucket newBucket sig buckets then none
        else some (zeroAndGetMax buckets previousBucket newBucket).2 := by
  by_cases empty : s.seen.entries = []
  · have : s.seen = ∅ := AList.ext empty
    simp [updateRates_of_empty empty, this]
  · have h := congrArg Prod.fst (lookup_updateRates empty previousBucket newBucket sig)
    simp only at h
    rw [h]
    cases s.seen.lookup sig with
    | none => rfl
    | some buckets => simp only [Option.bind_some]; split <;> rfl

/-- The rate of a signature after an update. -/
theorem lookup_rates_updateRates {s : Sampler S D} (tracking : s.seen.entries ≠ [])
    (previousBucket newBucket : Int) (sig : Signature) :
    (s.updateRates previousBucket newBucket).rates.lookup sig =
      (s.seen.lookup sig).bind fun buckets =>
        if s.evicts previousBucket newBucket sig buckets then none
        else some (s.newRate previousBucket newBucket sig buckets) := by
  have h := congrArg Prod.snd (lookup_updateRates tracking previousBucket newBucket sig)
  simp only at h
  rw [h]
  cases s.seen.lookup sig with
  | none => rfl
  | some buckets => simp only [Option.bind_some]; split <;> rfl

theorem mem_seen_of_mem_updateRates {s : Sampler S D} {previousBucket newBucket : Int}
    {sig : Signature} (h : sig ∈ (s.updateRates previousBucket newBucket).seen) : sig ∈ s.seen := by
  rw [← AList.lookup_isSome, lookup_seen_updateRates] at h
  rw [← AList.lookup_isSome]
  cases hs : s.seen.lookup sig with
  | none => simp [hs] at h
  | some _ => rfl

theorem mem_rates_updateRates_iff {s : Sampler S D} (tracking : s.seen.entries ≠ [])
    {previousBucket newBucket : Int} {sig : Signature} :
    sig ∈ (s.updateRates previousBucket newBucket).rates ↔
      sig ∈ (s.updateRates previousBucket newBucket).seen := by
  rw [← AList.lookup_isSome, ← AList.lookup_isSome, lookup_rates_updateRates tracking,
    lookup_seen_updateRates]
  cases s.seen.lookup sig with
  | none => rfl
  | some buckets => simp only [Option.bind_some]; split <;> simp

/-! ## A new bucket -/

@[simp]
theorem updateRates_targetTps (s : Sampler S D) (previousBucket newBucket : Int) :
    (s.updateRates previousBucket newBucket).targetTps = s.targetTps := by
  unfold updateRates
  split <;> rfl

theorem updateRates_withBucket (s : Sampler S D) (previousBucket newBucket bucketId : Int) :
    { s with lastBucketId := bucketId }.updateRates previousBucket newBucket =
      { s.updateRates previousBucket newBucket with lastBucketId := bucketId } := by
  unfold updateRates
  split <;> rfl

theorem enterBucket_eq (s : Sampler S D) (nowUnixSecs : Int) :
    (s.enterBucket nowUnixSecs).1 =
      if s.lastBucketId = bucketOf nowUnixSecs then s
      else { s.updateRates s.lastBucketId (bucketOf nowUnixSecs) with
        lastBucketId := bucketOf nowUnixSecs } := by
  unfold enterBucket
  by_cases same : s.lastBucketId = bucketOf nowUnixSecs
  · simp [← same]
  · simp [same, updateRates_withBucket]

@[simp]
theorem enterBucket_lastBucketId (s : Sampler S D) (nowUnixSecs : Int) :
    (s.enterBucket nowUnixSecs).1.lastBucketId = bucketOf nowUnixSecs := by
  rw [enterBucket_eq]
  split
  · assumption
  · rfl

theorem mem_seen_of_mem_enterBucket {s : Sampler S D} {now : Int} {sig : Signature}
    (h : sig ∈ (s.enterBucket now).1.seen) : sig ∈ s.seen := by
  rw [enterBucket_eq] at h
  split at h
  · exact h
  · exact mem_seen_of_mem_updateRates h

/-! ## Every rate belongs to a tracked signature -/

def RatesTracked (s : Sampler S D) : Prop := ∀ sig, sig ∈ s.rates → sig ∈ s.seen

theorem ratesTracked_enterBucket {s : Sampler S D} (h : s.RatesTracked) (now : Int) :
    (s.enterBucket now).1.RatesTracked := by
  rw [enterBucket_eq]
  split
  · exact h
  by_cases empty : s.seen.entries = []
  · simpa [RatesTracked, updateRates_of_empty empty] using h
  exact fun sig hsig => (mem_rates_updateRates_iff empty).1 hsig

/-! ## One count -/

variable [Add S]

/-- The state after counting one trace after the other. -/
def run (s : Sampler S D) (counts : List (Int × Signature × S)) : Sampler S D :=
  counts.foldl (fun s (now, sig, n) => (s.countWeightedSig now sig n).1) s

theorem run_append (s : Sampler S D) (before after : List (Int × Signature × S)) :
    s.run (before ++ after) = (s.run before).run after :=
  List.foldl_append

@[simp]
theorem countWeightedSig_lastBucketId (s : Sampler S D) (now : Int) (sig : Signature) (n : S) :
    (s.countWeightedSig now sig n).1.lastBucketId = bucketOf now :=
  enterBucket_lastBucketId s now

@[simp]
theorem countWeightedSig_seen (s : Sampler S D) (now : Int) (sig : Signature) (n : S) :
    (s.countWeightedSig now sig n).1.seen = (s.enterBucket now).1.seen.insert sig
      (let buckets := ((s.enterBucket now).1.seen.lookup sig).getD fun _ => 0
      Function.update buckets (bucketIndex (bucketOf now))
        (buckets (bucketIndex (bucketOf now)) + n)) := rfl

theorem mem_seen_of_mem_countWeightedSig {s : Sampler S D} {now : Int} {sig other : Signature}
    {n : S} (h : other ∈ (s.countWeightedSig now sig n).1.seen) : other = sig ∨ other ∈ s.seen := by
  rw [countWeightedSig_seen, AList.mem_insert] at h
  exact h.imp_right mem_seen_of_mem_enterBucket

theorem ratesTracked_countWeightedSig {s : Sampler S D} (h : s.RatesTracked) (now : Int)
    (sig : Signature) (n : S) : (s.countWeightedSig now sig n).1.RatesTracked := by
  intro other hother
  rw [countWeightedSig_seen, AList.mem_insert]
  exact .inr (ratesTracked_enterBucket h now other hother)

theorem ratesTracked_run {s : Sampler S D} (h : s.RatesTracked)
    (counts : List (Int × Signature × S)) : (s.run counts).RatesTracked := by
  induction counts generalizing s with
  | nil => exact h
  | cons c rest ih => exact ih (ratesTracked_countWeightedSig h c.1 c.2.1 c.2.2)

end ServerlessComponents.TraceSampler.Sampler
