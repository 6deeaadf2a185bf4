import Mathlib.Data.Finset.Card
import ServerlessComponents.TraceSampler.Update

/-!
# The rate-limited sampler

`RateLimitedSampler` folds new signatures onto a hundred values once a hundred are tracked. Whatever
the traces, the window then holds at most `SHRINK_CARDINALITY` signatures.
-/
namespace ServerlessComponents.TraceSampler

inductive ErrorSamplerMode where
  | alwaysKeep
  | rateLimited
  deriving DecidableEq, Repr

structure ErrorSamplerConfig (D : Type*) where
  mode : ErrorSamplerMode
  targetTps : D
  extraSampleRate : D

inductive SampleDecision (D : Type*) where
  | keep (errorsSr : D)
  | drop

structure RateLimitedSampler (S D : Type*) where
  sampler : Sampler S D
  disabled : Bool
  /-- Snapshot of the signatures with a rate, taken when the cardinality is exceeded. -/
  shrinkAllowList : Option (Finset Signature)

section Weights

variable {S D : Type*} [Double D] [Narrow S D] [Zero D] [One D] [Div D] [LT D] [DecidableLT D]
  [LE D] [DecidableLE D]

/-- The rate applied upstream, or 1 when it is not in `(0, 1]`. -/
def clientRate (trace : TraceView D) : D :=
  let rate := trace.rootGlobalSampleRate
  if !Double.isFinite rate || decide (rate ≤ 0) || decide (1 < rate) then 1 else rate

def weightRoot (trace : TraceView D) : S := Narrow.narrow (1 / clientRate trace)

end Weights

namespace RateLimitedSampler

variable {S D : Type*}

/-- Limit the number of stored signatures. -/
def shrink (s : RateLimitedSampler S D) (sig : Signature) : RateLimitedSampler S D × Signature :=
  if s.sampler.size < SHRINK_CARDINALITY / 2 then ({ s with shrinkAllowList := none }, sig)
  else
    let allowList := s.shrinkAllowList.getD s.sampler.rates.keys.toFinset
    ({ s with shrinkAllowList := some allowList },
      if sig ∈ allowList then sig else sig % UInt64.ofNat (SHRINK_CARDINALITY / 2))

/-! ## The cardinality bound -/

/-- The values new signatures are folded onto. -/
def folded : Finset Signature := (Finset.range (SHRINK_CARDINALITY / 2)).image UInt64.ofNat

theorem card_folded_le : folded.card ≤ SHRINK_CARDINALITY / 2 :=
  Finset.card_image_le.trans (Finset.card_range _).le

theorem mod_mem_folded (sig : Signature) :
    sig % UInt64.ofNat (SHRINK_CARDINALITY / 2) ∈ folded := by
  refine Finset.mem_image.2 ⟨sig.toNat % (SHRINK_CARDINALITY / 2), ?_, ?_⟩
  · exact Finset.mem_range.2 (Nat.mod_lt _ (by decide))
  · apply UInt64.toNat_inj.1
    simp [SHRINK_CARDINALITY, UInt64.toNat_mod]
    omega

/-- While an allow-list is in force, some hundred signatures contain it and, with the folded
values, everything tracked; without one, no more than a hundred are tracked. -/
def Bounded (s : RateLimitedSampler S D) : Prop :=
  s.sampler.RatesTracked ∧
  match s.shrinkAllowList with
  | none => s.sampler.seen.keys.length ≤ SHRINK_CARDINALITY / 2
  | some allowList => ∃ active : Finset Signature, active.card ≤ SHRINK_CARDINALITY / 2 ∧
      allowList ⊆ active ∧ ∀ sig ∈ s.sampler.seen, sig ∈ active ∪ folded

theorem size_le_of_bounded {s : RateLimitedSampler S D} (h : s.Bounded) :
    s.sampler.size ≤ SHRINK_CARDINALITY := by
  obtain ⟨_, bound⟩ := h
  cases hlist : s.shrinkAllowList with
  | none =>
    simp only [hlist] at bound
    exact bound.trans (by decide)
  | some allowList =>
    simp only [hlist] at bound
    obtain ⟨active, card, _, covers⟩ := bound
    calc s.sampler.size
        = s.sampler.seen.keys.toFinset.card :=
          (List.toFinset_card_of_nodup (AList.keys_nodup _)).symm
      _ ≤ (active ∪ folded).card :=
          Finset.card_le_card fun sig hsig => covers sig (List.mem_toFinset.1 hsig)
      _ ≤ active.card + folded.card := Finset.card_union_le ..
      _ ≤ SHRINK_CARDINALITY / 2 + SHRINK_CARDINALITY / 2 := Nat.add_le_add card card_folded_le
      _ = SHRINK_CARDINALITY := by decide

/-- What `shrink` leaves: the count that follows cannot break the bound. -/
def Ready (s : RateLimitedSampler S D) (sig : Signature) : Prop :=
  s.sampler.RatesTracked ∧
  match s.shrinkAllowList with
  | none => s.sampler.seen.keys.length < SHRINK_CARDINALITY / 2
  | some allowList => ∃ active : Finset Signature, active.card ≤ SHRINK_CARDINALITY / 2 ∧
      allowList ⊆ active ∧ (∀ sig ∈ s.sampler.seen, sig ∈ active ∪ folded) ∧
      sig ∈ active ∪ folded

theorem ready_shrink {s : RateLimitedSampler S D} (h : s.Bounded) (sig : Signature) :
    (s.shrink sig).1.Ready (s.shrink sig).2 := by
  obtain ⟨tracked, bound⟩ := h
  unfold shrink
  by_cases small : s.sampler.size < SHRINK_CARDINALITY / 2
  · simp only [small, if_true]
    exact ⟨tracked, small⟩
  simp only [small, if_false]
  refine ⟨tracked, ?_⟩
  have admitted {active allowList : Finset Signature} (sub : allowList ⊆ active) :
      (if sig ∈ allowList then sig else sig % UInt64.ofNat (SHRINK_CARDINALITY / 2)) ∈
        active ∪ folded := by
    split
    · exact Finset.mem_union_left _ (sub ‹_›)
    · exact Finset.mem_union_right _ (mod_mem_folded sig)
  cases hlist : s.shrinkAllowList with
  | some allowList =>
    -- the hundred of the snapshot still contain what is not folded
    obtain ⟨active, card, sub, covers⟩ : ∃ active : Finset Signature, _ := by
      simpa only [hlist] using bound
    exact ⟨active, card, sub, covers, admitted sub⟩
  | none =>
    -- a new snapshot: the signatures tracked now
    simp only [hlist] at bound
    have sub : s.sampler.rates.keys.toFinset ⊆ s.sampler.seen.keys.toFinset := by
      intro sig hsig
      exact List.mem_toFinset.2 (tracked sig (List.mem_toFinset.1 hsig))
    have covers : ∀ sig ∈ s.sampler.seen, sig ∈ s.sampler.seen.keys.toFinset ∪ folded := by
      intro sig hsig
      exact Finset.mem_union_left _ (List.mem_toFinset.2 hsig)
    exact ⟨s.sampler.seen.keys.toFinset, (List.toFinset_card_le _).trans bound, sub, covers,
      admitted sub⟩

variable [Zero S] [Add S] [LT S] [DecidableLT S] [Widen S D] [Zero D] [One D] [Sub D] [Mul D]
  [Div D] [NatCast D] [OfScientific D] [LT D] [DecidableLT D] [LE D] [DecidableLE D] [BEq D]

theorem bounded_count {s : RateLimitedSampler S D} {sig : Signature} (h : s.Ready sig) (now : Int)
    (n : S) : { s with sampler := (s.sampler.countWeightedSig now sig n).1 }.Bounded := by
  obtain ⟨tracked, bound⟩ := h
  refine ⟨Sampler.ratesTracked_countWeightedSig tracked now sig n, ?_⟩
  cases hlist : s.shrinkAllowList with
  | none =>
    simp only [hlist] at bound ⊢
    have sub : (s.sampler.countWeightedSig now sig n).1.seen.keys ⊆ sig :: s.sampler.seen.keys := by
      intro other hother
      exact List.mem_cons.2 (Sampler.mem_seen_of_mem_countWeightedSig hother)
    exact ((AList.keys_nodup _).subperm sub).length_le.trans bound
  | some allowList =>
    simp only [hlist] at bound ⊢
    obtain ⟨active, card, sub, covers, admitted⟩ := bound
    refine ⟨active, card, sub, ?_⟩
    intro other hother
    rcases Sampler.mem_seen_of_mem_countWeightedSig hother with rfl | hother
    · exact admitted
    · exact covers other hother

/-! ## The sampler -/

variable [Max S] [Narrow S D] [Double D]

def new (config : ErrorSamplerConfig D) : RateLimitedSampler S D where
  sampler := .new config.extraSampleRate config.targetTps
  disabled := config.targetTps ≤ 0
  shrinkAllowList := none

def applySampleRate (trace : TraceView D) (rate : D) : SampleDecision D :=
  if sampleByRate trace.traceId (clientRate trace * rate) then .keep rate else .drop

/-- Count a trace and decide whether to rescue it. -/
def sample (s : RateLimitedSampler S D) (nowUnixSecs : Int) (trace : TraceView D) :
    RateLimitedSampler S D × SampleDecision D :=
  if guard : s.disabled = false ∧ trace.rootIndex < trace.spans.length then
    let signature :=
      computeSignatureWithRootAndEnv trace.spans trace.rootIndex guard.2 trace.env
    let (s, signature) := s.shrink signature
    let (sampler, _) := s.sampler.countWeightedSig nowUnixSecs signature (weightRoot trace)
    let rate := sampler.getSignatureSampleRate signature
    ({ s with sampler }, applySampleRate trace rate)
  else (s, .drop)

/-- The state after sampling one trace after the other. -/
def run (s : RateLimitedSampler S D) (traces : List (Int × TraceView D)) : RateLimitedSampler S D :=
  traces.foldl (fun s (now, trace) => (s.sample now trace).1) s

/-! ## What a run keeps -/

theorem bounded_sample {s : RateLimitedSampler S D} (h : s.Bounded) (now : Int)
    (trace : TraceView D) : (s.sample now trace).1.Bounded := by
  unfold sample
  split
  · exact bounded_count (ready_shrink h _) now _
  · exact h

theorem bounded_run {s : RateLimitedSampler S D} (h : s.Bounded)
    (traces : List (Int × TraceView D)) : (s.run traces).Bounded := by
  induction traces generalizing s with
  | nil => exact h
  | cons call rest ih => exact ih (bounded_sample h call.1 call.2)

/-- Whatever is sampled, and whenever, the window holds at most `SHRINK_CARDINALITY` distinct
signatures. -/
theorem run_size_le (config : ErrorSamplerConfig D) (traces : List (Int × TraceView D)) :
    ((new config : RateLimitedSampler S D).run traces).sampler.size ≤ SHRINK_CARDINALITY := by
  have start : (new config : RateLimitedSampler S D).Bounded := by
    refine ⟨?_, Nat.zero_le _⟩
    intro sig h
    exact absurd h (AList.notMem_empty _)
  exact size_le_of_bounded (bounded_run start traces)

end RateLimitedSampler

end ServerlessComponents.TraceSampler
