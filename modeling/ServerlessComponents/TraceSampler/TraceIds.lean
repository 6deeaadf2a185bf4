import Mathlib.Algebra.Order.Floor.Ring
import Mathlib.Data.Rat.Floor
import Mathlib.Order.Interval.Set.Nat
import ServerlessComponents.TraceSampler.RateLimited

/-!
# The decision by trace ID

The factor of the hash is odd, so multiplying by it permutes the trace IDs, and as many are kept as
the threshold says. The thresholds grow with the rates: what one rate keeps every higher one keeps.
-/
namespace ServerlessComponents.TraceSampler

/-! ## The permutation of the trace IDs -/

theorem ncard_lt (threshold : UInt64) : {id : UInt64 | id < threshold}.ncard = threshold.toNat := by
  have numbers : UInt64.toNat '' {id : UInt64 | id < threshold} = Set.Iio threshold.toNat := by
    ext n
    constructor
    · rintro ⟨id, below, rfl⟩
      exact UInt64.lt_iff_toNat_lt.1 below
    · intro below
      have small : n < 2 ^ 64 := (Set.mem_Iio.1 below).trans threshold.toNat_lt
      have back : (UInt64.ofNat n).toNat = n := UInt64.toNat_ofNat_of_lt' small
      exact ⟨UInt64.ofNat n, UInt64.lt_iff_toNat_lt.2 (by rwa [back]), back⟩
  have injective : Function.Injective UInt64.toNat := fun _ _ => UInt64.toNat_inj.1
  rw [← Set.ncard_image_of_injective _ injective, numbers, Set.ncard_Iio_nat]

section Wrapping

variable {factor inverse : UInt64} (inverts : factor * inverse = 1)

include inverts

theorem mul_factor_mul_inverse (id : UInt64) : id * factor * inverse = id := by
  rw [UInt64.mul_assoc, inverts, UInt64.mul_one]

theorem mul_inverse_mul_factor (id : UInt64) : id * inverse * factor = id := by
  rw [UInt64.mul_assoc, UInt64.mul_comm inverse, inverts, UInt64.mul_one]

/-- As many products with an invertible factor lie below a threshold as numbers do. -/
theorem ncard_mul_lt (threshold : UInt64) :
    {id : UInt64 | id * factor < threshold}.ncard = threshold.toNat := by
  have image : (· * inverse) '' {id : UInt64 | id < threshold} =
      {id : UInt64 | id * factor < threshold} := by
    ext id
    constructor
    · rintro ⟨hashed, below, rfl⟩
      have back := mul_inverse_mul_factor inverts hashed
      exact show hashed * inverse * factor < threshold from back.symm ▸ below
    · intro below
      exact ⟨id * factor, below, mul_factor_mul_inverse inverts id⟩
  have back : Function.LeftInverse (fun id : UInt64 => id * factor) fun id => id * inverse :=
    mul_inverse_mul_factor inverts
  rw [← image, Set.ncard_image_of_injective _ back.injective, ncard_lt]

end Wrapping

/-- The inverse of `SAMPLER_HASHER` modulo 2^64. -/
def SAMPLER_UNHASHER : UInt64 := 3396998997810348023

theorem hasher_mul_unhasher : SAMPLER_HASHER * SAMPLER_UNHASHER = 1 := by decide +kernel

/-! ## The decision -/

section Decision

variable {D : Type*} [Double D] [One D] [Mul D] [LT D] [DecidableLT D]

/-- The integer threshold of a rate. -/
def threshold (rate : D) : UInt64 := Double.toU64 (rate * Double.ofU64 (UInt64.ofNat (2 ^ 64 - 1)))

theorem sampleByRate_iff {id : UInt64} {rate : D} :
    sampleByRate id rate = true ↔ (rate < 1 → id * SAMPLER_HASHER < threshold rate) := by
  rw [sampleByRate, threshold]
  split <;> simp [*]

theorem ncard_sampleByRate {rate : D} (below : rate < 1) :
    {id | sampleByRate id rate = true}.ncard = (threshold rate).toNat := by
  rw [← ncard_mul_lt hasher_mul_unhasher]
  congr 1
  ext id
  rw [Set.mem_ofPred_eq, Set.mem_ofPred_eq, sampleByRate_iff]
  exact forall_prop_of_true below

/-- What is taken of the comparison and conversion of rates. -/
structure MonotoneRates (D : Type*) [Double D] [One D] [Mul D] [LT D] [LE D] : Prop where
  lt_of_le_of_lt : ∀ a b c : D, a ≤ b → b < c → a < c
  threshold : ∀ a b : D, a ≤ b → threshold a ≤ threshold b

variable [LE D]

theorem sampleByRate_of_le (monotone : MonotoneRates D) {id : UInt64} {rate rate' : D}
    (le : rate ≤ rate') (kept : sampleByRate id rate = true) : sampleByRate id rate' = true := by
  rw [sampleByRate_iff] at kept ⊢
  intro below'
  have below : rate < 1 := monotone.lt_of_le_of_lt rate rate' 1 le below'
  exact UInt64.lt_of_lt_of_le (kept below) (monotone.threshold rate rate' le)

/-- Whether a chunk is kept when the sampler gives it this rate. -/
def keeps [Zero D] [Div D] [DecidableLE D] (trace : TraceView D) (rate : D) : Prop :=
  RateLimitedSampler.applySampleRate trace rate = .keep rate

theorem keeps_iff [Zero D] [Div D] [DecidableLE D] {trace : TraceView D} {rate : D} :
    keeps trace rate ↔ sampleByRate trace.traceId (clientRate trace * rate) = true := by
  rw [keeps, RateLimitedSampler.applySampleRate]
  split <;> simp [*]

/-- A rate below 1 keeps exactly as many trace IDs as its threshold says, any other rate keeps all;
a higher rate keeps what a lower one keeps; and chunks of one trace that see different rates are all
kept exactly when the trace is kept at the lowest of them. -/
theorem sampleByRate_exact_nested [Zero D] [Div D] [DecidableLE D] (monotone : MonotoneRates D) :
    (∀ rate : D, rate < 1 → {id | sampleByRate id rate = true}.ncard = (threshold rate).toNat) ∧
    (∀ rate : D, ¬ rate < 1 → ∀ id, sampleByRate id rate = true) ∧
    (∀ (rate rate' : D) (id : UInt64), rate ≤ rate' → sampleByRate id rate = true →
      sampleByRate id rate' = true) ∧
    ∀ (id : UInt64) (chunks : List (TraceView D × D)) (lowest : D),
      (∀ c ∈ chunks, c.1.traceId = id) →
      lowest ∈ chunks.map (fun c => clientRate c.1 * c.2) →
      (∀ rate ∈ chunks.map (fun c => clientRate c.1 * c.2), lowest ≤ rate) →
      ((∀ c ∈ chunks, keeps c.1 c.2) ↔ sampleByRate id lowest = true) := by
  refine ⟨fun rate below => ncard_sampleByRate below, ?_, ?_, ?_⟩
  · intro rate above id
    exact sampleByRate_iff.2 fun below => absurd below above
  · intro rate rate' id le kept
    exact sampleByRate_of_le monotone le kept
  · intro id chunks lowest same mem least
    constructor
    · intro all
      obtain ⟨c, hc, rfl⟩ := List.mem_map.1 mem
      have kept := keeps_iff.1 (all c hc)
      rwa [same c hc] at kept
    · intro kept c hc
      rw [keeps_iff, same c hc]
      exact sampleByRate_of_le monotone (least _ (List.mem_map_of_mem hc)) kept

end Decision

/-! ## Exact rates -/

section Exact

/-- Exact numbers that are converted as `f64` is: integers are rounded to 53 bits, and `as u64`
truncates and saturates. -/
local instance saturating : Double ℚ where
  isFinite _ := true
  toU64 q := UInt64.ofNat (min q.floor.toNat (2 ^ 64 - 1))
  ofU64 n :=
    let unit := 2 ^ (n.toNat.log2 - 52)
    (((n.toNat + unit / 2) / unit * unit : Nat) : ℚ)

theorem monotoneRates_saturating : MonotoneRates ℚ where
  lt_of_le_of_lt _ _ _ := lt_of_le_of_lt
  threshold a b le := by
    have scaled (factor : ℚ) (nonneg : 0 ≤ factor) : Double.toU64 (a * factor) ≤
        Double.toU64 (b * factor) := by
      have floors : (a * factor).floor ≤ (b * factor).floor :=
        Int.floor_le_floor (mul_le_mul_of_nonneg_right le nonneg)
      rw [UInt64.le_iff_toNat_le]
      simp only [Double.toU64, UInt64.toNat_ofNat']
      omega
    exact scaled _ (Nat.cast_nonneg _)

def chunkOf (traceId : UInt64) (rootGlobalSampleRate : ℚ) : TraceView ℚ where
  env := "prod"
  traceId := traceId
  rootIndex := 0
  rootGlobalSampleRate := rootGlobalSampleRate
  spans := []

/-- Half of the trace IDs are kept at 1/2; chunks at 1/2 and at 1/2 · 1/2 are kept together exactly
at a quarter. -/
theorem sampleByRate_exact_nested_half :
    {id | sampleByRate id (1 / 2 : ℚ) = true}.ncard = 2 ^ 63 ∧
    ((∀ c ∈ [(chunkOf 3 1, (1 / 2 : ℚ)), (chunkOf 3 (1 / 2), 1 / 2)], keeps c.1 c.2) ↔
      sampleByRate 3 (1 / 4 : ℚ) = true) :=
  ⟨((sampleByRate_exact_nested monotoneRates_saturating).1 (1 / 2) (by norm_num)).trans
      (by decide +kernel),
    (sampleByRate_exact_nested monotoneRates_saturating).2.2.2 3 _ (1 / 4) (by decide +kernel)
      (by decide +kernel) (by decide +kernel)⟩

end Exact

end ServerlessComponents.TraceSampler
