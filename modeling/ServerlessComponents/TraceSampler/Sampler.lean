import ServerlessComponents.Library.AssocMap
import ServerlessComponents.TraceSampler.Signature

/-!
# The core sampler

`Sampler` (`score_sampler.rs`) counts traces by signature in a circular buffer of six buckets and
derives a sampling rate for each signature when a new bucket begins. Counts have the type `S`
(`f32`), rates the type `D` (`f64`).
-/
namespace ServerlessComponents.TraceSampler

def BUCKET_DURATION_SECS : Nat := 5

abbrev NUM_BUCKETS : Nat := 6

def SHRINK_CARDINALITY : Nat := 200

abbrev Buckets (S : Type*) := Fin NUM_BUCKETS → S

structure Sampler (S D : Type*) where
  seen : AList fun _ : Signature => Buckets S
  allSigsSeen : Buckets S
  lastBucketId : Int
  rates : AList fun _ : Signature => D
  lowestRate : D
  targetTps : D
  extraRate : D

/-- `rem_euclid`, for any `i64`. -/
def bucketIndex (bucketId : Int) : Fin NUM_BUCKETS :=
  ⟨(bucketId % NUM_BUCKETS).toNat, by simp only [NUM_BUCKETS]; omega⟩

section Counting

variable {S : Type*} [Zero S] [LT S] [DecidableLT S]

/-- One iteration of the loop of `zero_and_get_max`. -/
def zeroAndGetMaxStep (newBucket : Int) : S × Buckets S → Int → S × Buckets S
  | (maxBucket, buckets), i =>
    let index := bucketIndex i
    if i < newBucket then (maxBucket, Function.update buckets index 0)
    else
      let value := buckets index
      let maxBucket := if maxBucket < value then value else maxBucket
      (maxBucket, if i = newBucket then Function.update buckets index 0 else buckets)

/-- Zero the expired buckets and return the largest count of the live window. -/
def zeroAndGetMax (buckets : Buckets S) (previousBucket newBucket : Int) : S × Buckets S :=
  ((List.range NUM_BUCKETS).map fun k : Nat => previousBucket + 1 + k).foldl
    (zeroAndGetMaxStep newBucket) (0, buckets)

end Counting

section Rates

variable {D : Type*} [Zero D] [One D] [Sub D] [Mul D] [Div D] [NatCast D] [OfScientific D]
  [LT D] [DecidableLT D] [LE D] [DecidableLE D] [BEq D]

def MAX_RATE_INCREASE : D := 1.2

/-- The loop of `compute_tps_per_sig` over the sorted counts that remain. -/
def computeTpsPerSigLoop (targetTps sigTarget : D) : List D → D
  | [] => sigTarget
  | c :: rest =>
    if sigTarget ≤ c ∨ rest = [] then sigTarget
    else
      let targetTps := targetTps - c
      computeTpsPerSigLoop targetTps (targetTps / rest.length) rest

/-- Spread the target evenly, giving what the small signatures leave to the others. -/
def computeTpsPerSig (targetTps : D) (seen : List D) : D :=
  let sorted := seen.insertionSort fun a b => ¬ b < a
  computeTpsPerSigLoop targetTps (targetTps / sorted.length) sorted

/-- The rate that gives a signature its share of the target. -/
def shareRate (tpsPerSig seen : D) : D :=
  if tpsPerSig < seen ∧ 0 < seen then tpsPerSig / seen else 1

/-- Whether a rate grows by more than the 20% one evaluation allows. -/
def heldBack (prevRate : Option D) (rate : D) : Bool :=
  match prevRate with
  | some prevRate => prevRate != 0 && MAX_RATE_INCREASE < rate / prevRate
  | none => false

def capIncrease (prevRate : Option D) (rate : D) : D :=
  match prevRate with
  | some prevRate => if heldBack (some prevRate) rate then prevRate * MAX_RATE_INCREASE else rate
  | none => rate

/-- The rate of a signature in the loop of `update_rates`. -/
def signatureRate (tpsPerSig seen : D) (prevRate : Option D) : D :=
  let rate := capIncrease prevRate (shareRate tpsPerSig seen)
  if 1 < rate then 1 else rate

end Rates

namespace Sampler

variable {S D : Type*} [Zero S] [Add S] [LT S] [DecidableLT S] [Max S] [Widen S D]
  [Zero D] [One D] [Sub D] [Mul D] [Div D] [NatCast D] [OfScientific D]
  [LT D] [DecidableLT D] [LE D] [DecidableLE D] [BEq D]

def new (extraRate targetTps : D) : Sampler S D where
  seen := ∅
  allSigsSeen := fun _ => 0
  lastBucketId := 0
  rates := ∅
  lowestRate := 0
  targetTps := targetTps
  extraRate := extraRate

/-- What the second loop of `update_rates` changes. -/
structure RateLoop (S D : Type*) where
  seen : AList fun _ : Signature => Buckets S
  rates : AList fun _ : Signature => D
  lowestRate : D

/-- A signature with rate 1 and no traffic is cleaned up from the sampler. -/
def isIdle (rate seen : D) : Bool := rate == 1 && seen == 0

def rateLoopStep (tpsPerSig : D) (prevRates : AList fun _ : Signature => D) (acc : RateLoop S D) :
    (Σ _ : Signature, D) → RateLoop S D
  | ⟨sig, seen⟩ =>
    let rate := signatureRate tpsPerSig seen (prevRates.lookup sig)
    if isIdle rate seen then { acc with seen := acc.seen.erase sig }
    else
      { acc with
        rates := acc.rates.insert sig rate
        lowestRate := if rate < acc.lowestRate then rate else acc.lowestRate }

/-- Traces per second: the largest bucket over the length of a bucket. -/
def bucketTps (buckets : Buckets S) (previousBucket newBucket : Int) : D :=
  Widen.widen (zeroAndGetMax buckets previousBucket newBucket).1 / (BUCKET_DURATION_SECS : D)

def observedTps (s : Sampler S D) (previousBucket newBucket : Int) : AList fun _ : Signature => D :=
  s.seen.mapValues fun _ buckets => bucketTps buckets previousBucket newBucket

/-- The share of the target each signature may use. -/
def tpsPerSig (s : Sampler S D) (previousBucket newBucket : Int) : D :=
  computeTpsPerSig s.targetTps ((s.observedTps previousBucket newBucket).entries.map (·.2))

def updateRates (s : Sampler S D) (previousBucket newBucket : Int) : Sampler S D :=
  if s.seen.entries.isEmpty then s
  else
    let rotated := s.seen.mapValues fun _ buckets =>
      (zeroAndGetMax buckets previousBucket newBucket).2
    let loop := (s.observedTps previousBucket newBucket).entries.foldl
      (rateLoopStep (s.tpsPerSig previousBucket newBucket) s.rates) ⟨rotated, ∅, 1⟩
    { s with
      seen := loop.seen
      allSigsSeen := (zeroAndGetMax s.allSigsSeen previousBucket newBucket).2
      rates := loop.rates
      lowestRate := loop.lowestRate }

/-- Division of an `i64`, which truncates toward zero. -/
def bucketOf (nowUnixSecs : Int) : Int := nowUnixSecs.tdiv BUCKET_DURATION_SECS

/-- Begin the bucket of `nowUnixSecs`, updating the rates when it is a new one. -/
def enterBucket (s : Sampler S D) (nowUnixSecs : Int) : Sampler S D × Bool :=
  let bucketId := bucketOf nowUnixSecs
  let prevBucketId := s.lastBucketId
  let s := { s with lastBucketId := bucketId }
  if prevBucketId ≠ bucketId then (s.updateRates prevBucketId bucketId, true) else (s, false)

def countWeightedSig (s : Sampler S D) (nowUnixSecs : Int) (signature : Signature) (n : S) :
    Sampler S D × Bool :=
  let (s, updateRates) := s.enterBucket nowUnixSecs
  let idx := bucketIndex (bucketOf nowUnixSecs)
  let buckets := (s.seen.lookup signature).getD fun _ => 0
  ({ s with
      seen := s.seen.insert signature (Function.update buckets idx (buckets idx + n))
      allSigsSeen := Function.update s.allSigsSeen idx (s.allSigsSeen idx + n) },
    updateRates)

/-- Rate of the unknown signatures. -/
def defaultRate (s : Sampler S D) : D :=
  if s.targetTps == 0 then 0
  else
    let maxSeen := (List.ofFn s.allSigsSeen).foldl max 0
    let seenTps : D := Widen.widen maxSeen / (BUCKET_DURATION_SECS : D)
    let rate := if s.targetTps < seenTps ∧ 0 < seenTps then s.targetTps / seenTps else 1
    if s.lowestRate < rate ∧ (s.lowestRate != 0) = true then s.lowestRate else rate

def getSignatureSampleRate (s : Sampler S D) (sig : Signature) : D :=
  match s.rates.lookup sig with
  | some rate => rate * s.extraRate
  | none => s.defaultRate

def size (s : Sampler S D) : Nat := s.seen.keys.length

end Sampler

end ServerlessComponents.TraceSampler
