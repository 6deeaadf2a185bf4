import ServerlessComponents.Dogstatsd.Payload

/-!
# Shipping one batch to the intake

`DdApi` of `datadog/shipping.rs`: a batch is encoded, wrapped in a request and posted until an
attempt succeeds or the retry strategy gives up. What the network does is a `Wire`: the answer
to every attempt of one request, chosen by the environment.
-/
namespace ServerlessComponents.Dogstatsd

structure StatusCode where
  asU16 : Nat
  deriving DecidableEq, Repr

namespace StatusCode

def accepted : StatusCode := ⟨202⟩
def isSuccess (s : StatusCode) : Bool := 200 ≤ s.asU16 && s.asU16 < 300

/-- The 4xx range, which the flusher calls a permanent error. -/
def isPermanentError (s : StatusCode) : Bool := s.asU16 ≥ 400 && s.asU16 < 500

theorem not_permanent_of_success {s : StatusCode} (h : s.isSuccess = true) :
    s.isPermanentError = false := by
  simp [isSuccess, isPermanentError] at *
  omega

end StatusCode

structure Response where
  status : StatusCode
  deriving DecidableEq, Repr

/-- A `reqwest::Error`: a timeout or a transport failure, with a status when it has one. -/
structure TransportError where
  status : Option StatusCode
  deriving DecidableEq, Repr

inductive ShippingError where
  | payload (msg : String)
  | destination (status : Option StatusCode) (msg : String)
  deriving DecidableEq, Repr

/-- What one call of `ship_series` or `ship_distributions` returns. -/
abbrev ShipResult := Except ShippingError Response

inductive RetryStrategy where
  | immediate (attempts : Nat)
  | linearBackoff (attempts delay : Nat)
  deriving DecidableEq, Repr

def RetryStrategy.maxAttempts : RetryStrategy → Nat
  | .immediate attempts => attempts
  | .linearBackoff attempts _ => attempts

/-- The environment of one request, indexed by the attempt (counted from 1): whether the
request builder can be cloned and what sending it gives. -/
structure Wire where
  tryClone : Nat → Bool
  send : Nat → Except TransportError Response

/-- A request as it is posted. -/
structure Request where
  url : String
  apiKey : String
  contentType : String
  zstd : Bool
  body : List UInt8
  deriving DecidableEq, Repr

/-- The encoders of third-party crates: JSON, protobuf and zstd. -/
structure Encoders (V B : Type) where
  seriesToVec : Series V → Except String (List UInt8)
  sketchesToBytes : SketchPayload B → Except String (List UInt8)
  zstd : Int → List UInt8 → Option (List UInt8)

structure DdApi where
  apiKey : String
  metricsIntakeUrlPrefix : String
  retryStrategy : RetryStrategy
  compressionLevel : Int
  deriving DecidableEq, Repr

/-- The guard `Ok(response) if response.status().is_success()`. -/
def succeeded : Except TransportError Response → Option Response
  | .ok response => if response.status.isSuccess then some response else none
  | .error _ => none

/-- The status reported after the last attempt, missing after a timeout. -/
def lastStatus : Except TransportError Response → Option StatusCode
  | .ok response => some response.status
  | .error err => err.status

/-- The loop of `send_with_retry`, about to make attempt number `attempts`. -/
def sendAttempt (strategy : RetryStrategy) (wire : Wire) (attempts : Nat) : ShipResult :=
  if wire.tryClone attempts = false then
    .error (.destination none "Failed to clone request")
  else
    match succeeded (wire.send attempts) with
    | some response => .ok response
    | none =>
      if strategy.maxAttempts ≤ attempts then
        .error (.destination (lastStatus (wire.send attempts))
          s!"Failed to send request after {attempts} attempts")
      else sendAttempt strategy wire (attempts + 1)
termination_by strategy.maxAttempts - attempts

def sendWithRetry (strategy : RetryStrategy) (wire : Wire) : ShipResult :=
  sendAttempt strategy wire 1

namespace DdApi

variable {V B : Type}

/-- The request `ship_data` builds: zstd-compressed unless compression fails. -/
def request (api : DdApi) (enc : Encoders V B) (url : String) (body : List UInt8)
    (contentType : String) : Request :=
  match enc.zstd api.compressionLevel body with
  | some compressed => ⟨url, api.apiKey, contentType, true, compressed⟩
  | none => ⟨url, api.apiKey, contentType, false, body⟩

/-- What a call ships: the request it posts, when the batch can be encoded, and its result. -/
structure Shipment where
  request : Option Request
  result : ShipResult

def shipData (api : DdApi) (enc : Encoders V B) (wire : Wire) (url : String)
    (body : List UInt8) (contentType : String) : Shipment :=
  ⟨some (api.request enc url body contentType), sendWithRetry api.retryStrategy wire⟩

def shipSeries (api : DdApi) (enc : Encoders V B) (series : Series V) (wire : Wire) : Shipment :=
  match enc.seriesToVec series with
  | .error e => ⟨none, .error (.payload s!"Failed to serialize series: {e}")⟩
  | .ok body =>
    api.shipData enc wire s!"{api.metricsIntakeUrlPrefix}/api/v2/series" body "application/json"

def shipDistributions (api : DdApi) (enc : Encoders V B) (sketches : SketchPayload B)
    (wire : Wire) : Shipment :=
  match enc.sketchesToBytes sketches with
  | .error e => ⟨none, .error (.payload s!"Failed to serialize sketches: {e}")⟩
  | .ok body =>
    api.shipData enc wire s!"{api.metricsIntakeUrlPrefix}/api/beta/sketches" body
      "application/x-protobuf"

end DdApi

/-! ## When a request ends with a given answer -/

/-- The request is answered with success for the first time at attempt `k`, and with `status`:
every earlier attempt was made and failed. -/
def Wire.FirstSuccess (wire : Wire) (k : Nat) (status : StatusCode) : Prop :=
  wire.send k = .ok ⟨status⟩ ∧ status.isSuccess = true ∧
    ∀ j, 1 ≤ j → j ≤ k → wire.tryClone j = true ∧ (j < k → succeeded (wire.send j) = none)

/-- The intake answers the request with `status`, a success, within the allowed attempts. -/
def Wire.Answers (wire : Wire) (strategy : RetryStrategy) (status : StatusCode) : Prop :=
  ∃ k, 1 ≤ k ∧ k ≤ max 1 strategy.maxAttempts ∧ wire.FirstSuccess k status

theorem succeeded_eq_some {r : Except TransportError Response} {response : Response} :
    succeeded r = some response ↔ r = .ok response ∧ response.status.isSuccess = true := by
  cases r with
  | error err => simp [succeeded]
  | ok a =>
    simp only [succeeded, Option.ite_none_right_eq_some, Option.some.injEq, Except.ok.injEq]
    constructor
    · rintro ⟨h, rfl⟩; exact ⟨rfl, h⟩
    · rintro ⟨rfl, h⟩; exact ⟨h, rfl⟩

/-- The loop from attempt `a` succeeds exactly with the first successful answer from there. -/
theorem sendAttempt_ok_iff (strategy : RetryStrategy) (wire : Wire) (a : Nat) (r : Response) :
    sendAttempt strategy wire a = .ok r ↔
      ∃ k, a ≤ k ∧ k ≤ max a strategy.maxAttempts ∧ succeeded (wire.send k) = some r ∧
        ∀ j, a ≤ j → j ≤ k → wire.tryClone j = true ∧
          (j < k → succeeded (wire.send j) = none) := by
  induction a using sendAttempt.induct strategy wire with
  | case1 a uncloned =>
    rw [sendAttempt, if_pos uncloned]
    refine ⟨nofun, ?_⟩
    rintro ⟨k, hk, -, -, h⟩
    exact absurd (h a (Nat.le_refl a) hk).1 (by simp [uncloned])
  | case2 a cloned response hs =>
    rw [sendAttempt, if_neg cloned, hs]
    constructor
    · rintro ⟨rfl⟩
      refine ⟨a, Nat.le_refl a, by omega, hs, ?_⟩
      intro j hj hj'
      obtain rfl : j = a := by omega
      exact ⟨by simpa using cloned, fun h => absurd h (Nat.lt_irrefl _)⟩
    · rintro ⟨k, hk, -, hr, h⟩
      obtain rfl | hlt := Nat.eq_or_lt_of_le hk
      · rw [hs] at hr; rw [Option.some.inj hr]
      · exact absurd ((h a (Nat.le_refl a) hk).2 hlt) (by simp [hs])
  | case3 a cloned hs last =>
    rw [sendAttempt, if_neg cloned, hs]
    simp only [if_pos last]
    refine ⟨nofun, ?_⟩
    rintro ⟨k, hk, hk', hr, -⟩
    obtain rfl : k = a := by omega
    simp [hs] at hr
  | case4 a cloned hs more ih =>
    rw [sendAttempt, if_neg cloned, hs]
    simp only [if_neg more]
    rw [ih]
    constructor
    · rintro ⟨k, hk, hk', hr, h⟩
      refine ⟨k, by omega, by omega, hr, ?_⟩
      intro j hj hj'
      obtain rfl | hlt := Nat.eq_or_lt_of_le hj
      · exact ⟨by simpa using cloned, fun _ => hs⟩
      · exact h j hlt hj'
    · rintro ⟨k, hk, hk', hr, h⟩
      have hne : a ≠ k := by rintro rfl; simp [hs] at hr
      refine ⟨k, by omega, by omega, hr, ?_⟩
      intro j hj hj'
      exact h j (by omega) hj'

theorem sendWithRetry_ok_iff (strategy : RetryStrategy) (wire : Wire) (r : Response) :
    sendWithRetry strategy wire = .ok r ↔ wire.Answers strategy r.status := by
  obtain ⟨status⟩ := r
  simp only [sendWithRetry, sendAttempt_ok_iff, Wire.Answers, Wire.FirstSuccess,
    succeeded_eq_some, and_assoc]

/-- A request that returns at all returns a success. -/
theorem sendWithRetry_isSuccess {strategy : RetryStrategy} {wire : Wire} {r : Response}
    (h : sendWithRetry strategy wire = .ok r) : r.status.isSuccess = true := by
  obtain ⟨k, -, -, -, hs, -⟩ := (sendWithRetry_ok_iff strategy wire r).1 h
  exact hs

/-- A request never fails with a payload error: those come from encoding. -/
theorem sendWithRetry_ne_payload (strategy : RetryStrategy) (wire : Wire) (msg : String) :
    sendWithRetry strategy wire ≠ .error (.payload msg) := by
  have from_any : ∀ a, sendAttempt strategy wire a ≠ .error (.payload msg) := by
    intro a
    induction a using sendAttempt.induct strategy wire with
    | case1 a uncloned => simp [sendAttempt, uncloned]
    | case2 a cloned response hs => simp [sendAttempt, cloned, hs]
    | case3 a cloned hs last => simp [sendAttempt, cloned, hs, last]
    | case4 a cloned hs more ih =>
      rw [sendAttempt, if_neg cloned, hs]
      simpa only [if_neg more] using ih
  exact from_any 1

end ServerlessComponents.Dogstatsd
