import Mathlib.Data.List.Perm.Basic
import ServerlessComponents.Dogstatsd.Shipping
import ServerlessComponents.Library.Numbered
import ServerlessComponents.LogsAgent.Aggregator

/-!
# The log flusher

`LogFlusher` of the logs agent's `flusher.rs`: the builders of the previous flush are sent again,
then the batches of the aggregator are shipped to the primary endpoint and to the additional ones.
A builder carries the number of the batch it was made for, which no function here looks at; the
sendings of one flush share nothing, so they are listed one after the other.
-/
namespace ServerlessComponents.LogsAgent

open Dogstatsd (StatusCode)

def maxFlushAttempts : Nat := 3

inductive Destination where
  | datadog
  | observabilityPipelinesWorker (url : String)
  deriving DecidableEq, Repr

structure LogsAdditionalEndpoint where
  apiKey : String
  url : String
  isReliable : Bool
  deriving DecidableEq, Repr

structure LogFlusherConfig where
  apiKey : String
  site : String
  mode : Destination
  additionalEndpoints : List LogsAdditionalEndpoint
  useCompression : Bool
  compressionLevel : Int
  flushTimeout : Nat
  deriving DecidableEq, Repr

/-- The `RequestBuilder` that `ship_batch` fills. -/
structure RequestBuilder where
  url : String
  timeout : Nat
  apiKey : String
  contentType : String
  ddProtocol : Option String
  contentEncoding : Option String
  body : Bytes
  deriving DecidableEq, Repr

/-- What one `send_with_retry` meets, by attempt (counted from 1): whether the builder can be
cloned and what sending the clone gives. -/
structure Sends where
  tryClone : Nat → Bool
  send : Nat → Except String StatusCode

/-! ## Sending one builder -/

/-- How `send_with_retry` ends: `Ok` after a success, `Ok` after giving the batch up, or `Err`. -/
inductive Fate where
  | delivered
  | dropped
  | failed
  deriving DecidableEq, Repr

/-- A builder with the end of its sending and the number of requests made. -/
structure Sending (R : Type) where
  builder : R
  fate : Fate
  attempts : Nat

/-- 408, 425 and 429. -/
def retryable4xx (status : StatusCode) : Bool :=
  status.asU16 = 408 || status.asU16 = 425 || status.asU16 = 429

/-- The loop of `send_with_retry`, about to make attempt number `attempts`. -/
def sendAttempt (sends : Sends) (attempts : Nat) : Fate × Nat :=
  if sends.tryClone attempts = false then (.dropped, attempts - 1)
  else
    match sends.send attempts with
    | .ok status =>
      if status.isSuccess then (.delivered, attempts)
      else if status.isPermanentError && !retryable4xx status then (.dropped, attempts)
      else if maxFlushAttempts ≤ attempts then (.failed, attempts)
      else sendAttempt sends (attempts + 1)
    | .error _ =>
      if maxFlushAttempts ≤ attempts then (.failed, attempts)
      else sendAttempt sends (attempts + 1)
termination_by maxFlushAttempts - attempts

def sendWithRetry {R : Type} (sends : Sends) (builder : R) : Sending R :=
  let (fate, attempts) := sendAttempt sends 1
  ⟨builder, fate, attempts⟩

/-- The builder that comes back from `send_with_retry`. -/
def Sending.err {R : Type} (s : Sending R) : Option R :=
  if s.fate = .failed then some s.builder else none

/-! ## One flush -/

/-- `compress_zstd`: the compressed bytes, or nothing when the encoder fails. -/
abbrev Compress := Int → Bytes → Option Bytes

def resolveEndpoint (config : LogFlusherConfig) : String × Bool :=
  match config.mode with
  | .datadog => (s!"https://http-intake.logs.{config.site}/api/v2/logs", config.useCompression)
  | .observabilityPipelinesWorker url => (url, false)

/-- The builder `ship_batch` makes for a batch. -/
def requestBuilder (config : LogFlusherConfig) (zstd : Compress) (batch : Bytes) (url : String)
    (compress : Bool) (apiKey : String) (isDatadogIntake : Bool) : RequestBuilder :=
  let (body, contentEncoding) :=
    if compress then
      match zstd config.compressionLevel batch with
      | some compressed => (compressed, some "zstd")
      | none => (batch, none)
    else (batch, none)
  { url, timeout := config.flushTimeout, apiKey, contentType := "application/json"
    ddProtocol := if isDatadogIntake then some "agent-json" else none
    contentEncoding, body }

def primaryBuilder (config : LogFlusherConfig) (zstd : Compress) (batch : Bytes) :
    RequestBuilder :=
  let (url, compress) := resolveEndpoint config
  requestBuilder config zstd batch url compress config.apiKey (config.mode = .datadog)

def additionalBuilder (config : LogFlusherConfig) (zstd : Compress) (batch : Bytes)
    (endpoint : LogsAdditionalEndpoint) : RequestBuilder :=
  requestBuilder config zstd batch endpoint.url config.useCompression endpoint.apiKey true

/-- What one flush meets: the answer of the aggregator, and the network by position in the list
of retries, in the list of batches and among the additional endpoints. -/
structure FlushWorld where
  batches : Except String (List Bytes)
  redrive : Nat → Sends
  primary : Nat → Sends
  additional : Nat → Nat → Sends

/-- The sendings of one flush. -/
structure Flushed where
  redriven : List (Sending (Numbered RequestBuilder))
  primary : List (Sending (Numbered RequestBuilder))
  additional : List (List (Sending RequestBuilder))

/-- The builders for the primary endpoint that the flush of number `cycle` makes. -/
def freshBuilders (config : LogFlusherConfig) (zstd : Compress) (cycle : Nat)
    (world : FlushWorld) : List (Numbered RequestBuilder) :=
  match world.batches with
  | .error _ => []
  | .ok batches => Numbered.ofRound cycle (batches.map (primaryBuilder config zstd))

/-- `LogFlusher::flush`. -/
def flush (config : LogFlusherConfig) (zstd : Compress) (cycle : Nat)
    (retryRequests : List (Numbered RequestBuilder)) (world : FlushWorld) : Flushed where
  redriven := retryRequests.mapIdx fun i builder => sendWithRetry (world.redrive i) builder
  primary := (freshBuilders config zstd cycle world).mapIdx fun i builder =>
    sendWithRetry (world.primary i) builder
  additional :=
    match world.batches with
    | .error _ => []
    | .ok batches =>
      batches.mapIdx fun i batch => config.additionalEndpoints.mapIdx fun j endpoint =>
        sendWithRetry (world.additional i j) (additionalBuilder config zstd batch endpoint)

namespace Flushed

/-- What is sent to the primary endpoint. -/
def toPrimary (flushed : Flushed) : List (Sending (Numbered RequestBuilder)) :=
  flushed.redriven ++ flushed.primary

/-- `failed`, the value of the flush. -/
def returned (flushed : Flushed) : List (Numbered RequestBuilder) :=
  flushed.redriven.filterMap Sending.err ++ flushed.primary.filterMap Sending.err

/-- The builders for the primary endpoint whose sending ended with `fate`. -/
def withFate (flushed : Flushed) (fate : Fate) : List (Numbered RequestBuilder) :=
  (flushed.toPrimary.filter (·.fate = fate)).map Sending.builder

end Flushed

/-! ## How a sending ends -/

/-- An answer after which the loop tries again: no response, or a status that is neither a success
nor a permanent error. -/
def Transient : Except String StatusCode → Prop
  | .ok status => status.isSuccess = false ∧
      (status.isPermanentError = true → retryable4xx status = true)
  | .error _ => True

/-- What the fate of a sending says about its last attempt. -/
inductive EndsAs (sends : Sends) : Fate → Nat → Prop
  | success (k : Nat) (status : StatusCode) (answer : sends.send k = .ok status)
      (success : status.isSuccess = true) : EndsAs sends .delivered k
  | permanent (k : Nat) (status : StatusCode) (answer : sends.send k = .ok status)
      (permanent : status.isPermanentError = true) (final : retryable4xx status = false) :
      EndsAs sends .dropped k
  | uncloned (k : Nat) (uncloned : sends.tryClone (k + 1) = false) : EndsAs sends .dropped k
  | exhausted (transient : Transient (sends.send maxFlushAttempts)) :
      EndsAs sends .failed maxFlushAttempts

/-- From an allowed attempt on, the loop makes at most three attempts and ends as its last answer
says. -/
theorem sendAttempt_endsAs (sends : Sends) (a : Nat) (first : 1 ≤ a)
    (allowed : a ≤ maxFlushAttempts) :
    (sendAttempt sends a).2 ≤ maxFlushAttempts ∧
      EndsAs sends (sendAttempt sends a).1 (sendAttempt sends a).2 := by
  induction a using sendAttempt.induct sends with
  | case1 a uncloned =>
    rw [sendAttempt, if_pos uncloned]
    refine ⟨Nat.le_trans (Nat.sub_le a 1) allowed, .uncloned (a - 1) ?_⟩
    rwa [Nat.sub_add_cancel first]
  | case2 a cloned status answer success =>
    rw [sendAttempt, if_neg cloned, answer]
    simp only [success, if_true]
    exact ⟨allowed, .success a status answer success⟩
  | case3 a cloned status answer failed permanent =>
    rw [sendAttempt, if_neg cloned, answer]
    simp only [failed, permanent, if_true, Bool.false_eq_true, if_false]
    rw [Bool.and_eq_true, Bool.not_eq_true'] at permanent
    exact ⟨allowed, .permanent a status answer permanent.1 permanent.2⟩
  | case4 a cloned status answer failed transient last =>
    obtain rfl : a = maxFlushAttempts := Nat.le_antisymm allowed last
    rw [sendAttempt, if_neg cloned, answer]
    simp only [failed, transient, last, if_true, Bool.false_eq_true, if_false]
    refine ⟨trivial, .exhausted ?_⟩
    rw [answer]
    exact ⟨by simpa using failed, by simpa using transient⟩
  | case5 a cloned status answer failed transient more ih =>
    rw [sendAttempt, if_neg cloned, answer]
    simp only [failed, transient, more, Bool.false_eq_true, if_false]
    exact ih (Nat.le_succ_of_le first) (Nat.lt_of_not_le more)
  | case6 a cloned err answer last =>
    obtain rfl : a = maxFlushAttempts := Nat.le_antisymm allowed last
    rw [sendAttempt, if_neg cloned, answer]
    simp only [last, if_true]
    refine ⟨trivial, .exhausted ?_⟩
    rw [answer]
    trivial
  | case7 a cloned err answer more ih =>
    rw [sendAttempt, if_neg cloned, answer]
    simp only [more, if_false]
    exact ih (Nat.le_succ_of_le first) (Nat.lt_of_not_le more)

theorem sendWithRetry_endsAs {R : Type} (sends : Sends) (builder : R) :
    (sendWithRetry sends builder).attempts ≤ maxFlushAttempts ∧
      EndsAs sends (sendWithRetry sends builder).fate (sendWithRetry sends builder).attempts :=
  sendAttempt_endsAs sends 1 (Nat.le_refl 1) (by decide)

/-! ## What a flush does with its builders -/

/-- Sorted by fate, a list is what it was. -/
theorem perm_fates {R : Type} (sendings : List (Sending R)) :
    sendings.Perm (sendings.filter (·.fate = .delivered) ++ sendings.filter (·.fate = .dropped) ++
      sendings.filter (·.fate = .failed)) := by
  induction sendings with
  | nil => exact .refl _
  | cons s rest ih =>
    have grown := ih.cons s
    cases fate : s.fate with
    | delivered => simpa [fate] using grown
    | dropped =>
      refine grown.trans ?_
      simpa [fate] using List.perm_middle.symm
    | failed =>
      refine grown.trans ?_
      have middle : (rest.filter (·.fate = .delivered) ++ rest.filter (·.fate = .dropped) ++
          s :: rest.filter (·.fate = .failed)).Perm (s :: (rest.filter (·.fate = .delivered) ++
            rest.filter (·.fate = .dropped) ++ rest.filter (·.fate = .failed))) :=
        List.perm_middle
      simpa [fate] using middle.symm

theorem filterMap_err {R : Type} (sendings : List (Sending R)) :
    sendings.filterMap Sending.err = (sendings.filter (·.fate = .failed)).map Sending.builder := by
  induction sendings with
  | nil => rfl
  | cons s rest ih => by_cases failed : s.fate = .failed <;> simp [Sending.err, failed, ih]

section Flush

variable (config : LogFlusherConfig) (zstd : Compress) (cycle : Nat)
  (retryRequests : List (Numbered RequestBuilder)) (world : FlushWorld)

/-- The retries and the fresh builders are sent, each once. -/
theorem flush_builders :
    (flush config zstd cycle retryRequests world).toPrimary.map Sending.builder =
      retryRequests ++ freshBuilders config zstd cycle world := by
  have sent {R : Type} (net : Nat → Sends) (builders : List R) :
      (builders.mapIdx fun i builder => sendWithRetry (net i) builder).map Sending.builder =
        builders := by
    apply List.ext_getElem
    · simp
    · intro i _ _
      simp [sendWithRetry]
  simp [flush, Flushed.toPrimary, sent]

/-- What a flush returns is what it could not deliver and has not given up. -/
theorem flush_returned :
    (flush config zstd cycle retryRequests world).returned =
      (flush config zstd cycle retryRequests world).withFate .failed := by
  simp [Flushed.returned, Flushed.withFate, Flushed.toPrimary, filterMap_err]

/-- Every builder of a flush is delivered, dropped or returned. -/
theorem flush_partition :
    (retryRequests ++ freshBuilders config zstd cycle world).Perm
      ((flush config zstd cycle retryRequests world).withFate .delivered ++
        (flush config zstd cycle retryRequests world).withFate .dropped ++
        (flush config zstd cycle retryRequests world).returned) := by
  rw [← flush_builders, flush_returned]
  simpa [Flushed.withFate] using (perm_fates _).map Sending.builder

end Flush

end ServerlessComponents.LogsAgent
