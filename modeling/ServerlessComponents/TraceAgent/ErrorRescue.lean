import Mathlib.Data.Prod.Lex
import ServerlessComponents.TraceAgent.Payload
import ServerlessComponents.TraceSampler.ErrorsSampler

/-!
# Error rescue

`apply_error_rescue_with_clock` of `trace_processor.rs`: the eligible chunks are collected by their
place, sampled in that order under one lock and one timestamp, and the kept ones get a metric on
their root. An index out of range, which panics in the source, is `none`. Beside its result the
model lists the consultations of the sampler.
-/
namespace ServerlessComponents.TraceAgent

open TraceSampler

def ERRORS_SR_METRIC_KEY : String := "_dd.errors_sr"
def DECISION_MAKER_KEY : String := "_dd.p.dm"
def MANUAL_DECISION_MAKER : String := "-4"

variable {S D R X : Type}

/-- `get_root_span_index` of the trace utilities. -/
abbrev GetRootSpanIndex (D R : Type) := List (Span D R) → Except String Nat

/-- The configuration error rescue reads. -/
structure RescueConfig where
  env : String
  errorRareSampleTracerDrop : Bool
  deriving DecidableEq, Repr

/-- The part of `ServerlessTraceProcessor` that error rescue uses. -/
structure ErrorRescue (S D : Type) where
  sampler : ErrorsSampler S D
  lastSamplerTimestamp : Int
  errorRescueEnabled : Bool

def spanView (span : Span D R) : SpanView where
  service := span.service
  name := span.name
  resource := span.resource
  error := span.error != 0
  httpStatusCode := span.meta_.lookup "http.status_code"
  errorType := span.meta_.lookup "error.type"

/-- The match on the priority in `rescue_root_index`. -/
def eligible (chunk : TraceChunk D R) (tracerDropEnabled : Bool) : Bool :=
  if chunk.priority = 0 then true
  else if chunk.priority = -128 then false
  else if chunk.priority = -1 then
    tracerDropEnabled && chunk.tags.lookup DECISION_MAKER_KEY != some MANUAL_DECISION_MAKER
  else tracerDropEnabled && chunk.priority < 0

def rescueRootIndex (getRootSpanIndex : GetRootSpanIndex D R) (chunk : TraceChunk D R)
    (tracerDropEnabled : Bool) : Option Nat :=
  if eligible chunk tracerDropEnabled = false then none
  else if chunk.spans.any (·.error != 0) = false then none
  else (getRootSpanIndex chunk.spans).toOption

theorem rescueRootIndex_eq_some_iff {getRootSpanIndex : GetRootSpanIndex D R}
    {chunk : TraceChunk D R} {tracerDropEnabled : Bool} {root : Nat} :
    rescueRootIndex getRootSpanIndex chunk tracerDropEnabled = some root ↔
      eligible chunk tracerDropEnabled = true ∧ chunk.spans.any (·.error != 0) = true ∧
        getRootSpanIndex chunk.spans = .ok root := by
  unfold rescueRootIndex
  split_ifs with ineligible healthy
  · simp [ineligible]
  · simp [healthy]
  · cases getRootSpanIndex chunk.spans with
    | error e => simp [Except.toOption]
    | ok i => simp_all [Except.toOption]

/-- A chunk to be sampled. -/
structure Candidate where
  payloadIndex : Nat
  chunkIndex : Nat
  env : String
  rootIndex : Nat
  views : List SpanView

/-- One call of the sampler, for the chunk of a candidate. -/
structure Consultation (D : Type) where
  payloadIndex : Nat
  chunkIndex : Nat
  rootIndex : Nat
  nowUnixSecs : Int
  trace : TraceView D
  decision : SampleDecision D

/-- The places of two candidates or consultations, in payload order. -/
abbrev Place := Nat ×ₗ Nat

def Candidate.place (c : Candidate) : Place := toLex (c.payloadIndex, c.chunkIndex)
def Consultation.place (c : Consultation D) : Place := toLex (c.payloadIndex, c.chunkIndex)

/-- An entry of `kept`. -/
structure Kept (D : Type) where
  payloadIndex : Nat
  chunkIndex : Nat
  rootIndex : Nat
  errorsSr : D

def Consultation.kept (c : Consultation D) : Option (Kept D) :=
  match c.decision with
  | .keep errorsSr => some ⟨c.payloadIndex, c.chunkIndex, c.rootIndex, errorsSr⟩
  | .drop => none

section Rescue

variable (getRootSpanIndex : GetRootSpanIndex D R) (config : RescueConfig)

/-- The first pass: what to sample, in payload order. -/
def candidates (tracerPayloads : List (TracerPayload D R)) : List Candidate :=
  tracerPayloads.zipIdx.flatMap fun (tracerPayload, payloadIndex) =>
    tracerPayload.chunks.zipIdx.filterMap fun (chunk, chunkIndex) =>
      (rescueRootIndex getRootSpanIndex chunk config.errorRareSampleTracerDrop).map fun rootIndex =>
        ⟨payloadIndex, chunkIndex, resolvePayloadEnv tracerPayload.env config.env, rootIndex,
          chunk.spans.map spanView⟩

def Span.insertMetric (span : Span D R) (key : String) (value : D) : Span D R :=
  { span with metrics := span.metrics.insert key value }

/-- The metric written on the root of a chunk. -/
def TraceChunk.stamp (chunk : TraceChunk D R) (rootIndex : Nat) (errorsSr : D) : TraceChunk D R :=
  { chunk with
    spans := chunk.spans.modify rootIndex (·.insertMetric ERRORS_SR_METRIC_KEY errorsSr) }

/-- The third pass, for one kept chunk. -/
def writeBack (tracerPayloads : List (TracerPayload D R)) (kept : Kept D) :
    Option (List (TracerPayload D R)) := do
  let tracerPayload ← tracerPayloads[kept.payloadIndex]?
  let chunk ← tracerPayload.chunks[kept.chunkIndex]?
  guard (kept.rootIndex < chunk.spans.length)
  let chunks := tracerPayload.chunks.set kept.chunkIndex
    (chunk.stamp kept.rootIndex kept.errorsSr)
  return tracerPayloads.set kept.payloadIndex { tracerPayload with chunks }

variable [Zero S] [Add S] [LT S] [DecidableLT S] [Max S] [Widen S D] [Narrow S D]
  [Double D] [Zero D] [One D] [Sub D] [Mul D] [Div D] [NatCast D] [OfScientific D] [LT D]
  [DecidableLT D] [LE D] [DecidableLE D] [BEq D]

/-- `ServerlessTraceProcessor::new`; the timestamp floor starts at the least `i64`. -/
def ErrorRescue.new (config : ErrorSamplerConfig D) : ErrorRescue S D :=
  let sampler := ErrorsSampler.new config
  ⟨sampler, -2 ^ 63, !sampler.isDisabled⟩

/-- The second pass, for one candidate. -/
def consult (tracerPayloads : List (TracerPayload D R)) (nowUnixSecs : Int)
    (sampler : ErrorsSampler S D) (c : Candidate) :
    Option (ErrorsSampler S D × Consultation D) := do
  let tracerPayload ← tracerPayloads[c.payloadIndex]?
  let chunk ← tracerPayload.chunks[c.chunkIndex]?
  let root ← chunk.spans[c.rootIndex]?
  let trace : TraceView D :=
    { env := c.env
      traceId := root.traceId
      rootIndex := c.rootIndex
      rootGlobalSampleRate := (root.metrics.lookup "_sample_rate").getD 1
      spans := c.views }
  let (sampler, decision) := sampler.sample nowUnixSecs trace
  return (sampler, ⟨c.payloadIndex, c.chunkIndex, c.rootIndex, nowUnixSecs, trace, decision⟩)

def consultAll (tracerPayloads : List (TracerPayload D R)) (nowUnixSecs : Int) :
    ErrorsSampler S D → List Candidate → Option (ErrorsSampler S D × List (Consultation D))
  | sampler, [] => some (sampler, [])
  | sampler, c :: rest => do
    let (sampler, consultation) ← consult tracerPayloads nowUnixSecs sampler c
    let (sampler, later) ← consultAll tracerPayloads nowUnixSecs sampler rest
    return (sampler, consultation :: later)

/-- `apply_error_rescue_with_clock`, where the clock reads `clock` if it is read. -/
def applyErrorRescueWithClock (state : ErrorRescue S D)
    (payload : TracerPayloadCollection D R X) (clock : Int) :
    Option (TracerPayloadCollection D R X × ErrorRescue S D × List (Consultation D)) :=
  match payload with
  | .v07 tracerPayloads =>
    if state.errorRescueEnabled = false then some (payload, state, [])
    else
      let candidates := candidates getRootSpanIndex config tracerPayloads
      if candidates.isEmpty then some (payload, state, [])
      else do
        let nowUnixSecs := max state.lastSamplerTimestamp clock
        let (sampler, consultations) ←
          consultAll tracerPayloads nowUnixSecs state.sampler candidates
        let tracerPayloads ←
          (consultations.filterMap Consultation.kept).foldlM writeBack tracerPayloads
        return (.v07 tracerPayloads, { state with sampler, lastSamplerTimestamp := nowUnixSecs },
          consultations)
  | _ => some (payload, state, [])

end Rescue

end ServerlessComponents.TraceAgent
