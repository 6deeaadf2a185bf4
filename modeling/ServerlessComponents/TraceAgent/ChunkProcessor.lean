import ServerlessComponents.TraceAgent.ErrorRescue
import ServerlessComponents.TraceAgent.ProxyFlusher

/-!
# The chunk processor

`ChunkProcessor::process` of `trace_processor.rs`, which `collect_pb_trace_chunks` calls for every
chunk: the decision maker of a span is promoted to the chunk, and then the spans are enriched and
obfuscated. What the trace utilities do to a span is a parameter.

## Main results

* `eligible_process` — which chunks the error rescue may look at, by what the tracer sent.
-/
namespace ServerlessComponents.TraceAgent

open Proxy (EnvironmentType)

variable {D R : Type}

structure MiniAgentMetadata where
  azureSpringAppHostname : Option String
  azureSpringAppName : Option String
  gcpProjectId : Option String
  gcpRegion : Option String
  version : Option String
  deriving DecidableEq, Repr

/-- The functions of the trace utilities and of the obfuscation, on one span. -/
structure SpanUtils (D R : Type) where
  setServerlessRootSpanTags : Span D R → Option String → EnvironmentType → Span D R
  enrichSpanWithMiniAgentMetadata : Span D R → MiniAgentMetadata → Span D R
  enrichSpanWithAzureFunctionMetadata : Span D R → Span D R
  enrichSpanWithGoogleCloudFunctionMetadata :
    Span D R → MiniAgentMetadata → Option String → Span D R
  obfuscatePbSpan : Span D R → Span D R

structure ChunkProcessor where
  appName : Option String
  envType : EnvironmentType
  miniAgentMetadata : MiniAgentMetadata
  deriving DecidableEq, Repr

/-- The decision maker of the first span that has one becomes the chunk's, unless the chunk has one,
an empty one included. -/
def TraceChunk.promote (chunk : TraceChunk D R) : TraceChunk D R :=
  if (chunk.tags.lookup DECISION_MAKER_KEY).isSome then chunk
  else
    match chunk.spans.findSome? (·.meta_.lookup DECISION_MAKER_KEY) with
    | none => chunk
    | some value => { chunk with tags := chunk.tags.insert DECISION_MAKER_KEY value }

def ChunkProcessor.enrich (processor : ChunkProcessor) (utils : SpanUtils D R) (span : Span D R) :
    Span D R :=
  let span := utils.enrichSpanWithMiniAgentMetadata span processor.miniAgentMetadata
  let span := utils.enrichSpanWithAzureFunctionMetadata span
  let span := match processor.envType with
    | .cloudFunction =>
      utils.enrichSpanWithGoogleCloudFunctionMetadata span processor.miniAgentMetadata
        processor.appName
    | _ => span
  utils.obfuscatePbSpan span

/-- `none` for an index out of range, which panics in the source. -/
def ChunkProcessor.process (processor : ChunkProcessor) (utils : SpanUtils D R)
    (chunk : TraceChunk D R) (rootSpanIndex : Nat) : Option (TraceChunk D R) :=
  let chunk := chunk.promote
  if rootSpanIndex < chunk.spans.length then
    let spans := chunk.spans.modify rootSpanIndex
      (utils.setServerlessRootSpanTags · processor.appName processor.envType)
    some { chunk with spans := spans.map (processor.enrich utils) }
  else none

/-! ## The decision maker -/

/-- Who decided about the chunk, as the tracer says: on the chunk itself, or else on its first span
that says so. -/
def TraceChunk.decisionMaker (chunk : TraceChunk D R) : Option String :=
  (chunk.tags.lookup DECISION_MAKER_KEY).or
    (chunk.spans.findSome? (·.meta_.lookup DECISION_MAKER_KEY))

theorem lookup_promote (chunk : TraceChunk D R) :
    chunk.promote.tags.lookup DECISION_MAKER_KEY = chunk.decisionMaker := by
  unfold TraceChunk.promote TraceChunk.decisionMaker
  cases own : chunk.tags.lookup DECISION_MAKER_KEY with
  | some value => simp [own]
  | none =>
    cases chunk.spans.findSome? (·.meta_.lookup DECISION_MAKER_KEY) with
    | none => simp [own]
    | some value => simp

theorem priority_promote (chunk : TraceChunk D R) : chunk.promote.priority = chunk.priority := by
  unfold TraceChunk.promote
  split_ifs
  · rfl
  · split <;> rfl

/-- What the error rescue may look at: P0, and with the feature what the tracer dropped, but not
by hand. -/
def TraceChunk.Rescuable (chunk : TraceChunk D R) (tracerDropEnabled : Bool) : Prop :=
  chunk.priority = 0 ∨ tracerDropEnabled = true ∧ chunk.priority < 0 ∧ chunk.priority ≠ -128 ∧
    ¬ (chunk.priority = -1 ∧ chunk.decisionMaker = some MANUAL_DECISION_MAKER)

/-- Enrichment does not change what is eligible, wherever the decision maker came from. -/
theorem eligible_process {processor : ChunkProcessor} {utils : SpanUtils D R}
    {chunk processed : TraceChunk D R} {rootSpanIndex : Nat}
    (h : processor.process utils chunk rootSpanIndex = some processed) (tracerDropEnabled : Bool) :
    eligible processed tracerDropEnabled = true ↔ chunk.Rescuable tracerDropEnabled := by
  have fields : processed.priority = chunk.priority ∧
      processed.tags.lookup DECISION_MAKER_KEY = chunk.decisionMaker := by
    simp only [ChunkProcessor.process] at h
    split at h <;> cases h
    exact ⟨priority_promote chunk, lookup_promote chunk⟩
  unfold eligible TraceChunk.Rescuable
  rw [fields.1, fields.2]
  split_ifs with zero unknown_ user
  · simp [zero]
  · simp [unknown_]
  · simp [user]
  · simp [zero, unknown_, user]

end ServerlessComponents.TraceAgent
