import ServerlessComponents.LogsAgent.Server
import ServerlessComponents.TraceAgent.Concentrator
import ServerlessComponents.TraceAgent.ErrorRescue
import ServerlessComponents.TraceAgent.TraceAggregator

/-!
# The stats and the trace processor

What `process_stats` of `stats_processor.rs` and `process_traces` of `trace_processor.rs` compute
between their `await`s, with the responses of `http_utils.rs`. The calls into the trace utilities
are parameters.
-/
namespace ServerlessComponents.TraceAgent

open Dogstatsd (StatusCode)
open LogsAgent (Bytes parseUsize)

variable {D R X G H L : Type}

/-! ## Requests and responses -/

/-- The headers that are read. A `Content-Length` that is not text is `some none`. -/
structure Headers (H : Type) where
  contentLength : Option (Option String)
  transferEncoding : Bool
  tracer : H

structure HttpRequest (H : Type) where
  method : String
  path : String
  headers : Headers H
  body : Except String Bytes

inductive ResponseBody where
  | message (text : String)
  | rateByService
  deriving DecidableEq, Repr

/-- A response with the message that is logged for it. -/
structure HttpResponse where
  status : StatusCode
  logged : String
  body : ResponseBody
  deriving DecidableEq, Repr

def logAndCreateHttpResponse (message : String) (status : StatusCode) : HttpResponse :=
  ⟨status, message, .message message⟩

def logAndCreateTracesSuccessHttpResponse (message : String) (status : StatusCode) : HttpResponse :=
  ⟨status, message, .rateByService⟩

def verifyRequestContentLength (headers : Headers H) (maxContentLength : Nat)
    (errorMessagePrefix : String) : Option HttpResponse :=
  match headers.contentLength with
  | none =>
    if headers.transferEncoding then none
    else some (logAndCreateHttpResponse
      s!"{errorMessagePrefix}: Missing Content-Length and Transfer-Encoding header" ⟨411⟩)
  | some header =>
    match header.bind parseUsize with
    | none =>
      some (logAndCreateHttpResponse
        s!"{errorMessagePrefix}: Invalid Content-Length header" ⟨400⟩)
    | some contentLength =>
      if contentLength > maxContentLength then
        some (logAndCreateHttpResponse s!"{errorMessagePrefix}: Payload too large" ⟨413⟩)
      else none

/-- The branches of `trace_endpoint_handler`. -/
inductive Route where
  | traces
  | stats
  | elsewhere
  deriving DecidableEq, Repr

def HttpRequest.route (req : HttpRequest H) : Route :=
  let putOrPost := req.method = "PUT" ∨ req.method = "POST"
  if putOrPost ∧ req.path = "/v0.4/traces" then .traces
  else if putOrPost ∧ req.path = "/v0.6/stats" then .stats
  else .elsewhere

structure Config where
  env : String
  maxRequestContentLength : Nat
  agentStatsComputationEnabled : Bool
  /-- `tags.function_tags()`. -/
  functionTags : Option String
  /-- `trace_stats_intake.api_key`. -/
  statsApiKey : Option String
  deriving DecidableEq, Repr

/-! ## Stats -/

structure StatsPayload (G : Type) where
  agentHostname : String
  agentEnv : String
  stats : List (ClientStatsPayload G)
  agentVersion : String
  clientComputed : Bool
  splitPayload : Bool

/-- `stats_utils` of the trace utilities. -/
structure StatsUtils (G : Type) where
  getStatsFromRequestBody : Except String Bytes → Except String (ClientStatsPayload G)
  constructStatsPayload : List (ClientStatsPayload G) → StatsPayload G
  serializeStatsPayload : StatsPayload G → Except String Bytes

namespace HttpResponse

def droppingStats : HttpResponse :=
  logAndCreateHttpResponse "Dropping trace stats: agent stats computation is enabled" ⟨202⟩

def badStats (err : String) : HttpResponse :=
  logAndCreateHttpResponse s!"Error deserializing trace stats from request body: {err}" ⟨500⟩

def statsBuffered : HttpResponse :=
  logAndCreateHttpResponse "Successfully buffered stats to be flushed." ⟨202⟩

def statsNotSent : HttpResponse :=
  logAndCreateHttpResponse "Error sending stats to the stats flusher: channel closed" ⟨500⟩

end HttpResponse

/-- The first bucket starts at the time the stats were received. -/
def ClientStatsPayload.stamp (stats : ClientStatsPayload G) (timestamp : UInt64) :
    ClientStatsPayload G :=
  match stats.stats with
  | [] => stats
  | first :: rest => { stats with stats := { first with start := timestamp } :: rest }

/-! ## Traces -/

/-- `trace_utils`, with the chunk processor of the agent given to `collect_pb_trace_chunks`. -/
structure TraceUtils (D R X H : Type) where
  Traces : Type
  getTracesFromRequestBody : Except String Bytes → Except String (Nat × Traces)
  collectPbTraceChunks : Traces → H → Except String (TracerPayloadCollection D R X)
  getRootSpanIndex : GetRootSpanIndex D R
  encodedLen : TracerPayload D R → Nat

def TRACER_PAYLOAD_FUNCTION_TAGS_TAG_KEY : String := "_dd.tags.function"
def V07_ENVELOPE_OVERHEAD_BYTES : Nat := 64
def MAX_IN_FLIGHT_ENQUEUES : Nat := 10

namespace HttpResponse

def droppedTraces : HttpResponse :=
  logAndCreateTracesSuccessHttpResponse "Dropped traces due to enqueue capacity" ⟨200⟩

def badTraces (err : String) : HttpResponse :=
  logAndCreateHttpResponse s!"Error deserializing trace from request body: {err}" ⟨500⟩

def tracesTooLarge : HttpResponse :=
  logAndCreateHttpResponse "Error processing traces: Payload too large" ⟨413⟩

def badChunks (err : String) : HttpResponse :=
  logAndCreateTracesSuccessHttpResponse s!"Error processing trace chunks: {err}" ⟨500⟩

def tracesBuffered : HttpResponse :=
  logAndCreateTracesSuccessHttpResponse "Successfully buffered traces to be flushed." ⟨200⟩

end HttpResponse

/-- The traces of a request, on their way through `process_traces`. -/
structure DecodedTraces (D R X H : Type) where
  payload : TracerPayloadCollection D R X
  bodySize : Nat
  headerTags : H

def insertFunctionTags (functionTags : Option String) (payload : TracerPayloadCollection D R X) :
    TracerPayloadCollection D R X :=
  match functionTags, payload with
  | some functionTags, .v07 tracerPayloads =>
    .v07 (tracerPayloads.map fun tracerPayload =>
      { tracerPayload with
        tags := tracerPayload.tags.insert TRACER_PAYLOAD_FUNCTION_TAGS_TAG_KEY functionTags })
  | _, payload => payload

/-- From the body to the payload, or the response that refuses it. -/
def decodeTraces (config : Config) (utils : TraceUtils D R X H) (req : HttpRequest H) :
    Except HttpResponse (DecodedTraces D R X H) :=
  match utils.getTracesFromRequestBody req.body with
  | .error err => .error (.badTraces err)
  | .ok (bodySize, traces) =>
    if bodySize > config.maxRequestContentLength then .error .tracesTooLarge
    else
      match utils.collectPbTraceChunks traces req.headers.tracer with
      | .error err => .error (.badChunks err)
      | .ok payload =>
        .ok ⟨insertFunctionTags config.functionTags payload, bodySize, req.headers.tracer⟩

/-- The first non-empty `_dd.base_service` on the root span of a chunk; `none` when a root index is
out of range, which panics in the source. -/
def baseService (getRootSpanIndex : GetRootSpanIndex D R) :
    List (TraceChunk D R) → Option (Option String)
  | [] => some none
  | chunk :: rest =>
    match getRootSpanIndex chunk.spans with
    | .error _ => baseService getRootSpanIndex rest
    | .ok i =>
      match chunk.spans[i]? with
      | none => none
      | some root =>
        match (root.meta_.lookup "_dd.base_service").filter (!·.isEmpty) with
        | none => baseService getRootSpanIndex rest
        | some service => some (some service)

def tracerMetadata (tracerPayload : TracerPayload D R) (serviceName : Option String) :
    TracerMetadata L where
  schemaVersion := 2
  runtimeId := none
  tracerLanguage := tracerPayload.languageName
  tracerVersion := tracerPayload.tracerVersion
  hostname := ""
  serviceName := serviceName
  serviceEnv := some tracerPayload.env
  serviceVersion := some tracerPayload.appVersion
  processTags := none
  containerId := some tracerPayload.containerId
  threadlocalMetadata := none

/-- What `send_to_concentrator` hands over, in its order; without metadata where it panics. -/
def concentratorChunks (getRootSpanIndex : GetRootSpanIndex D R)
    (payload : TracerPayloadCollection D R X) :
    List (TraceChunk D R × Option (TracerMetadata L)) :=
  match payload with
  | .v07 tracerPayloads =>
    tracerPayloads.flatMap fun tracerPayload =>
      let metadata := (baseService getRootSpanIndex tracerPayload.chunks).map
        (tracerMetadata tracerPayload)
      tracerPayload.chunks.map (·, metadata)
  | _ => []

/-- `split_tracer_payload`. Each bisection leaves fewer chunks, so their number is fuel enough. -/
def splitTracerPayload (encodedLen : TracerPayload D R → Nat) (maxSize : Nat) :
    Nat → TracerPayload D R → List (TracerPayload D R)
  | 0, tp => [tp]
  | fuel + 1, tp =>
    if encodedLen tp ≤ maxSize then [tp]
    else if tp.chunks.length > 1 then
      let mid := tp.chunks.length / 2
      splitTracerPayload encodedLen maxSize fuel { tp with chunks := tp.chunks.take mid } ++
        splitTracerPayload encodedLen maxSize fuel { tp with chunks := tp.chunks.drop mid }
    else [tp]

def splitOversizedPayloads (encodedLen : TracerPayload D R → Nat)
    (payloads : List (TracerPayload D R)) (maxSize : Nat) : List (TracerPayload D R) :=
  payloads.flatMap fun tp => splitTracerPayload encodedLen maxSize tp.chunks.length tp

/-- The pieces of a payload with their sizes. -/
def pieces (encodedLen : TracerPayload D R → Nat) (payload : TracerPayloadCollection D R X)
    (bodySize : Nat) : List (TracerPayloadCollection D R X × Nat) :=
  match payload with
  | .v07 payloads =>
    let splitBudget := MAX_CONTENT_SIZE_BYTES - V07_ENVELOPE_OVERHEAD_BYTES
    (splitOversizedPayloads encodedLen payloads splitBudget).map fun tp =>
      (.v07 [tp], encodedLen tp + V07_ENVELOPE_OVERHEAD_BYTES)
  | other => [(other, bodySize)]

def DecodedTraces.sendDatas (encodedLen : TracerPayload D R → Nat)
    (decoded : DecodedTraces D R X H) : List (SendData D R X H) :=
  (pieces encodedLen decoded.payload decoded.bodySize).map fun (piece, size) =>
    ⟨size, piece, decoded.headerTags⟩

/-! ## The success responses are told apart from the others -/

/-- The response promises nothing about buffered stats or traces. -/
def HttpResponse.Plain (response : HttpResponse) : Prop :=
  response ≠ .statsBuffered ∧ response ≠ .tracesBuffered

namespace HttpResponse

theorem plain_of_not_success {response : HttpResponse} (h : response.status.isSuccess = false) :
    response.Plain := by
  constructor <;> rintro rfl <;> exact absurd h (by decide)

theorem plain_droppingStats : droppingStats.Plain := ⟨by decide, by decide⟩
theorem plain_droppedTraces : droppedTraces.Plain := ⟨by decide, by decide⟩
theorem plain_badStats (err : String) : (badStats err).Plain := plain_of_not_success rfl
theorem plain_statsNotSent : statsNotSent.Plain := plain_of_not_success rfl

theorem statsBuffered_ne_tracesBuffered : statsBuffered ≠ tracesBuffered := by decide

end HttpResponse

/-- A response that promises nothing. -/
def PlainResponse : Type := { response : HttpResponse // response.Plain }

namespace PlainResponse

def droppingStats : PlainResponse := ⟨.droppingStats, HttpResponse.plain_droppingStats⟩
def droppedTraces : PlainResponse := ⟨.droppedTraces, HttpResponse.plain_droppedTraces⟩

end PlainResponse

theorem plain_of_verify {headers : Headers H} {maxContentLength : Nat} {pre : String}
    {response : HttpResponse}
    (h : verifyRequestContentLength headers maxContentLength pre = some response) :
    response.Plain := by
  apply HttpResponse.plain_of_not_success
  unfold verifyRequestContentLength at h
  split at h
  next =>
    split at h <;> cases h
    rfl
  next =>
    split at h
    next =>
      cases h
      rfl
    next =>
      split at h <;> cases h
      rfl

theorem plain_of_decodeTraces {config : Config} {utils : TraceUtils D R X H} {req : HttpRequest H}
    {response : HttpResponse} (h : decodeTraces config utils req = .error response) :
    response.Plain := by
  apply HttpResponse.plain_of_not_success
  unfold decodeTraces at h
  split at h
  next =>
    cases h
    rfl
  next =>
    split at h
    next =>
      cases h
      rfl
    next =>
      split at h <;> cases h
      rfl

end ServerlessComponents.TraceAgent
