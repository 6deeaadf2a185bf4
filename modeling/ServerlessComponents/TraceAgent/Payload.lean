import Mathlib.Data.List.AList

/-!
# Tracer payloads

The protobuf messages of a tracer payload (`TracerPayload`, `TraceChunk`, `Span`). Metrics have
the type `D` (`f64`); what no function here reads of a span is its `rest`, and the payloads of the
other versions are opaque.
-/
namespace ServerlessComponents.TraceAgent

/-- A string map of a message. -/
abbrev Tags := AList fun _ : String => String

structure Span (D R : Type) where
  service : String
  name : String
  resource : String
  traceId : UInt64
  error : Int32
  meta_ : Tags
  metrics : AList fun _ : String => D
  rest : R

structure TraceChunk (D R : Type) where
  priority : Int32
  origin : String
  spans : List (Span D R)
  tags : Tags
  droppedTrace : Bool

structure TracerPayload (D R : Type) where
  containerId : String
  languageName : String
  languageVersion : String
  tracerVersion : String
  runtimeId : String
  chunks : List (TraceChunk D R)
  tags : Tags
  env : String
  hostname : String
  appVersion : String

inductive TracerPayloadCollection (D R X : Type) where
  | v04 (traces : X)
  | v05 (traces : X)
  | v07 (tracerPayloads : List (TracerPayload D R))
  | v1 (payload : X)

/-- `resolve_payload_env` of `config.rs`. -/
def resolvePayloadEnv (payloadEnv configEnv : String) : String :=
  if payloadEnv.isEmpty then configEnv else payloadEnv

end ServerlessComponents.TraceAgent
