import Mathlib.Algebra.BigOperators.Group.Multiset.Basic
import ServerlessComponents.Library.AssocMap
import ServerlessComponents.TraceAgent.Payload

/-!
# The stats concentrator service

`stats_concentrator_service.rs`: the service keeps a `SpanConcentrator` for each tracer metadata,
adds to it the spans of the chunks sent with that metadata, and on a flush turns the buckets each
one returns into a stats payload with the metadata's fields.

The concentrator is a parameter. Under the assumption `KeepsSpans` no span is lost or counted twice
between the chunks added and the payloads returned.
-/
namespace ServerlessComponents.TraceAgent

variable {D R G K L : Type}

/-- `TracerMetadata`; its thread-local part is opaque. -/
structure TracerMetadata (L : Type) where
  schemaVersion : UInt8
  runtimeId : Option String
  tracerLanguage : String
  tracerVersion : String
  hostname : String
  serviceName : Option String
  serviceEnv : Option String
  serviceVersion : Option String
  processTags : Option String
  containerId : Option String
  threadlocalMetadata : Option L
  deriving DecidableEq

/-- A stats bucket; the grouped stats `G` are opaque. -/
structure ClientStatsBucket (G : Type) where
  start : UInt64
  duration : UInt64
  stats : List G
  agentTimeShift : Int64

structure ClientStatsPayload (G : Type) where
  hostname : String
  env : String
  version : String
  stats : List (ClientStatsBucket G)
  lang : String
  tracerVersion : String
  runtimeId : String
  sequence : UInt64
  agentAggregation : String
  service : String
  containerId : String
  tags : List String
  gitCommitSha : String
  imageTag : String
  processTagsHash : UInt64
  processTags : String

/-- `SpanConcentrator` of the trace stats library, as `new_span_concentrator` configures it. A flush
is given the time and whether it is forced, and returns the unobfuscated buckets. -/
structure SpanConcentrator (D R G K : Type) where
  new : Nat → K
  addSpan : K → Span D R → K
  flush : K → Nat → Bool → List (ClientStatsBucket G) × K

inductive ConcentratorCommand (D R L : Type) where
  | addChunk (chunk : TraceChunk D R) (metadata : TracerMetadata L)
  | flush (forceFlush : Bool)

/-- `concentrators`; the order of its entries stands for the iteration order of the map. -/
abbrev Concentrators (K L : Type) := AList fun _ : TracerMetadata L => K

/-- The payload built from the buckets of one concentrator. -/
def ClientStatsPayload.ofBuckets (configEnv : String) (metadata : TracerMetadata L)
    (stats : List (ClientStatsBucket G)) : ClientStatsPayload G where
  hostname := ""
  env := resolvePayloadEnv (metadata.serviceEnv.getD "") configEnv
  version := metadata.serviceVersion.getD ""
  lang := metadata.tracerLanguage
  tracerVersion := metadata.tracerVersion
  runtimeId := ""
  sequence := 0
  agentAggregation := ""
  service := metadata.serviceName.getD ""
  containerId := metadata.containerId.getD ""
  tags := []
  gitCommitSha := ""
  imageTag := ""
  stats := stats
  processTags := ""
  processTagsHash := 0

namespace Concentrators

variable (concentrator : SpanConcentrator D R G K)

/-- The `AddChunk` branch of `run`; `now` is read when a concentrator is made. -/
def addChunk [DecidableEq L] (m : Concentrators K L) (now : Nat) (chunk : TraceChunk D R)
    (metadata : TracerMetadata L) : Concentrators K L :=
  let found := (m.lookup metadata).getD (concentrator.new now)
  m.insert metadata (chunk.spans.foldl concentrator.addSpan found)

/-- One turn of the closure in `handle_flush`. -/
def flushOne (configEnv : String) (clock : TracerMetadata L → Nat) (forceFlush : Bool)
    (metadata : TracerMetadata L) (k : K) : Option (ClientStatsPayload G) :=
  let statsBuckets := (concentrator.flush k (clock metadata) forceFlush).1
  if statsBuckets.isEmpty then none else some (.ofBuckets configEnv metadata statsBuckets)

/-- `handle_flush`: the payloads, and what the concentrators become. The clock is read for each of
them. -/
def handleFlush (configEnv : String) (clock : TracerMetadata L → Nat) (forceFlush : Bool)
    (m : Concentrators K L) : List (ClientStatsPayload G) × Concentrators K L :=
  (m.entries.filterMap fun e => flushOne concentrator configEnv clock forceFlush e.1 e.2,
    m.mapValues fun metadata k => (concentrator.flush k (clock metadata) forceFlush).2)

end Concentrators

/-! ## The spans behind the stats -/

section Spans

variable (aggregated : G → Multiset (Span D R))

def ClientStatsBucket.spans (b : ClientStatsBucket G) : Multiset (Span D R) :=
  (b.stats.map aggregated).sum

/-- The spans whose stats a payload holds. -/
def ClientStatsPayload.spans (p : ClientStatsPayload G) : Multiset (Span D R) :=
  (p.stats.map (ClientStatsBucket.spans aggregated)).sum

/-- What is assumed of the concentrator: it keeps every span added to it, a flush moves spans from
the concentrator to the buckets it returns, and a forced flush moves all of them. -/
structure KeepsSpans (concentrator : SpanConcentrator D R G K) (kept : K → Multiset (Span D R))
    (aggregated : G → Multiset (Span D R)) : Prop where
  new : ∀ now, kept (concentrator.new now) = 0
  addSpan : ∀ k span, kept (concentrator.addSpan k span) = kept k + {span}
  flush : ∀ k now forceFlush,
    ((concentrator.flush k now forceFlush).1.map (ClientStatsBucket.spans aggregated)).sum +
      kept (concentrator.flush k now forceFlush).2 = kept k
  forced : ∀ k now, kept (concentrator.flush k now true).2 = 0

namespace Concentrators

variable {concentrator : SpanConcentrator D R G K} {kept : K → Multiset (Span D R)}
  {aggregated : G → Multiset (Span D R)}

/-- The spans the concentrators of the service keep. -/
def spans (kept : K → Multiset (Span D R)) (m : Concentrators K L) : Multiset (Span D R) :=
  (m.values.map kept).sum

@[simp] theorem spans_empty : spans kept (∅ : Concentrators K L) = 0 := rfl

theorem kept_foldl_addSpan (keeps : KeepsSpans concentrator kept aggregated) (k : K)
    (spans : List (Span D R)) :
    kept (spans.foldl concentrator.addSpan k) = kept k + (spans : Multiset (Span D R)) := by
  induction spans generalizing k with
  | nil => simp
  | cons span rest ih =>
    rw [List.foldl_cons, ih, keeps.addSpan, add_assoc, Multiset.singleton_add, Multiset.cons_coe]

theorem spans_addChunk [DecidableEq L] (keeps : KeepsSpans concentrator kept aggregated)
    (m : Concentrators K L) (now : Nat) (chunk : TraceChunk D R) (metadata : TracerMetadata L) :
    spans kept (addChunk concentrator m now chunk metadata) =
      spans kept m + (chunk.spans : Multiset (Span D R)) := by
  cases found : m.lookup metadata with
  | none =>
    rw [spans, addChunk, AList.values_insert_of_lookup_eq_none found, List.map_cons, List.sum_cons,
      kept_foldl_addSpan keeps, found, Option.getD_none, keeps.new, zero_add, spans, add_comm]
  | some k =>
    obtain ⟨rest, before, after⟩ := AList.values_insert_of_lookup found
    rw [spans, addChunk, after, List.map_cons, List.sum_cons, kept_foldl_addSpan keeps, found,
      Option.getD_some, spans, (before.map kept).sum_eq, List.map_cons, List.sum_cons,
      add_right_comm]

theorem spans_flushOne (concentrator : SpanConcentrator D R G K)
    (aggregated : G → Multiset (Span D R)) (configEnv : String)
    (clock : TracerMetadata L → Nat) (forceFlush : Bool) (metadata : TracerMetadata L) (k : K) :
    ((flushOne concentrator configEnv clock forceFlush metadata k).map
        (ClientStatsPayload.spans aggregated)).getD 0 =
      ((concentrator.flush k (clock metadata) forceFlush).1.map
        (ClientStatsBucket.spans aggregated)).sum := by
  simp only [flushOne]
  split
  next none_ => simp [List.isEmpty_iff.1 none_]
  next => rfl

/-- A flush moves spans from the concentrators to the returned payloads. -/
theorem spans_handleFlush (keeps : KeepsSpans concentrator kept aggregated) (configEnv : String)
    (clock : TracerMetadata L → Nat) (forceFlush : Bool) (m : Concentrators K L) :
    (((handleFlush concentrator configEnv clock forceFlush m).1.map
        (ClientStatsPayload.spans aggregated)).sum +
      spans kept (handleFlush concentrator configEnv clock forceFlush m).2) = spans kept m := by
  simp only [handleFlush, spans, AList.values, AList.mapValues]
  induction m.entries with
  | nil => simp
  | cons e rest ih =>
    have one := spans_flushOne concentrator aggregated configEnv clock forceFlush e.1 e.2
    have first : (((e :: rest).filterMap fun e =>
          flushOne concentrator configEnv clock forceFlush e.1 e.2).map
          (ClientStatsPayload.spans aggregated)).sum =
        ((concentrator.flush e.2 (clock e.1) forceFlush).1.map
          (ClientStatsBucket.spans aggregated)).sum +
        ((rest.filterMap fun e =>
          flushOne concentrator configEnv clock forceFlush e.1 e.2).map
          (ClientStatsPayload.spans aggregated)).sum := by
      rw [← one, List.filterMap_cons]
      cases flushOne concentrator configEnv clock forceFlush e.1 e.2 <;> simp
    rw [first]
    simp only [List.map_cons, List.sum_cons]
    rw [← keeps.flush e.2 (clock e.1) forceFlush, ← ih, add_add_add_comm]

/-- After a forced flush the concentrators keep nothing. -/
theorem spans_handleFlush_forced (keeps : KeepsSpans concentrator kept aggregated)
    (configEnv : String) (clock : TracerMetadata L → Nat) (m : Concentrators K L) :
    spans kept (handleFlush concentrator configEnv clock true m).2 = 0 := by
  simp only [handleFlush, spans, AList.values, AList.mapValues]
  induction m.entries with
  | nil => rfl
  | cons e rest ih =>
    simp only [List.map_cons, List.sum_cons, keeps.forced]
    rw [zero_add]
    exact ih

end Concentrators

end Spans

end ServerlessComponents.TraceAgent
