import ServerlessComponents.AgentConfig.Config
import ServerlessComponents.AgentConfig.Structs

/-!
# The YAML file as a source

`YamlConfig` and the structs below it. A field that cannot be read is its default, in whatever
struct it is, so every document is read.

## Main results

* `YamlConfig.extract_eq` — a document is read, and field by field.
-/
namespace ServerlessComponents.AgentConfig

structure ProxyConfig where
  https : Option String := none
  noProxy : Option (List String) := none

namespace ProxyConfig

def deserialize (v : Value) : Except Error ProxyConfig := do
  checkStruct "struct ProxyConfig" v
  let https ← defaultField v 0 "https" none (deserializeOptionWithDefault deserializeString)
  let noProxy ←
    defaultField v 1 "no_proxy" none
      (deserializeOptionWithDefault (deserializeVec deserializeString))
  return { https, noProxy }

def read (o : Option Value) : ProxyConfig where
  https := (memberOf o 0 "https").bind Setting.string
  noProxy := (memberOf o 1 "no_proxy").bind (accepted (deserializeVec deserializeString))

theorem deserialize_eq (v : Value) :
    deserializeWithDefault {} deserialize v = .ok (read (some v)) := by
  cases v with
  | dict es | array vs => simp [deserializeWithDefault, deserialize, checkStruct, read]
  | _ => rfl

@[simp]
theorem defaultField_eq (v : Value) (i : Nat) (name : String) :
    defaultField v i name {} (deserializeWithDefault {} deserialize) =
      .ok (read (v.member i name)) :=
  defaultField_of_read v i name deserialize_eq rfl

end ProxyConfig

structure MetricsConfig where
  compressionLevel : Option Int32 := none

namespace MetricsConfig

def deserialize (v : Value) : Except Error MetricsConfig := do
  checkStruct "struct MetricsConfig" v
  let compressionLevel ←
    defaultField v 0 "compression_level" none (deserializeOptionLossless deserializeI32)
  return { compressionLevel }

def read (o : Option Value) : MetricsConfig where
  compressionLevel := (memberOf o 0 "compression_level").bind (accepted deserializeI32)

theorem deserialize_eq (v : Value) :
    deserializeWithDefault {} deserialize v = .ok (read (some v)) := by
  cases v with
  | dict es | array vs => simp [deserializeWithDefault, deserialize, checkStruct, read]
  | _ => rfl

@[simp]
theorem defaultField_eq (v : Value) (i : Nat) (name : String) :
    defaultField v i name {} (deserializeWithDefault {} deserialize) =
      .ok (read (v.member i name)) :=
  defaultField_of_read v i name deserialize_eq rfl

end MetricsConfig

structure OtlpReceiverHttpConfig where
  endpoint : Option String := none

namespace OtlpReceiverHttpConfig

def deserialize (v : Value) : Except Error OtlpReceiverHttpConfig := do
  checkStruct "struct OtlpReceiverHttpConfig" v
  let endpoint ← defaultField v 0 "endpoint" none (deserializeOptionWithDefault deserializeString)
  return { endpoint }

def read (o : Option Value) : OtlpReceiverHttpConfig where
  endpoint := (memberOf o 0 "endpoint").bind Setting.string

theorem deserialize_eq (v : Value) :
    deserializeWithDefault {} deserialize v = .ok (read (some v)) := by
  cases v with
  | dict es | array vs => simp [deserializeWithDefault, deserialize, checkStruct, read]
  | _ => rfl

@[simp]
theorem bind_accepted {β : Type} {g : OtlpReceiverHttpConfig → Option β} (hg : g {} = none)
    (o : Option Value) : (o.bind (accepted deserialize)).bind g = g (read o) :=
  bind_accepted_of_read deserialize_eq rfl rfl hg o

end OtlpReceiverHttpConfig

structure OtlpReceiverGrpcConfig where
  endpoint : Option String := none
  transport : Option String := none
  maxRecvMsgSizeMib : Option Int32 := none

namespace OtlpReceiverGrpcConfig

def deserialize (v : Value) : Except Error OtlpReceiverGrpcConfig := do
  checkStruct "struct OtlpReceiverGrpcConfig" v
  let endpoint ← defaultField v 0 "endpoint" none (deserializeOptionWithDefault deserializeString)
  let transport ← defaultField v 1 "transport" none (deserializeOptionWithDefault deserializeString)
  let maxRecvMsgSizeMib ←
    defaultField v 2 "max_recv_msg_size_mib" none (deserializeOptionLossless deserializeI32)
  return { endpoint, transport, maxRecvMsgSizeMib }

def read (o : Option Value) : OtlpReceiverGrpcConfig where
  endpoint := (memberOf o 0 "endpoint").bind Setting.string
  transport := (memberOf o 1 "transport").bind Setting.string
  maxRecvMsgSizeMib := (memberOf o 2 "max_recv_msg_size_mib").bind (accepted deserializeI32)

theorem deserialize_eq (v : Value) :
    deserializeWithDefault {} deserialize v = .ok (read (some v)) := by
  cases v with
  | dict es | array vs => simp [deserializeWithDefault, deserialize, checkStruct, read]
  | _ => rfl

@[simp]
theorem bind_accepted {β : Type} {g : OtlpReceiverGrpcConfig → Option β} (hg : g {} = none)
    (o : Option Value) : (o.bind (accepted deserialize)).bind g = g (read o) :=
  bind_accepted_of_read deserialize_eq rfl rfl hg o

end OtlpReceiverGrpcConfig

structure OtlpReceiverProtocolsConfig where
  http : Option OtlpReceiverHttpConfig := none
  grpc : Option OtlpReceiverGrpcConfig := none

namespace OtlpReceiverProtocolsConfig

def deserialize (v : Value) : Except Error OtlpReceiverProtocolsConfig := do
  checkStruct "struct OtlpReceiverProtocolsConfig" v
  let http ←
    defaultField v 0 "http" none (deserializeOptionWithDefault OtlpReceiverHttpConfig.deserialize)
  let grpc ←
    defaultField v 1 "grpc" none (deserializeOptionWithDefault OtlpReceiverGrpcConfig.deserialize)
  return { http, grpc }

def read (o : Option Value) : OtlpReceiverProtocolsConfig where
  http := (memberOf o 0 "http").bind (accepted OtlpReceiverHttpConfig.deserialize)
  grpc := (memberOf o 1 "grpc").bind (accepted OtlpReceiverGrpcConfig.deserialize)

theorem deserialize_eq (v : Value) :
    deserializeWithDefault {} deserialize v = .ok (read (some v)) := by
  cases v with
  | dict es | array vs => simp [deserializeWithDefault, deserialize, checkStruct, read]
  | _ => rfl

@[simp]
theorem bind_accepted {β : Type} {g : OtlpReceiverProtocolsConfig → Option β} (hg : g {} = none)
    (o : Option Value) : (o.bind (accepted deserialize)).bind g = g (read o) :=
  bind_accepted_of_read deserialize_eq rfl rfl hg o

end OtlpReceiverProtocolsConfig

structure OtlpReceiverConfig where
  protocols : Option OtlpReceiverProtocolsConfig := none

namespace OtlpReceiverConfig

def deserialize (v : Value) : Except Error OtlpReceiverConfig := do
  checkStruct "struct OtlpReceiverConfig" v
  let protocols ←
    defaultField v 0 "protocols" none
      (deserializeOptionWithDefault OtlpReceiverProtocolsConfig.deserialize)
  return { protocols }

def read (o : Option Value) : OtlpReceiverConfig where
  protocols := (memberOf o 0 "protocols").bind (accepted OtlpReceiverProtocolsConfig.deserialize)

theorem deserialize_eq (v : Value) :
    deserializeWithDefault {} deserialize v = .ok (read (some v)) := by
  cases v with
  | dict es | array vs => simp [deserializeWithDefault, deserialize, checkStruct, read]
  | _ => rfl

@[simp]
theorem bind_accepted {β : Type} {g : OtlpReceiverConfig → Option β} (hg : g {} = none)
    (o : Option Value) : (o.bind (accepted deserialize)).bind g = g (read o) :=
  bind_accepted_of_read deserialize_eq rfl rfl hg o

end OtlpReceiverConfig

structure OtlpTracesProbabilisticSampler where
  samplingPercentage : Option Int32 := none

namespace OtlpTracesProbabilisticSampler

def deserialize (v : Value) : Except Error OtlpTracesProbabilisticSampler := do
  checkStruct "struct OtlpTracesProbabilisticSampler" v
  let samplingPercentage ←
    requiredField v 0 "sampling_percentage" (deserializeOptionLossless deserializeI32)
  return { samplingPercentage }

def read (o : Option Value) : OtlpTracesProbabilisticSampler where
  samplingPercentage := (memberOf o 0 "sampling_percentage").bind (accepted deserializeI32)

theorem deserialize_eq (v : Value) :
    deserializeWithDefault {} deserialize v = .ok (read (some v)) := by
  cases v with
  | dict es | array vs =>
    simp only [deserializeWithDefault, deserialize, checkStruct, requiredField, read, ok_bind,
      memberOf_some]
    cases Value.member 0 "sampling_percentage" _ <;>
      simp [deserializeOptionLossless_eq, Except.mapError]
  | _ => rfl

@[simp]
theorem bind_accepted {β : Type} {g : OtlpTracesProbabilisticSampler → Option β} (hg : g {} = none)
    (o : Option Value) : (o.bind (accepted deserialize)).bind g = g (read o) :=
  bind_accepted_of_read deserialize_eq rfl rfl hg o

end OtlpTracesProbabilisticSampler

structure OtlpMetricsSums where
  cumulativeMonotonicMode : Option String := none
  initialCumulativeMonotonicValue : Option String := none

namespace OtlpMetricsSums

def deserialize (v : Value) : Except Error OtlpMetricsSums := do
  checkStruct "struct OtlpMetricsSums" v
  let cumulativeMonotonicMode ←
    defaultField v 0 "cumulative_monotonic_mode" none
      (deserializeOptionWithDefault deserializeString)
  let initialCumulativeMonotonicValue ←
    defaultField v 1 "initial_cumulative_monotonic_value" none
      (deserializeOptionWithDefault deserializeString)
  return { cumulativeMonotonicMode, initialCumulativeMonotonicValue }

def read (o : Option Value) : OtlpMetricsSums where
  cumulativeMonotonicMode := (memberOf o 0 "cumulative_monotonic_mode").bind Setting.string
  initialCumulativeMonotonicValue :=
    (memberOf o 1 "initial_cumulative_monotonic_value").bind Setting.string

theorem deserialize_eq (v : Value) :
    deserializeWithDefault {} deserialize v = .ok (read (some v)) := by
  cases v with
  | dict es | array vs => simp [deserializeWithDefault, deserialize, checkStruct, read]
  | _ => rfl

@[simp]
theorem bind_accepted {β : Type} {g : OtlpMetricsSums → Option β} (hg : g {} = none)
    (o : Option Value) : (o.bind (accepted deserialize)).bind g = g (read o) :=
  bind_accepted_of_read deserialize_eq rfl rfl hg o

end OtlpMetricsSums

structure OtlpMetricsSummaries where
  mode : Option String := none

namespace OtlpMetricsSummaries

def deserialize (v : Value) : Except Error OtlpMetricsSummaries := do
  checkStruct "struct OtlpMetricsSummaries" v
  let mode ← defaultField v 0 "mode" none (deserializeOptionWithDefault deserializeString)
  return { mode }

def read (o : Option Value) : OtlpMetricsSummaries where
  mode := (memberOf o 0 "mode").bind Setting.string

theorem deserialize_eq (v : Value) :
    deserializeWithDefault {} deserialize v = .ok (read (some v)) := by
  cases v with
  | dict es | array vs => simp [deserializeWithDefault, deserialize, checkStruct, read]
  | _ => rfl

@[simp]
theorem bind_accepted {β : Type} {g : OtlpMetricsSummaries → Option β} (hg : g {} = none)
    (o : Option Value) : (o.bind (accepted deserialize)).bind g = g (read o) :=
  bind_accepted_of_read deserialize_eq rfl rfl hg o

end OtlpMetricsSummaries

variable [ExternalCrates]

structure LogsConfig where
  logsDdUrl : Option String := none
  processingRules : Option (List ProcessingRule) := none
  useCompression : Option Bool := none
  compressionLevel : Option Int32 := none
  additionalEndpoints : List LogsAdditionalEndpoint := []

namespace LogsConfig

def deserialize (v : Value) : Except Error LogsConfig := do
  checkStruct "struct LogsConfig" v
  let logsDdUrl ←
    defaultField v 0 "logs_dd_url" none (deserializeOptionWithDefault deserializeString)
  let processingRules ← defaultField v 1 "processing_rules" none deserializeProcessingRules
  let useCompression ← defaultField v 2 "use_compression" none deserializeOptionalBoolFromAnything
  let compressionLevel ←
    defaultField v 3 "compression_level" none (deserializeOptionLossless deserializeI32)
  let additionalEndpoints ←
    defaultField v 4 "additional_endpoints" []
      (deserializeWithDefault [] (deserializeVec LogsAdditionalEndpoint.deserialize))
  return { logsDdUrl, processingRules, useCompression, compressionLevel, additionalEndpoints }

def read (o : Option Value) : LogsConfig where
  logsDdUrl := (memberOf o 0 "logs_dd_url").bind Setting.string
  processingRules := (memberOf o 1 "processing_rules").bind Setting.processingRules
  useCompression := (memberOf o 2 "use_compression").bind Setting.bool
  compressionLevel := (memberOf o 3 "compression_level").bind (accepted deserializeI32)
  additionalEndpoints :=
    readOr [] (deserializeVec LogsAdditionalEndpoint.deserialize)
      (memberOf o 4 "additional_endpoints")

theorem deserialize_eq (v : Value) :
    deserializeWithDefault {} deserialize v = .ok (read (some v)) := by
  cases v with
  | dict es | array vs => simp [deserializeWithDefault, deserialize, checkStruct, read]
  | _ => rfl

@[simp]
theorem defaultField_eq (v : Value) (i : Nat) (name : String) :
    defaultField v i name {} (deserializeWithDefault {} deserialize) =
      .ok (read (v.member i name)) :=
  defaultField_of_read v i name deserialize_eq rfl

end LogsConfig

structure ApmHttpObfuscation where
  removeQueryString : Option Bool := none
  removePathsWithDigits : Option Bool := none

namespace ApmHttpObfuscation

def deserialize (v : Value) : Except Error ApmHttpObfuscation := do
  checkStruct "struct ApmHttpObfuscation" v
  let removeQueryString ←
    defaultField v 0 "remove_query_string" none deserializeOptionalBoolFromAnything
  let removePathsWithDigits ←
    defaultField v 1 "remove_paths_with_digits" none deserializeOptionalBoolFromAnything
  return { removeQueryString, removePathsWithDigits }

def read (o : Option Value) : ApmHttpObfuscation where
  removeQueryString := (memberOf o 0 "remove_query_string").bind Setting.bool
  removePathsWithDigits := (memberOf o 1 "remove_paths_with_digits").bind Setting.bool

theorem deserialize_eq (v : Value) :
    deserializeWithDefault {} deserialize v = .ok (read (some v)) := by
  cases v with
  | dict es | array vs => simp [deserializeWithDefault, deserialize, checkStruct, read]
  | _ => rfl

@[simp]
theorem defaultField_eq (v : Value) (i : Nat) (name : String) :
    defaultField v i name {} (deserializeWithDefault {} deserialize) =
      .ok (read (v.member i name)) :=
  defaultField_of_read v i name deserialize_eq rfl

end ApmHttpObfuscation

structure ApmObfuscation where
  http : ApmHttpObfuscation := {}

namespace ApmObfuscation

def deserialize (v : Value) : Except Error ApmObfuscation := do
  checkStruct "struct ApmObfuscation" v
  let http ← defaultField v 0 "http" {} (deserializeWithDefault {} ApmHttpObfuscation.deserialize)
  return { http }

def read (o : Option Value) : ApmObfuscation where
  http := ApmHttpObfuscation.read (memberOf o 0 "http")

theorem deserialize_eq (v : Value) :
    deserializeWithDefault {} deserialize v = .ok (read (some v)) := by
  cases v with
  | dict es | array vs => simp [deserializeWithDefault, deserialize, checkStruct, read]
  | _ => rfl

@[simp]
theorem bind_accepted {β : Type} {g : ApmObfuscation → Option β} (hg : g {} = none)
    (o : Option Value) : (o.bind (accepted deserialize)).bind g = g (read o) :=
  bind_accepted_of_read deserialize_eq rfl rfl hg o

end ApmObfuscation

structure ApmConfig where
  apmDdUrl : Option String := none
  replaceTags : Option (List ReplaceRule) := none
  obfuscation : Option ApmObfuscation := none
  compressionLevel : Option Int32 := none
  features : List String := []
  additionalEndpoints : HashMap (List String) := ∅

namespace ApmConfig

def deserialize (v : Value) : Except Error ApmConfig := do
  checkStruct "struct ApmConfig" v
  let apmDdUrl ← defaultField v 0 "apm_dd_url" none (deserializeOptionWithDefault deserializeString)
  let replaceTags ← defaultField v 1 "replace_tags" none deserializeApmReplaceRules
  let obfuscation ←
    defaultField v 2 "obfuscation" none (deserializeOptionWithDefault ApmObfuscation.deserialize)
  let compressionLevel ←
    defaultField v 3 "compression_level" none (deserializeOptionLossless deserializeI32)
  let features ← defaultField v 4 "features" [] deserializeCommaThenSpaceSeparatedStringOrList
  let additionalEndpoints ← defaultField v 5 "additional_endpoints" ∅ deserializeAdditionalEndpoints
  return { apmDdUrl, replaceTags, obfuscation, compressionLevel, features, additionalEndpoints }

def read (o : Option Value) : ApmConfig where
  apmDdUrl := (memberOf o 0 "apm_dd_url").bind Setting.string
  replaceTags := (memberOf o 1 "replace_tags").bind Setting.replaceRules
  obfuscation := (memberOf o 2 "obfuscation").bind (accepted ApmObfuscation.deserialize)
  compressionLevel := (memberOf o 3 "compression_level").bind (accepted deserializeI32)
  features := readOr [] deserializeCommaThenSpaceSeparatedStringOrList (memberOf o 4 "features")
  additionalEndpoints :=
    readOr ∅ deserializeAdditionalEndpoints (memberOf o 5 "additional_endpoints")

theorem deserialize_eq (v : Value) :
    deserializeWithDefault {} deserialize v = .ok (read (some v)) := by
  cases v with
  | dict es | array vs => simp [deserializeWithDefault, deserialize, checkStruct, read]
  | _ => rfl

@[simp]
theorem defaultField_eq (v : Value) (i : Nat) (name : String) :
    defaultField v i name {} (deserializeWithDefault {} deserialize) =
      .ok (read (v.member i name)) :=
  defaultField_of_read v i name deserialize_eq rfl

/-- The levels of `obfuscation` and `http` are passed through. -/
def obfuscationHttpRemoveQueryString (self : ApmConfig) : Option Bool :=
  self.obfuscation.bind (·.http.removeQueryString)

def obfuscationHttpRemovePathsWithDigits (self : ApmConfig) : Option Bool :=
  self.obfuscation.bind (·.http.removePathsWithDigits)

end ApmConfig

structure OtlpTracesConfig where
  enabled : Option Bool := none
  spanNameAsResourceName : Option Bool := none
  spanNameRemappings : HashMap String := ∅
  ignoreMissingDatadogFields : Option Bool := none
  probabilisticSampler : Option OtlpTracesProbabilisticSampler := none

namespace OtlpTracesConfig

def deserialize (v : Value) : Except Error OtlpTracesConfig := do
  checkStruct "struct OtlpTracesConfig" v
  let enabled ← defaultField v 0 "enabled" none deserializeOptionalBoolFromAnything
  let spanNameAsResourceName ←
    defaultField v 1 "span_name_as_resource_name" none deserializeOptionalBoolFromAnything
  let spanNameRemappings ←
    defaultField v 2 "span_name_remappings" ∅
      (deserializeWithDefault ∅ (deserializeHashMap deserializeString))
  let ignoreMissingDatadogFields ←
    defaultField v 3 "ignore_missing_datadog_fields" none deserializeOptionalBoolFromAnything
  let probabilisticSampler ←
    defaultField v 4 "probabilistic_sampler" none
      (deserializeOptionWithDefault OtlpTracesProbabilisticSampler.deserialize)
  return ⟨enabled, spanNameAsResourceName, spanNameRemappings, ignoreMissingDatadogFields,
    probabilisticSampler⟩

def read (o : Option Value) : OtlpTracesConfig where
  enabled := (memberOf o 0 "enabled").bind Setting.bool
  spanNameAsResourceName := (memberOf o 1 "span_name_as_resource_name").bind Setting.bool
  spanNameRemappings :=
    readOr ∅ (deserializeHashMap deserializeString) (memberOf o 2 "span_name_remappings")
  ignoreMissingDatadogFields := (memberOf o 3 "ignore_missing_datadog_fields").bind Setting.bool
  probabilisticSampler :=
    (memberOf o 4 "probabilistic_sampler").bind
      (accepted OtlpTracesProbabilisticSampler.deserialize)

theorem deserialize_eq (v : Value) :
    deserializeWithDefault {} deserialize v = .ok (read (some v)) := by
  cases v with
  | dict es | array vs => simp [deserializeWithDefault, deserialize, checkStruct, read]
  | _ => rfl

@[simp]
theorem bind_accepted {β : Type} {g : OtlpTracesConfig → Option β} (hg : g {} = none)
    (o : Option Value) : (o.bind (accepted deserialize)).bind g = g (read o) :=
  bind_accepted_of_read deserialize_eq rfl rfl hg o

end OtlpTracesConfig

structure OtlpMetricsHistograms where
  mode : Option String := none
  sendCountSumMetrics : Option Bool := none
  sendAggregationMetrics : Option Bool := none

namespace OtlpMetricsHistograms

def deserialize (v : Value) : Except Error OtlpMetricsHistograms := do
  checkStruct "struct OtlpMetricsHistograms" v
  let mode ← defaultField v 0 "mode" none (deserializeOptionWithDefault deserializeString)
  let sendCountSumMetrics ←
    defaultField v 1 "send_count_sum_metrics" none deserializeOptionalBoolFromAnything
  let sendAggregationMetrics ←
    defaultField v 2 "send_aggregation_metrics" none deserializeOptionalBoolFromAnything
  return { mode, sendCountSumMetrics, sendAggregationMetrics }

def read (o : Option Value) : OtlpMetricsHistograms where
  mode := (memberOf o 0 "mode").bind Setting.string
  sendCountSumMetrics := (memberOf o 1 "send_count_sum_metrics").bind Setting.bool
  sendAggregationMetrics := (memberOf o 2 "send_aggregation_metrics").bind Setting.bool

theorem deserialize_eq (v : Value) :
    deserializeWithDefault {} deserialize v = .ok (read (some v)) := by
  cases v with
  | dict es | array vs => simp [deserializeWithDefault, deserialize, checkStruct, read]
  | _ => rfl

@[simp]
theorem bind_accepted {β : Type} {g : OtlpMetricsHistograms → Option β} (hg : g {} = none)
    (o : Option Value) : (o.bind (accepted deserialize)).bind g = g (read o) :=
  bind_accepted_of_read deserialize_eq rfl rfl hg o

end OtlpMetricsHistograms

structure OtlpMetricsConfig where
  enabled : Option Bool := none
  resourceAttributesAsTags : Option Bool := none
  instrumentationScopeMetadataAsTags : Option Bool := none
  tagCardinality : Option String := none
  deltaTtl : Option Int32 := none
  histograms : Option OtlpMetricsHistograms := none
  sums : Option OtlpMetricsSums := none
  summaries : Option OtlpMetricsSummaries := none

namespace OtlpMetricsConfig

def deserialize (v : Value) : Except Error OtlpMetricsConfig := do
  checkStruct "struct OtlpMetricsConfig" v
  let enabled ← defaultField v 0 "enabled" none deserializeOptionalBoolFromAnything
  let resourceAttributesAsTags ←
    defaultField v 1 "resource_attributes_as_tags" none deserializeOptionalBoolFromAnything
  let instrumentationScopeMetadataAsTags ←
    defaultField v 2 "instrumentation_scope_metadata_as_tags" none
      deserializeOptionalBoolFromAnything
  let tagCardinality ←
    defaultField v 3 "tag_cardinality" none (deserializeOptionWithDefault deserializeString)
  let deltaTtl ← defaultField v 4 "delta_ttl" none (deserializeOptionLossless deserializeI32)
  let histograms ←
    defaultField v 5 "histograms" none
      (deserializeOptionWithDefault OtlpMetricsHistograms.deserialize)
  let sums ← defaultField v 6 "sums" none (deserializeOptionWithDefault OtlpMetricsSums.deserialize)
  let summaries ←
    defaultField v 7 "summaries" none
      (deserializeOptionWithDefault OtlpMetricsSummaries.deserialize)
  return ⟨enabled, resourceAttributesAsTags, instrumentationScopeMetadataAsTags, tagCardinality,
    deltaTtl, histograms, sums, summaries⟩

def read (o : Option Value) : OtlpMetricsConfig where
  enabled := (memberOf o 0 "enabled").bind Setting.bool
  resourceAttributesAsTags := (memberOf o 1 "resource_attributes_as_tags").bind Setting.bool
  instrumentationScopeMetadataAsTags :=
    (memberOf o 2 "instrumentation_scope_metadata_as_tags").bind Setting.bool
  tagCardinality := (memberOf o 3 "tag_cardinality").bind Setting.string
  deltaTtl := (memberOf o 4 "delta_ttl").bind (accepted deserializeI32)
  histograms := (memberOf o 5 "histograms").bind (accepted OtlpMetricsHistograms.deserialize)
  sums := (memberOf o 6 "sums").bind (accepted OtlpMetricsSums.deserialize)
  summaries := (memberOf o 7 "summaries").bind (accepted OtlpMetricsSummaries.deserialize)

theorem deserialize_eq (v : Value) :
    deserializeWithDefault {} deserialize v = .ok (read (some v)) := by
  cases v with
  | dict es | array vs => simp [deserializeWithDefault, deserialize, checkStruct, read]
  | _ => rfl

@[simp]
theorem bind_accepted {β : Type} {g : OtlpMetricsConfig → Option β} (hg : g {} = none)
    (o : Option Value) : (o.bind (accepted deserialize)).bind g = g (read o) :=
  bind_accepted_of_read deserialize_eq rfl rfl hg o

end OtlpMetricsConfig

structure OtlpLogsConfig where
  enabled : Option Bool := none

namespace OtlpLogsConfig

def deserialize (v : Value) : Except Error OtlpLogsConfig := do
  checkStruct "struct OtlpLogsConfig" v
  let enabled ← defaultField v 0 "enabled" none deserializeOptionalBoolFromAnything
  return { enabled }

def read (o : Option Value) : OtlpLogsConfig where
  enabled := (memberOf o 0 "enabled").bind Setting.bool

theorem deserialize_eq (v : Value) :
    deserializeWithDefault {} deserialize v = .ok (read (some v)) := by
  cases v with
  | dict es | array vs => simp [deserializeWithDefault, deserialize, checkStruct, read]
  | _ => rfl

@[simp]
theorem bind_accepted {β : Type} {g : OtlpLogsConfig → Option β} (hg : g {} = none)
    (o : Option Value) : (o.bind (accepted deserialize)).bind g = g (read o) :=
  bind_accepted_of_read deserialize_eq rfl rfl hg o

end OtlpLogsConfig

structure OtlpConfig where
  receiver : Option OtlpReceiverConfig := none
  traces : Option OtlpTracesConfig := none
  metrics : Option OtlpMetricsConfig := none
  logs : Option OtlpLogsConfig := none

namespace OtlpConfig

def deserialize (v : Value) : Except Error OtlpConfig := do
  checkStruct "struct OtlpConfig" v
  let receiver ←
    defaultField v 0 "receiver" none (deserializeOptionWithDefault OtlpReceiverConfig.deserialize)
  let traces ←
    defaultField v 1 "traces" none (deserializeOptionWithDefault OtlpTracesConfig.deserialize)
  let metrics ←
    defaultField v 2 "metrics" none (deserializeOptionWithDefault OtlpMetricsConfig.deserialize)
  let logs ← defaultField v 3 "logs" none (deserializeOptionWithDefault OtlpLogsConfig.deserialize)
  return { receiver, traces, metrics, logs }

def read (o : Option Value) : OtlpConfig where
  receiver := (memberOf o 0 "receiver").bind (accepted OtlpReceiverConfig.deserialize)
  traces := (memberOf o 1 "traces").bind (accepted OtlpTracesConfig.deserialize)
  metrics := (memberOf o 2 "metrics").bind (accepted OtlpMetricsConfig.deserialize)
  logs := (memberOf o 3 "logs").bind (accepted OtlpLogsConfig.deserialize)

theorem deserialize_eq (v : Value) :
    deserializeWithDefault {} deserialize v = .ok (read (some v)) := by
  cases v with
  | dict es | array vs => simp [deserializeWithDefault, deserialize, checkStruct, read]
  | _ => rfl

@[simp]
theorem bind_accepted {β : Type} {g : OtlpConfig → Option β} (hg : g {} = none)
    (o : Option Value) : (o.bind (accepted deserialize)).bind g = g (read o) :=
  bind_accepted_of_read deserialize_eq rfl rfl hg o

def receiverProtocolsHttpEndpoint (self : OtlpConfig) : Option String :=
  self.receiver.bind fun receiver =>
    receiver.protocols.bind fun protocols => protocols.http.bind fun http => http.endpoint

def receiverProtocolsGrpc (self : OtlpConfig) : Option OtlpReceiverGrpcConfig :=
  self.receiver.bind fun receiver => receiver.protocols.bind fun protocols => protocols.grpc

def tracesEnabled (self : OtlpConfig) : Option Bool := self.traces.bind (·.enabled)

def tracesIgnoreMissingDatadogFields (self : OtlpConfig) : Option Bool :=
  self.traces.bind (·.ignoreMissingDatadogFields)

def tracesSpanNameAsResourceName (self : OtlpConfig) : Option Bool :=
  self.traces.bind (·.spanNameAsResourceName)

def tracesSpanNameRemappings (self : OtlpConfig) : HashMap String :=
  (self.traces.map (·.spanNameRemappings)).getD ∅

def tracesProbabilisticSampler (self : OtlpConfig) : Option OtlpTracesProbabilisticSampler :=
  self.traces.bind (·.probabilisticSampler)

/-! What the structs below hold, without the ones above. -/

section

variable {β : Type} (o : Option Value)

theorem bind_traces {g : OtlpTracesConfig → Option β} (hg : g {} = none) :
    (o.bind (accepted deserialize)).bind (fun otlp => otlp.traces.bind g) =
      g (OtlpTracesConfig.read (memberOf o 1 "traces")) := by
  rw [bind_accepted rfl]
  exact OtlpTracesConfig.bind_accepted hg _

theorem bind_metrics {g : OtlpMetricsConfig → Option β} (hg : g {} = none) :
    ((o.bind (accepted deserialize)).bind metrics).bind g =
      g (OtlpMetricsConfig.read (memberOf o 2 "metrics")) := by
  rw [bind_accepted rfl]
  exact OtlpMetricsConfig.bind_accepted hg _

theorem bind_logs {g : OtlpLogsConfig → Option β} (hg : g {} = none) :
    ((o.bind (accepted deserialize)).bind logs).bind g =
      g (OtlpLogsConfig.read (memberOf o 3 "logs")) := by
  rw [bind_accepted rfl]
  exact OtlpLogsConfig.bind_accepted hg _

theorem bind_protocols {g : OtlpReceiverProtocolsConfig → Option β} (hg : g {} = none) :
    (o.bind (accepted deserialize)).bind
        (fun otlp => otlp.receiver.bind fun receiver => receiver.protocols.bind g) =
      g (OtlpReceiverProtocolsConfig.read (memberOf (memberOf o 0 "receiver") 0 "protocols")) := by
  rw [bind_accepted rfl]
  refine (OtlpReceiverConfig.bind_accepted rfl _).trans ?_
  exact OtlpReceiverProtocolsConfig.bind_accepted hg _

theorem bind_http {g : OtlpReceiverHttpConfig → Option β} (hg : g {} = none) :
    (o.bind (accepted deserialize)).bind
        (fun otlp => otlp.receiver.bind fun receiver =>
          receiver.protocols.bind fun protocols => protocols.http.bind g) =
      g (OtlpReceiverHttpConfig.read
        (memberOf (memberOf (memberOf o 0 "receiver") 0 "protocols") 0 "http")) := by
  rw [bind_protocols o rfl]
  exact OtlpReceiverHttpConfig.bind_accepted hg _

theorem bind_grpc {g : OtlpReceiverGrpcConfig → Option β} (hg : g {} = none) :
    ((o.bind (accepted deserialize)).bind receiverProtocolsGrpc).bind g =
      g (OtlpReceiverGrpcConfig.read
        (memberOf (memberOf (memberOf o 0 "receiver") 0 "protocols") 1 "grpc")) := by
  unfold receiverProtocolsGrpc
  rw [bind_protocols o rfl]
  exact OtlpReceiverGrpcConfig.bind_accepted hg _

theorem bind_histograms {g : OtlpMetricsHistograms → Option β} (hg : g {} = none) :
    (((o.bind (accepted deserialize)).bind metrics).bind OtlpMetricsConfig.histograms).bind g =
      g (OtlpMetricsHistograms.read (memberOf (memberOf o 2 "metrics") 5 "histograms")) := by
  rw [bind_metrics o rfl]
  exact OtlpMetricsHistograms.bind_accepted hg _

theorem bind_sums {g : OtlpMetricsSums → Option β} (hg : g {} = none) :
    (((o.bind (accepted deserialize)).bind metrics).bind OtlpMetricsConfig.sums).bind g =
      g (OtlpMetricsSums.read (memberOf (memberOf o 2 "metrics") 6 "sums")) := by
  rw [bind_metrics o rfl]
  exact OtlpMetricsSums.bind_accepted hg _

theorem bind_summaries {g : OtlpMetricsSummaries → Option β} (hg : g {} = none) :
    (((o.bind (accepted deserialize)).bind metrics).bind OtlpMetricsConfig.summaries).bind g =
      g (OtlpMetricsSummaries.read (memberOf (memberOf o 2 "metrics") 7 "summaries")) := by
  rw [bind_metrics o rfl]
  exact OtlpMetricsSummaries.bind_accepted hg _

theorem bind_probabilisticSampler {g : OtlpTracesProbabilisticSampler → Option β}
    (hg : g {} = none) :
    ((o.bind (accepted deserialize)).bind tracesProbabilisticSampler).bind g =
      g (OtlpTracesProbabilisticSampler.read
        (memberOf (memberOf o 1 "traces") 4 "probabilistic_sampler")) := by
  unfold tracesProbabilisticSampler
  rw [bind_traces o rfl]
  exact OtlpTracesProbabilisticSampler.bind_accepted hg _

theorem getD_spanNameRemappings :
    ((o.bind (accepted deserialize)).map tracesSpanNameRemappings).getD ∅ =
      (OtlpTracesConfig.read (memberOf o 1 "traces")).spanNameRemappings := by
  have outer := Option.getD_map tracesSpanNameRemappings {} (o.bind (accepted deserialize))
  rw [getD_accepted_of_read deserialize_eq rfl rfl] at outer
  have inner := Option.getD_map OtlpTracesConfig.spanNameRemappings {} (read o).traces
  refine (outer.trans inner).trans (congrArg OtlpTracesConfig.spanNameRemappings ?_)
  exact getD_accepted_of_read OtlpTracesConfig.deserialize_eq rfl rfl _

end

end OtlpConfig

structure YamlConfig where
  site : Option String := none
  apiKey : Option String := none
  orgUuid : Option String := none
  logLevel : Option LogLevel := none
  flushTimeout : Option UInt64 := none
  compressionLevel : Option Int32 := none
  proxy : ProxyConfig := {}
  ddUrl : Option String := none
  httpProtocol : Option String := none
  tlsCertFile : Option String := none
  skipSslValidation : Option Bool := none
  additionalEndpoints : HashMap (List String) := ∅
  env : Option String := none
  service : Option String := none
  version : Option String := none
  tags : HashMap String := ∅
  logsEnabled : Option Bool := none
  logsConfig : LogsConfig := {}
  apmConfig : ApmConfig := {}
  serviceMapping : HashMap String := ∅
  traceAwsServiceRepresentationEnabled : Option Bool := none
  tracePropagationStyle : List TracePropagationStyle := []
  tracePropagationStyleExtract : List TracePropagationStyle := []
  tracePropagationExtractFirst : Option Bool := none
  tracePropagationHttpBaggageEnabled : Option Bool := none
  metricsConfig : MetricsConfig := {}
  dogstatsdSoRcvbuf : Option UInt64 := none
  dogstatsdBufferSize : Option UInt64 := none
  dogstatsdQueueSize : Option UInt64 := none
  otlpConfig : Option OtlpConfig := none

namespace YamlConfig

def deserialize (v : Value) : Except Error YamlConfig := do
  checkStruct "struct YamlConfig" v
  let site ← defaultField v 0 "site" none deserializeOptionalString
  let apiKey ← defaultField v 1 "api_key" none deserializeOptionalString
  let orgUuid ← defaultField v 2 "org_uuid" none deserializeOptionalString
  let logLevel ←
    defaultField v 3 "log_level" none (deserializeOptionWithDefault LogLevel.deserialize)
  let flushTimeout ←
    defaultField v 4 "flush_timeout" none (deserializeOptionLossless deserializeU64)
  let compressionLevel ←
    defaultField v 5 "compression_level" none (deserializeOptionLossless deserializeI32)
  let proxy ← defaultField v 6 "proxy" {} (deserializeWithDefault {} ProxyConfig.deserialize)
  let ddUrl ← defaultField v 7 "dd_url" none deserializeOptionalString
  let httpProtocol ← defaultField v 8 "http_protocol" none deserializeOptionalString
  let tlsCertFile ← defaultField v 9 "tls_cert_file" none deserializeOptionalString
  let skipSslValidation ←
    defaultField v 10 "skip_ssl_validation" none deserializeOptionalBoolFromAnything
  let additionalEndpoints ←
    defaultField v 11 "additional_endpoints" ∅ deserializeAdditionalEndpoints
  let env ← defaultField v 12 "env" none deserializeStringOrInt
  let service ← defaultField v 13 "service" none deserializeStringOrInt
  let version ← defaultField v 14 "version" none deserializeStringOrInt
  let tags ← defaultField v 15 "tags" ∅ deserializeKeyValuePairArrayToHashmap
  let logsEnabled ← defaultField v 16 "logs_enabled" none deserializeOptionalBoolFromAnything
  let logsConfig ←
    defaultField v 17 "logs_config" {} (deserializeWithDefault {} LogsConfig.deserialize)
  let apmConfig ←
    defaultField v 18 "apm_config" {} (deserializeWithDefault {} ApmConfig.deserialize)
  let serviceMapping ← defaultField v 19 "service_mapping" ∅ deserializeServiceMapping
  let traceAwsServiceRepresentationEnabled ←
    defaultField v 20 "trace_aws_service_representation_enabled" none
      deserializeOptionalBoolFromAnything
  let tracePropagationStyle ←
    defaultField v 21 "trace_propagation_style" [] deserializeTracePropagationStyle
  let tracePropagationStyleExtract ←
    defaultField v 22 "trace_propagation_style_extract" [] deserializeTracePropagationStyle
  let tracePropagationExtractFirst ←
    defaultField v 23 "trace_propagation_extract_first" none deserializeOptionalBoolFromAnything
  let tracePropagationHttpBaggageEnabled ←
    defaultField v 24 "trace_propagation_http_baggage_enabled" none
      deserializeOptionalBoolFromAnything
  let metricsConfig ←
    defaultField v 25 "metrics_config" {} (deserializeWithDefault {} MetricsConfig.deserialize)
  let dogstatsdSoRcvbuf ←
    defaultField v 26 "dogstatsd_so_rcvbuf" none (deserializeOptionLossless deserializeUsize)
  let dogstatsdBufferSize ←
    defaultField v 27 "dogstatsd_buffer_size" none (deserializeOptionLossless deserializeUsize)
  let dogstatsdQueueSize ←
    defaultField v 28 "dogstatsd_queue_size" none (deserializeOptionLossless deserializeUsize)
  let otlpConfig ←
    defaultField v 29 "otlp_config" none (deserializeOptionWithDefault OtlpConfig.deserialize)
  return ⟨site, apiKey, orgUuid, logLevel, flushTimeout, compressionLevel, proxy, ddUrl,
    httpProtocol, tlsCertFile, skipSslValidation, additionalEndpoints, env, service, version,
    tags, logsEnabled, logsConfig, apmConfig, serviceMapping,
    traceAwsServiceRepresentationEnabled, tracePropagationStyle, tracePropagationStyleExtract,
    tracePropagationExtractFirst, tracePropagationHttpBaggageEnabled, metricsConfig,
    dogstatsdSoRcvbuf, dogstatsdBufferSize, dogstatsdQueueSize, otlpConfig⟩

def read (o : Option Value) : YamlConfig where
  site := (memberOf o 0 "site").bind Setting.string
  apiKey := (memberOf o 1 "api_key").bind Setting.string
  orgUuid := (memberOf o 2 "org_uuid").bind Setting.string
  logLevel := (memberOf o 3 "log_level").bind Setting.levelOrWarn
  flushTimeout := (memberOf o 4 "flush_timeout").bind (accepted deserializeU64)
  compressionLevel := (memberOf o 5 "compression_level").bind (accepted deserializeI32)
  proxy := ProxyConfig.read (memberOf o 6 "proxy")
  ddUrl := (memberOf o 7 "dd_url").bind Setting.string
  httpProtocol := (memberOf o 8 "http_protocol").bind Setting.string
  tlsCertFile := (memberOf o 9 "tls_cert_file").bind Setting.string
  skipSslValidation := (memberOf o 10 "skip_ssl_validation").bind Setting.bool
  additionalEndpoints :=
    readOr ∅ deserializeAdditionalEndpoints (memberOf o 11 "additional_endpoints")
  env := (memberOf o 12 "env").bind Setting.text
  service := (memberOf o 13 "service").bind Setting.text
  version := (memberOf o 14 "version").bind Setting.text
  tags := readOr ∅ deserializeKeyValuePairArrayToHashmap (memberOf o 15 "tags")
  logsEnabled := (memberOf o 16 "logs_enabled").bind Setting.bool
  logsConfig := LogsConfig.read (memberOf o 17 "logs_config")
  apmConfig := ApmConfig.read (memberOf o 18 "apm_config")
  serviceMapping := readOr ∅ deserializeServiceMapping (memberOf o 19 "service_mapping")
  traceAwsServiceRepresentationEnabled :=
    (memberOf o 20 "trace_aws_service_representation_enabled").bind Setting.bool
  tracePropagationStyle :=
    readOr [] deserializeTracePropagationStyle (memberOf o 21 "trace_propagation_style")
  tracePropagationStyleExtract :=
    readOr [] deserializeTracePropagationStyle (memberOf o 22 "trace_propagation_style_extract")
  tracePropagationExtractFirst :=
    (memberOf o 23 "trace_propagation_extract_first").bind Setting.bool
  tracePropagationHttpBaggageEnabled :=
    (memberOf o 24 "trace_propagation_http_baggage_enabled").bind Setting.bool
  metricsConfig := MetricsConfig.read (memberOf o 25 "metrics_config")
  dogstatsdSoRcvbuf := (memberOf o 26 "dogstatsd_so_rcvbuf").bind (accepted deserializeUsize)
  dogstatsdBufferSize := (memberOf o 27 "dogstatsd_buffer_size").bind (accepted deserializeUsize)
  dogstatsdQueueSize := (memberOf o 28 "dogstatsd_queue_size").bind (accepted deserializeUsize)
  otlpConfig := (memberOf o 29 "otlp_config").bind (accepted OtlpConfig.deserialize)

theorem deserialize_dict (es : List (String × Value)) :
    deserialize (.dict es) = .ok (read (some (.dict es))) := by
  simp [deserialize, checkStruct, read]

end YamlConfig

def yamlError (e : Error) : ConfigError :=
  .parseError ("Failed to parse config from yaml file: " ++ ExternalCrates.displayError e ++
    ", using default config.")

section

variable {E : Type}

/-- `merge_config` of `yaml.rs`. The levels of the components take the global one first. -/
def YamlConfig.mergeConfig (config : Config E) (yaml : YamlConfig) : Config E :=
  { config with
    get := fun
      | .site => mergeString (config.get .site) yaml.site
      | .apiKey => mergeString (config.get .apiKey) yaml.apiKey
      | .ddOrgUuid => mergeString (config.get .ddOrgUuid) yaml.orgUuid
      | .logLevel => mergeOptionToValue (config.get .logLevel) yaml.logLevel
      | .flushTimeout => mergeOptionToValue (config.get .flushTimeout) yaml.flushTimeout
      | .env => mergeOption (config.get .env) yaml.env
      | .service => mergeOption (config.get .service) yaml.service
      | .version => mergeOption (config.get .version) yaml.version
      | .tags => mergeHashmap (config.get .tags) yaml.tags
      | .compressionLevel => mergeOptionToValue (config.get .compressionLevel) yaml.compressionLevel
      | .proxyHttps => mergeOption (config.get .proxyHttps) yaml.proxy.https
      | .proxyNoProxy => mergeOptionToValue (config.get .proxyNoProxy) yaml.proxy.noProxy
      | .httpProtocol => mergeOption (config.get .httpProtocol) yaml.httpProtocol
      | .tlsCertFile => mergeOption (config.get .tlsCertFile) yaml.tlsCertFile
      | .skipSslValidation =>
        mergeOptionToValue (config.get .skipSslValidation) yaml.skipSslValidation
      | .additionalEndpoints =>
        mergeHashmap (config.get .additionalEndpoints) yaml.additionalEndpoints
      | .ddUrl => mergeString (config.get .ddUrl) yaml.ddUrl
      | .logsEnabled => mergeOptionToValue (config.get .logsEnabled) yaml.logsEnabled
      | .logsConfigLogsDdUrl =>
        mergeString (config.get .logsConfigLogsDdUrl) yaml.logsConfig.logsDdUrl
      | .logsConfigProcessingRules =>
        mergeOption (config.get .logsConfigProcessingRules) yaml.logsConfig.processingRules
      | .logsConfigUseCompression =>
        mergeOptionToValue (config.get .logsConfigUseCompression) yaml.logsConfig.useCompression
      | .logsConfigCompressionLevel =>
        mergeOptionToValue
          (mergeOptionToValue (config.get .logsConfigCompressionLevel) yaml.compressionLevel)
          yaml.logsConfig.compressionLevel
      | .logsConfigAdditionalEndpoints =>
        mergeVec (config.get .logsConfigAdditionalEndpoints) yaml.logsConfig.additionalEndpoints
      | .metricsConfigCompressionLevel =>
        mergeOptionToValue
          (mergeOptionToValue (config.get .metricsConfigCompressionLevel) yaml.compressionLevel)
          yaml.metricsConfig.compressionLevel
      | .dogstatsdSoRcvbuf => mergeOption (config.get .dogstatsdSoRcvbuf) yaml.dogstatsdSoRcvbuf
      | .dogstatsdBufferSize =>
        mergeOption (config.get .dogstatsdBufferSize) yaml.dogstatsdBufferSize
      | .dogstatsdQueueSize => mergeOption (config.get .dogstatsdQueueSize) yaml.dogstatsdQueueSize
      | .serviceMapping => mergeHashmap (config.get .serviceMapping) yaml.serviceMapping
      | .apmDdUrl => mergeString (config.get .apmDdUrl) yaml.apmConfig.apmDdUrl
      | .apmReplaceTags => mergeOption (config.get .apmReplaceTags) yaml.apmConfig.replaceTags
      | .apmConfigCompressionLevel =>
        mergeOptionToValue
          (mergeOptionToValue (config.get .apmConfigCompressionLevel) yaml.compressionLevel)
          yaml.apmConfig.compressionLevel
      | .apmAdditionalEndpoints =>
        mergeHashmap (config.get .apmAdditionalEndpoints) yaml.apmConfig.additionalEndpoints
      | .apmConfigObfuscationHttpRemoveQueryString =>
        mergeOptionToValue (config.get .apmConfigObfuscationHttpRemoveQueryString)
          yaml.apmConfig.obfuscationHttpRemoveQueryString
      | .apmConfigObfuscationHttpRemovePathsWithDigits =>
        mergeOptionToValue (config.get .apmConfigObfuscationHttpRemovePathsWithDigits)
          yaml.apmConfig.obfuscationHttpRemovePathsWithDigits
      | .apmFeatures => mergeVec (config.get .apmFeatures) yaml.apmConfig.features
      | .tracePropagationStyle =>
        mergeVec (config.get .tracePropagationStyle) yaml.tracePropagationStyle
      | .tracePropagationStyleExtract =>
        mergeVec (config.get .tracePropagationStyleExtract) yaml.tracePropagationStyleExtract
      | .tracePropagationExtractFirst =>
        mergeOptionToValue (config.get .tracePropagationExtractFirst)
          yaml.tracePropagationExtractFirst
      | .tracePropagationHttpBaggageEnabled =>
        mergeOptionToValue (config.get .tracePropagationHttpBaggageEnabled)
          yaml.tracePropagationHttpBaggageEnabled
      | .traceAwsServiceRepresentationEnabled =>
        mergeOptionToValue (config.get .traceAwsServiceRepresentationEnabled)
          yaml.traceAwsServiceRepresentationEnabled
      | .otlpConfigTracesEnabled =>
        mergeOptionToValue (config.get .otlpConfigTracesEnabled)
          (yaml.otlpConfig.bind OtlpConfig.tracesEnabled)
      | .otlpConfigTracesSpanNameAsResourceName =>
        mergeOptionToValue (config.get .otlpConfigTracesSpanNameAsResourceName)
          (yaml.otlpConfig.bind OtlpConfig.tracesSpanNameAsResourceName)
      | .otlpConfigTracesSpanNameRemappings =>
        mergeHashmap (config.get .otlpConfigTracesSpanNameRemappings)
          ((yaml.otlpConfig.map OtlpConfig.tracesSpanNameRemappings).getD ∅)
      | .otlpConfigIgnoreMissingDatadogFields =>
        mergeOptionToValue (config.get .otlpConfigIgnoreMissingDatadogFields)
          (yaml.otlpConfig.bind OtlpConfig.tracesIgnoreMissingDatadogFields)
      | .otlpConfigTracesProbabilisticSamplerSamplingPercentage =>
        mergeOption (config.get .otlpConfigTracesProbabilisticSamplerSamplingPercentage)
          ((yaml.otlpConfig.bind OtlpConfig.tracesProbabilisticSampler).bind
            OtlpTracesProbabilisticSampler.samplingPercentage)
      | .otlpConfigReceiverProtocolsHttpEndpoint =>
        mergeOption (config.get .otlpConfigReceiverProtocolsHttpEndpoint)
          (yaml.otlpConfig.bind OtlpConfig.receiverProtocolsHttpEndpoint)
      | .otlpConfigReceiverProtocolsGrpcEndpoint =>
        mergeOption (config.get .otlpConfigReceiverProtocolsGrpcEndpoint)
          ((yaml.otlpConfig.bind OtlpConfig.receiverProtocolsGrpc).bind
            OtlpReceiverGrpcConfig.endpoint)
      | .otlpConfigReceiverProtocolsGrpcTransport =>
        mergeOption (config.get .otlpConfigReceiverProtocolsGrpcTransport)
          ((yaml.otlpConfig.bind OtlpConfig.receiverProtocolsGrpc).bind
            OtlpReceiverGrpcConfig.transport)
      | .otlpConfigReceiverProtocolsGrpcMaxRecvMsgSizeMib =>
        mergeOption (config.get .otlpConfigReceiverProtocolsGrpcMaxRecvMsgSizeMib)
          ((yaml.otlpConfig.bind OtlpConfig.receiverProtocolsGrpc).bind
            OtlpReceiverGrpcConfig.maxRecvMsgSizeMib)
      | .otlpConfigMetricsEnabled =>
        mergeOptionToValue (config.get .otlpConfigMetricsEnabled)
          ((yaml.otlpConfig.bind OtlpConfig.metrics).bind OtlpMetricsConfig.enabled)
      | .otlpConfigMetricsResourceAttributesAsTags =>
        mergeOptionToValue (config.get .otlpConfigMetricsResourceAttributesAsTags)
          ((yaml.otlpConfig.bind OtlpConfig.metrics).bind
            OtlpMetricsConfig.resourceAttributesAsTags)
      | .otlpConfigMetricsInstrumentationScopeMetadataAsTags =>
        mergeOptionToValue (config.get .otlpConfigMetricsInstrumentationScopeMetadataAsTags)
          ((yaml.otlpConfig.bind OtlpConfig.metrics).bind
            OtlpMetricsConfig.instrumentationScopeMetadataAsTags)
      | .otlpConfigMetricsTagCardinality =>
        mergeOption (config.get .otlpConfigMetricsTagCardinality)
          ((yaml.otlpConfig.bind OtlpConfig.metrics).bind OtlpMetricsConfig.tagCardinality)
      | .otlpConfigMetricsDeltaTtl =>
        mergeOption (config.get .otlpConfigMetricsDeltaTtl)
          ((yaml.otlpConfig.bind OtlpConfig.metrics).bind OtlpMetricsConfig.deltaTtl)
      | .otlpConfigMetricsHistogramsSendCountSumMetrics =>
        mergeOptionToValue (config.get .otlpConfigMetricsHistogramsSendCountSumMetrics)
          (((yaml.otlpConfig.bind OtlpConfig.metrics).bind OtlpMetricsConfig.histograms).bind
            OtlpMetricsHistograms.sendCountSumMetrics)
      | .otlpConfigMetricsHistogramsSendAggregationMetrics =>
        mergeOptionToValue (config.get .otlpConfigMetricsHistogramsSendAggregationMetrics)
          (((yaml.otlpConfig.bind OtlpConfig.metrics).bind OtlpMetricsConfig.histograms).bind
            OtlpMetricsHistograms.sendAggregationMetrics)
      | .otlpConfigMetricsHistogramsMode =>
        mergeOption (config.get .otlpConfigMetricsHistogramsMode)
          (((yaml.otlpConfig.bind OtlpConfig.metrics).bind OtlpMetricsConfig.histograms).bind
            OtlpMetricsHistograms.mode)
      | .otlpConfigMetricsSumsCumulativeMonotonicMode =>
        mergeOption (config.get .otlpConfigMetricsSumsCumulativeMonotonicMode)
          (((yaml.otlpConfig.bind OtlpConfig.metrics).bind OtlpMetricsConfig.sums).bind
            OtlpMetricsSums.cumulativeMonotonicMode)
      | .otlpConfigMetricsSumsInitialCumulativMonotonicValue =>
        mergeOption (config.get .otlpConfigMetricsSumsInitialCumulativMonotonicValue)
          (((yaml.otlpConfig.bind OtlpConfig.metrics).bind OtlpMetricsConfig.sums).bind
            OtlpMetricsSums.initialCumulativeMonotonicValue)
      | .otlpConfigMetricsSummariesMode =>
        mergeOption (config.get .otlpConfigMetricsSummariesMode)
          (((yaml.otlpConfig.bind OtlpConfig.metrics).bind OtlpMetricsConfig.summaries).bind
            OtlpMetricsSummaries.mode)
      | .otlpConfigLogsEnabled =>
        mergeOptionToValue (config.get .otlpConfigLogsEnabled)
          ((yaml.otlpConfig.bind OtlpConfig.logs).bind OtlpLogsConfig.enabled)
      | f => config.get f }

/-- `figment.extract::<YamlConfig>()`. -/
def YamlConfig.extract (doc : Dict) : Except Error YamlConfig :=
  YamlConfig.deserialize (Value.ofDict doc)

theorem YamlConfig.extract_eq (doc : Dict) :
    YamlConfig.extract doc = .ok (YamlConfig.read (some (Value.ofDict doc))) :=
  YamlConfig.deserialize_dict _

/-- `YamlConfigSource::load`, from what figment makes of the file: an error, or its entries. -/
def YamlConfig.load [ConfigExtension E] (figment : Except Error Dict) : ConfigSource E :=
  fun config =>
    match figment with
    | .ok doc =>
      match YamlConfig.extract doc with
      | .ok yaml => .ok ((yaml.mergeConfig config).mergeExt doc)
      | .error e => .error (yamlError e)
    | .error e => .error (yamlError e)

end

end ServerlessComponents.AgentConfig
