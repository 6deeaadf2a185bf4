import ServerlessComponents.AgentConfig.Settings

/-!
# The configuration

The resolved configuration of `lib.rs`. Its fields are an enumeration, with their types and
defaults, so that a statement can range over them; the environment has one variable for each.
-/
namespace ServerlessComponents.AgentConfig

inductive ConfigField where
  | site | apiKey | ddOrgUuid | logLevel | flushTimeout | compressionLevel | proxyHttps
  | proxyNoProxy | httpProtocol | tlsCertFile | skipSslValidation | ddUrl | url
  | additionalEndpoints | additionalEndpointsSecretArn | env | service | version | tags
  | logsEnabled | logsConfigLogsDdUrl | logsConfigProcessingRules | logsConfigUseCompression
  | logsConfigCompressionLevel | logsConfigAdditionalEndpoints
  | logsConfigAdditionalEndpointsSecretArn | observabilityPipelinesWorkerLogsEnabled
  | observabilityPipelinesWorkerLogsUrl | serviceMapping | apmDdUrl | apmReplaceTags
  | apmConfigObfuscationHttpRemoveQueryString | apmConfigObfuscationHttpRemovePathsWithDigits
  | apmConfigCompressionLevel | apmFeatures | apmAdditionalEndpoints
  | apmAdditionalEndpointsSecretArn | apmFilterTagsRequire | apmFilterTagsReject
  | apmFilterTagsRegexRequire | apmFilterTagsRegexReject | tracePropagationStyle
  | tracePropagationStyleExtract | tracePropagationExtractFirst
  | tracePropagationHttpBaggageEnabled | traceAwsServiceRepresentationEnabled
  | metricsConfigCompressionLevel | statsdMetricNamespace | dogstatsdSoRcvbuf
  | dogstatsdBufferSize | dogstatsdQueueSize | otlpConfigTracesEnabled
  | otlpConfigTracesSpanNameAsResourceName | otlpConfigTracesSpanNameRemappings
  | otlpConfigIgnoreMissingDatadogFields | otlpConfigReceiverProtocolsHttpEndpoint
  | otlpConfigReceiverProtocolsGrpcEndpoint | otlpConfigReceiverProtocolsGrpcTransport
  | otlpConfigReceiverProtocolsGrpcMaxRecvMsgSizeMib | otlpConfigMetricsEnabled
  | otlpConfigMetricsResourceAttributesAsTags
  | otlpConfigMetricsInstrumentationScopeMetadataAsTags | otlpConfigMetricsTagCardinality
  | otlpConfigMetricsDeltaTtl | otlpConfigMetricsHistogramsMode
  | otlpConfigMetricsHistogramsSendCountSumMetrics
  | otlpConfigMetricsHistogramsSendAggregationMetrics
  | otlpConfigMetricsSumsCumulativeMonotonicMode
  | otlpConfigMetricsSumsInitialCumulativMonotonicValue | otlpConfigMetricsSummariesMode
  | otlpConfigTracesProbabilisticSamplerSamplingPercentage | otlpConfigLogsEnabled
  deriving DecidableEq, Repr

namespace ConfigField

def all : List ConfigField :=
  [.site, .apiKey, .ddOrgUuid, .logLevel, .flushTimeout, .compressionLevel, .proxyHttps,
   .proxyNoProxy, .httpProtocol, .tlsCertFile, .skipSslValidation, .ddUrl, .url,
   .additionalEndpoints, .additionalEndpointsSecretArn, .env, .service, .version, .tags,
   .logsEnabled, .logsConfigLogsDdUrl, .logsConfigProcessingRules, .logsConfigUseCompression,
   .logsConfigCompressionLevel, .logsConfigAdditionalEndpoints,
   .logsConfigAdditionalEndpointsSecretArn, .observabilityPipelinesWorkerLogsEnabled,
   .observabilityPipelinesWorkerLogsUrl, .serviceMapping, .apmDdUrl, .apmReplaceTags,
   .apmConfigObfuscationHttpRemoveQueryString, .apmConfigObfuscationHttpRemovePathsWithDigits,
   .apmConfigCompressionLevel, .apmFeatures, .apmAdditionalEndpoints,
   .apmAdditionalEndpointsSecretArn, .apmFilterTagsRequire, .apmFilterTagsReject,
   .apmFilterTagsRegexRequire, .apmFilterTagsRegexReject, .tracePropagationStyle,
   .tracePropagationStyleExtract, .tracePropagationExtractFirst,
   .tracePropagationHttpBaggageEnabled, .traceAwsServiceRepresentationEnabled,
   .metricsConfigCompressionLevel, .statsdMetricNamespace, .dogstatsdSoRcvbuf,
   .dogstatsdBufferSize, .dogstatsdQueueSize, .otlpConfigTracesEnabled,
   .otlpConfigTracesSpanNameAsResourceName, .otlpConfigTracesSpanNameRemappings,
   .otlpConfigIgnoreMissingDatadogFields, .otlpConfigReceiverProtocolsHttpEndpoint,
   .otlpConfigReceiverProtocolsGrpcEndpoint, .otlpConfigReceiverProtocolsGrpcTransport,
   .otlpConfigReceiverProtocolsGrpcMaxRecvMsgSizeMib, .otlpConfigMetricsEnabled,
   .otlpConfigMetricsResourceAttributesAsTags,
   .otlpConfigMetricsInstrumentationScopeMetadataAsTags, .otlpConfigMetricsTagCardinality,
   .otlpConfigMetricsDeltaTtl, .otlpConfigMetricsHistogramsMode,
   .otlpConfigMetricsHistogramsSendCountSumMetrics,
   .otlpConfigMetricsHistogramsSendAggregationMetrics,
   .otlpConfigMetricsSumsCumulativeMonotonicMode,
   .otlpConfigMetricsSumsInitialCumulativMonotonicValue, .otlpConfigMetricsSummariesMode,
   .otlpConfigTracesProbabilisticSamplerSamplingPercentage, .otlpConfigLogsEnabled]

theorem mem_all (f : ConfigField) : f ∈ all := by
  cases f <;> decide

variable [ExternalCrates]

@[reducible]
def Ty : ConfigField → Type
  | .site | .apiKey | .ddOrgUuid | .ddUrl | .url | .additionalEndpointsSecretArn
  | .logsConfigLogsDdUrl | .logsConfigAdditionalEndpointsSecretArn
  | .observabilityPipelinesWorkerLogsUrl | .apmDdUrl | .apmAdditionalEndpointsSecretArn => String
  | .logLevel => LogLevel
  | .flushTimeout => UInt64
  | .compressionLevel | .logsConfigCompressionLevel | .apmConfigCompressionLevel
  | .metricsConfigCompressionLevel => Int32
  | .proxyHttps | .httpProtocol | .tlsCertFile | .env | .service | .version
  | .statsdMetricNamespace | .otlpConfigReceiverProtocolsHttpEndpoint
  | .otlpConfigReceiverProtocolsGrpcEndpoint | .otlpConfigReceiverProtocolsGrpcTransport
  | .otlpConfigMetricsTagCardinality | .otlpConfigMetricsHistogramsMode
  | .otlpConfigMetricsSumsCumulativeMonotonicMode
  | .otlpConfigMetricsSumsInitialCumulativMonotonicValue | .otlpConfigMetricsSummariesMode =>
      Option String
  | .proxyNoProxy | .apmFeatures => List String
  | .skipSslValidation | .logsEnabled | .logsConfigUseCompression
  | .observabilityPipelinesWorkerLogsEnabled | .apmConfigObfuscationHttpRemoveQueryString
  | .apmConfigObfuscationHttpRemovePathsWithDigits | .tracePropagationExtractFirst
  | .tracePropagationHttpBaggageEnabled | .traceAwsServiceRepresentationEnabled
  | .otlpConfigTracesEnabled | .otlpConfigTracesSpanNameAsResourceName
  | .otlpConfigIgnoreMissingDatadogFields | .otlpConfigMetricsEnabled
  | .otlpConfigMetricsResourceAttributesAsTags
  | .otlpConfigMetricsInstrumentationScopeMetadataAsTags
  | .otlpConfigMetricsHistogramsSendCountSumMetrics
  | .otlpConfigMetricsHistogramsSendAggregationMetrics | .otlpConfigLogsEnabled => Bool
  | .additionalEndpoints | .apmAdditionalEndpoints => HashMap (List String)
  | .tags | .serviceMapping | .otlpConfigTracesSpanNameRemappings => HashMap String
  | .logsConfigProcessingRules => Option (List ProcessingRule)
  | .logsConfigAdditionalEndpoints => List LogsAdditionalEndpoint
  | .apmReplaceTags => Option (List ReplaceRule)
  | .apmFilterTagsRequire | .apmFilterTagsReject | .apmFilterTagsRegexRequire
  | .apmFilterTagsRegexReject => Option (List String)
  | .tracePropagationStyle | .tracePropagationStyleExtract => List TracePropagationStyle
  | .dogstatsdSoRcvbuf | .dogstatsdBufferSize | .dogstatsdQueueSize => Option UInt64
  | .otlpConfigReceiverProtocolsGrpcMaxRecvMsgSizeMib | .otlpConfigMetricsDeltaTtl
  | .otlpConfigTracesProbabilisticSamplerSamplingPercentage => Option Int32

/-- The value of `Config::default`. -/
def default : ∀ f : ConfigField, f.Ty
  | .site | .apiKey | .ddOrgUuid | .ddUrl | .url | .additionalEndpointsSecretArn
  | .logsConfigLogsDdUrl | .logsConfigAdditionalEndpointsSecretArn
  | .observabilityPipelinesWorkerLogsUrl | .apmDdUrl | .apmAdditionalEndpointsSecretArn => ""
  | .logLevel => .warn
  | .flushTimeout => 30
  | .compressionLevel | .logsConfigCompressionLevel | .apmConfigCompressionLevel
  | .metricsConfigCompressionLevel => 3
  | .proxyHttps | .httpProtocol | .tlsCertFile | .env | .service | .version
  | .logsConfigProcessingRules | .apmReplaceTags | .apmFilterTagsRequire | .apmFilterTagsReject
  | .apmFilterTagsRegexRequire | .apmFilterTagsRegexReject | .statsdMetricNamespace
  | .dogstatsdSoRcvbuf | .dogstatsdBufferSize | .dogstatsdQueueSize
  | .otlpConfigReceiverProtocolsHttpEndpoint | .otlpConfigReceiverProtocolsGrpcEndpoint
  | .otlpConfigReceiverProtocolsGrpcTransport
  | .otlpConfigReceiverProtocolsGrpcMaxRecvMsgSizeMib | .otlpConfigMetricsTagCardinality
  | .otlpConfigMetricsDeltaTtl | .otlpConfigMetricsHistogramsMode
  | .otlpConfigMetricsSumsCumulativeMonotonicMode
  | .otlpConfigMetricsSumsInitialCumulativMonotonicValue | .otlpConfigMetricsSummariesMode
  | .otlpConfigTracesProbabilisticSamplerSamplingPercentage => none
  | .proxyNoProxy | .logsConfigAdditionalEndpoints | .apmFeatures
  | .tracePropagationStyleExtract => []
  | .skipSslValidation | .logsEnabled | .observabilityPipelinesWorkerLogsEnabled
  | .apmConfigObfuscationHttpRemoveQueryString | .apmConfigObfuscationHttpRemovePathsWithDigits
  | .tracePropagationExtractFirst | .tracePropagationHttpBaggageEnabled
  | .otlpConfigTracesSpanNameAsResourceName | .otlpConfigIgnoreMissingDatadogFields
  | .otlpConfigMetricsEnabled | .otlpConfigMetricsResourceAttributesAsTags
  | .otlpConfigMetricsInstrumentationScopeMetadataAsTags
  | .otlpConfigMetricsHistogramsSendCountSumMetrics
  | .otlpConfigMetricsHistogramsSendAggregationMetrics | .otlpConfigLogsEnabled => false
  | .additionalEndpoints | .tags | .serviceMapping | .apmAdditionalEndpoints
  | .otlpConfigTracesSpanNameRemappings => (∅ : HashMap _)
  | .logsConfigUseCompression | .traceAwsServiceRepresentationEnabled | .otlpConfigTracesEnabled =>
      true
  | .tracePropagationStyle => [ExternalCrates.datadog, ExternalCrates.traceContext]

end ConfigField

/-! ## Merge macros -/

section

variable {α : Type}

def mergeString (value : String) (source : Option String) : String := source.getD value

def mergeOption (value source : Option α) : Option α := if source.isSome then source else value

def mergeOptionToValue (value : α) (source : Option α) : α := source.getD value

def mergeVec (value source : List α) : List α := if source.isEmpty then value else source

def mergeHashmap (value source : HashMap α) : HashMap α :=
  if source.entries.isEmpty then value else source

theorem mergeOption_eq (value source : Option α) :
    mergeOption value source = (source.map some).getD value := by
  cases source <;> rfl

theorem mergeVec_eq (value source : List α) :
    mergeVec value source = (unlessEmpty source).getD value := by
  unfold mergeVec unlessEmpty
  split <;> rfl

theorem mergeHashmap_eq (value source : HashMap α) :
    mergeHashmap value source = (unlessEmptyMap source).getD value := by
  unfold mergeHashmap unlessEmptyMap
  split <;> rfl

end

/-! ## The configuration and its sources -/

/-- The fields a consumer adds, with the type they are read into. -/
class ConfigExtension (E : Type) where
  Source : Type
  default : E
  extract : Dict → Except Error Source
  mergeFrom : E → Source → E

structure NoExtension

structure NoExtensionSource

/-- The extension without fields reads any input. -/
instance : ConfigExtension NoExtension where
  Source := NoExtensionSource
  default := ⟨⟩
  extract _ := .ok ⟨⟩
  mergeFrom self _ := self

variable [ExternalCrates]

structure Config (E : Type) where
  get : ∀ f : ConfigField, f.Ty
  ext : E

namespace Config

variable {E : Type}

def default [ConfigExtension E] : Config E := ⟨ConfigField.default, ConfigExtension.default⟩

def set (config : Config E) (f : ConfigField) (x : f.Ty) : Config E :=
  { config with get := Function.update config.get f x }

/-- The second extraction of a source; an error leaves the extension as it is. -/
def mergeExt [ConfigExtension E] (config : Config E) (figment : Dict) : Config E :=
  match ConfigExtension.extract (E := E) figment with
  | .ok source => { config with ext := ConfigExtension.mergeFrom config.ext source }
  | .error _ => config

end Config

inductive ConfigError where
  | parseError (message : String)
  | unsupportedField (message : String)
  deriving DecidableEq, Repr

/-- A source changes the configuration, or fails and leaves it. -/
abbrev ConfigSource (E : Type) := Config E → Except ConfigError (Config E)

end ServerlessComponents.AgentConfig
