import ServerlessComponents.AgentConfig.Builder
import ServerlessComponents.AgentConfig.Env
import ServerlessComponents.AgentConfig.Yaml

/-!
# Layering of the sources

What each source sets, read off its raw values alone, and the configuration in which the
environment lies over the file and the file over the defaults. The merged configuration is that
one unless a malformed variable gets in the way.
-/
namespace ServerlessComponents.AgentConfig

namespace ConfigField

/-- The levels of the components, which fall back to the global level as well. -/
def isComponentLevel : ConfigField → Bool
  | .logsConfigCompressionLevel | .apmConfigCompressionLevel | .metricsConfigCompressionLevel =>
    true
  | _ => false

/-- Where a field is in a document: the place and the name of each field on the way. -/
def yamlPath : ConfigField → Option (List (Nat × String))
  | .site => some [(0, "site")]
  | .apiKey => some [(1, "api_key")]
  | .ddOrgUuid => some [(2, "org_uuid")]
  | .logLevel => some [(3, "log_level")]
  | .flushTimeout => some [(4, "flush_timeout")]
  | .env => some [(12, "env")]
  | .service => some [(13, "service")]
  | .version => some [(14, "version")]
  | .tags => some [(15, "tags")]
  | .compressionLevel => some [(5, "compression_level")]
  | .proxyHttps => some [(6, "proxy"), (0, "https")]
  | .proxyNoProxy => some [(6, "proxy"), (1, "no_proxy")]
  | .httpProtocol => some [(8, "http_protocol")]
  | .tlsCertFile => some [(9, "tls_cert_file")]
  | .skipSslValidation => some [(10, "skip_ssl_validation")]
  | .additionalEndpoints => some [(11, "additional_endpoints")]
  | .ddUrl => some [(7, "dd_url")]
  | .logsEnabled => some [(16, "logs_enabled")]
  | .logsConfigLogsDdUrl => some [(17, "logs_config"), (0, "logs_dd_url")]
  | .logsConfigProcessingRules => some [(17, "logs_config"), (1, "processing_rules")]
  | .logsConfigUseCompression => some [(17, "logs_config"), (2, "use_compression")]
  | .logsConfigAdditionalEndpoints => some [(17, "logs_config"), (4, "additional_endpoints")]
  | .dogstatsdSoRcvbuf => some [(26, "dogstatsd_so_rcvbuf")]
  | .dogstatsdBufferSize => some [(27, "dogstatsd_buffer_size")]
  | .dogstatsdQueueSize => some [(28, "dogstatsd_queue_size")]
  | .serviceMapping => some [(19, "service_mapping")]
  | .apmDdUrl => some [(18, "apm_config"), (0, "apm_dd_url")]
  | .apmReplaceTags => some [(18, "apm_config"), (1, "replace_tags")]
  | .apmAdditionalEndpoints => some [(18, "apm_config"), (5, "additional_endpoints")]
  | .apmConfigObfuscationHttpRemoveQueryString =>
    some [(18, "apm_config"), (2, "obfuscation"), (0, "http"), (0, "remove_query_string")]
  | .apmConfigObfuscationHttpRemovePathsWithDigits =>
    some [(18, "apm_config"), (2, "obfuscation"), (0, "http"), (1, "remove_paths_with_digits")]
  | .apmFeatures => some [(18, "apm_config"), (4, "features")]
  | .tracePropagationStyle => some [(21, "trace_propagation_style")]
  | .tracePropagationStyleExtract => some [(22, "trace_propagation_style_extract")]
  | .tracePropagationExtractFirst => some [(23, "trace_propagation_extract_first")]
  | .tracePropagationHttpBaggageEnabled => some [(24, "trace_propagation_http_baggage_enabled")]
  | .traceAwsServiceRepresentationEnabled => some [(20, "trace_aws_service_representation_enabled")]
  | .otlpConfigTracesEnabled => some [(29, "otlp_config"), (1, "traces"), (0, "enabled")]
  | .otlpConfigTracesSpanNameAsResourceName =>
    some [(29, "otlp_config"), (1, "traces"), (1, "span_name_as_resource_name")]
  | .otlpConfigTracesSpanNameRemappings =>
    some [(29, "otlp_config"), (1, "traces"), (2, "span_name_remappings")]
  | .otlpConfigIgnoreMissingDatadogFields =>
    some [(29, "otlp_config"), (1, "traces"), (3, "ignore_missing_datadog_fields")]
  | .otlpConfigTracesProbabilisticSamplerSamplingPercentage =>
    some [(29, "otlp_config"), (1, "traces"), (4, "probabilistic_sampler"),
      (0, "sampling_percentage")]
  | .otlpConfigReceiverProtocolsHttpEndpoint =>
    some [(29, "otlp_config"), (0, "receiver"), (0, "protocols"), (0, "http"), (0, "endpoint")]
  | .otlpConfigReceiverProtocolsGrpcEndpoint =>
    some [(29, "otlp_config"), (0, "receiver"), (0, "protocols"), (1, "grpc"), (0, "endpoint")]
  | .otlpConfigReceiverProtocolsGrpcTransport =>
    some [(29, "otlp_config"), (0, "receiver"), (0, "protocols"), (1, "grpc"), (1, "transport")]
  | .otlpConfigReceiverProtocolsGrpcMaxRecvMsgSizeMib =>
    some [(29, "otlp_config"), (0, "receiver"), (0, "protocols"), (1, "grpc"),
      (2, "max_recv_msg_size_mib")]
  | .otlpConfigMetricsEnabled => some [(29, "otlp_config"), (2, "metrics"), (0, "enabled")]
  | .otlpConfigMetricsResourceAttributesAsTags =>
    some [(29, "otlp_config"), (2, "metrics"), (1, "resource_attributes_as_tags")]
  | .otlpConfigMetricsInstrumentationScopeMetadataAsTags =>
    some [(29, "otlp_config"), (2, "metrics"), (2, "instrumentation_scope_metadata_as_tags")]
  | .otlpConfigMetricsTagCardinality =>
    some [(29, "otlp_config"), (2, "metrics"), (3, "tag_cardinality")]
  | .otlpConfigMetricsDeltaTtl => some [(29, "otlp_config"), (2, "metrics"), (4, "delta_ttl")]
  | .otlpConfigMetricsHistogramsSendCountSumMetrics =>
    some [(29, "otlp_config"), (2, "metrics"), (5, "histograms"), (1, "send_count_sum_metrics")]
  | .otlpConfigMetricsHistogramsSendAggregationMetrics =>
    some [(29, "otlp_config"), (2, "metrics"), (5, "histograms"), (2, "send_aggregation_metrics")]
  | .otlpConfigMetricsHistogramsMode =>
    some [(29, "otlp_config"), (2, "metrics"), (5, "histograms"), (0, "mode")]
  | .otlpConfigMetricsSumsCumulativeMonotonicMode =>
    some [(29, "otlp_config"), (2, "metrics"), (6, "sums"), (0, "cumulative_monotonic_mode")]
  | .otlpConfigMetricsSumsInitialCumulativMonotonicValue =>
    some [(29, "otlp_config"), (2, "metrics"), (6, "sums"),
      (1, "initial_cumulative_monotonic_value")]
  | .otlpConfigMetricsSummariesMode =>
    some [(29, "otlp_config"), (2, "metrics"), (7, "summaries"), (0, "mode")]
  | .otlpConfigLogsEnabled => some [(29, "otlp_config"), (3, "logs"), (0, "enabled")]
  | _ => none

variable [ExternalCrates]

/-- What the value at the end of the path sets. -/
def yamlSets : ∀ f : ConfigField, Value → Option f.Ty
  | .site | .apiKey | .ddOrgUuid | .ddUrl | .logsConfigLogsDdUrl | .apmDdUrl => Setting.string
  | .logLevel => Setting.level
  | .flushTimeout => accepted deserializeU64
  | .env | .service | .version => fun v => (Setting.text v).map some
  | .tags => Setting.tagArray
  | .compressionLevel => accepted deserializeI32
  | .proxyHttps | .httpProtocol | .tlsCertFile | .otlpConfigReceiverProtocolsHttpEndpoint
  | .otlpConfigReceiverProtocolsGrpcEndpoint | .otlpConfigReceiverProtocolsGrpcTransport
  | .otlpConfigMetricsTagCardinality | .otlpConfigMetricsHistogramsMode
  | .otlpConfigMetricsSumsCumulativeMonotonicMode
  | .otlpConfigMetricsSumsInitialCumulativMonotonicValue | .otlpConfigMetricsSummariesMode =>
      fun v => (Setting.string v).map some
  | .proxyNoProxy => Setting.vec deserializeString
  | .skipSslValidation | .logsEnabled | .logsConfigUseCompression
  | .apmConfigObfuscationHttpRemoveQueryString | .apmConfigObfuscationHttpRemovePathsWithDigits
  | .tracePropagationExtractFirst | .tracePropagationHttpBaggageEnabled
  | .traceAwsServiceRepresentationEnabled | .otlpConfigTracesEnabled
  | .otlpConfigTracesSpanNameAsResourceName | .otlpConfigIgnoreMissingDatadogFields
  | .otlpConfigMetricsEnabled | .otlpConfigMetricsResourceAttributesAsTags
  | .otlpConfigMetricsInstrumentationScopeMetadataAsTags
  | .otlpConfigMetricsHistogramsSendCountSumMetrics
  | .otlpConfigMetricsHistogramsSendAggregationMetrics | .otlpConfigLogsEnabled => Setting.bool
  | .additionalEndpoints | .apmAdditionalEndpoints => Setting.endpoints
  | .logsConfigProcessingRules => fun v => (Setting.processingRules v).map some
  | .logsConfigAdditionalEndpoints => Setting.vec LogsAdditionalEndpoint.deserialize
  | .dogstatsdSoRcvbuf | .dogstatsdBufferSize | .dogstatsdQueueSize =>
      fun v => (accepted deserializeUsize v).map some
  | .serviceMapping => Setting.map parseServiceMappings
  | .apmReplaceTags => fun v => (Setting.replaceRules v).map some
  | .apmFeatures => Setting.features
  | .tracePropagationStyle | .tracePropagationStyleExtract => Setting.list parseStyles
  | .otlpConfigTracesSpanNameRemappings => Setting.hashMap deserializeString
  | .otlpConfigTracesProbabilisticSamplerSamplingPercentage
  | .otlpConfigReceiverProtocolsGrpcMaxRecvMsgSizeMib | .otlpConfigMetricsDeltaTtl =>
      fun v => (accepted deserializeI32 v).map some
  | _ => fun _ => none

/-- What a well-formed variable sets. -/
def envSets : ∀ f : ConfigField, f.deserializer.Val → Option f.Ty
  | .proxyHttps | .httpProtocol | .tlsCertFile | .env | .service | .version
  | .logsConfigProcessingRules | .apmReplaceTags | .apmFilterTagsRequire | .apmFilterTagsReject
  | .apmFilterTagsRegexRequire | .apmFilterTagsRegexReject | .dogstatsdSoRcvbuf
  | .dogstatsdBufferSize | .dogstatsdQueueSize | .otlpConfigReceiverProtocolsHttpEndpoint
  | .otlpConfigReceiverProtocolsGrpcEndpoint | .otlpConfigReceiverProtocolsGrpcTransport
  | .otlpConfigReceiverProtocolsGrpcMaxRecvMsgSizeMib | .otlpConfigMetricsTagCardinality
  | .otlpConfigMetricsDeltaTtl | .otlpConfigMetricsHistogramsMode
  | .otlpConfigMetricsSumsCumulativeMonotonicMode
  | .otlpConfigMetricsSumsInitialCumulativMonotonicValue | .otlpConfigMetricsSummariesMode
  | .otlpConfigTracesProbabilisticSamplerSamplingPercentage => fun x => some (some x)
  | .statsdMetricNamespace => fun ns => (parseMetricNamespace ns).map some
  | .site | .apiKey | .ddOrgUuid | .logLevel | .flushTimeout | .compressionLevel | .proxyNoProxy
  | .skipSslValidation | .ddUrl | .url | .additionalEndpoints | .additionalEndpointsSecretArn
  | .tags | .logsEnabled | .logsConfigLogsDdUrl | .logsConfigUseCompression
  | .logsConfigCompressionLevel | .logsConfigAdditionalEndpoints
  | .logsConfigAdditionalEndpointsSecretArn | .observabilityPipelinesWorkerLogsEnabled
  | .observabilityPipelinesWorkerLogsUrl | .serviceMapping | .apmDdUrl
  | .apmConfigObfuscationHttpRemoveQueryString | .apmConfigObfuscationHttpRemovePathsWithDigits
  | .apmConfigCompressionLevel | .apmFeatures | .apmAdditionalEndpoints
  | .apmAdditionalEndpointsSecretArn | .tracePropagationStyle | .tracePropagationStyleExtract
  | .tracePropagationExtractFirst | .tracePropagationHttpBaggageEnabled
  | .traceAwsServiceRepresentationEnabled | .metricsConfigCompressionLevel
  | .otlpConfigTracesEnabled | .otlpConfigTracesSpanNameAsResourceName
  | .otlpConfigTracesSpanNameRemappings | .otlpConfigIgnoreMissingDatadogFields
  | .otlpConfigMetricsEnabled | .otlpConfigMetricsResourceAttributesAsTags
  | .otlpConfigMetricsInstrumentationScopeMetadataAsTags
  | .otlpConfigMetricsHistogramsSendCountSumMetrics
  | .otlpConfigMetricsHistogramsSendAggregationMetrics | .otlpConfigLogsEnabled => some

end ConfigField

/-! ## Merging what was read -/

section

variable {α : Type} (o : Option Value)

theorem mergeOption_bind (s : Value → Option α) :
    mergeOption none (o.bind s) = (o.bind fun v => (s v).map some).getD none := by
  rw [mergeOption_eq, Option.map_bind]
  rfl

theorem mergeVec_readOr {d : Value → Except Error (List α)} {s : Value → Option (List α)}
    (hd : ∀ v, (accepted d v).bind unlessEmpty = s v) (default : List α) :
    mergeVec default (readOr [] d o) = (o.bind s).getD default := by
  rw [mergeVec_eq, readOr, unlessEmpty_getD, Option.bind_assoc]
  exact congrArg (fun s => (o.bind s).getD default) (funext hd)

theorem mergeHashmap_readOr {d : Value → Except Error (HashMap α)} {s : Value → Option (HashMap α)}
    (hd : ∀ v, (accepted d v).bind unlessEmptyMap = s v) (default : HashMap α) :
    mergeHashmap default (readOr ∅ d o) = (o.bind s).getD default := by
  rw [mergeHashmap_eq, readOr, unlessEmptyMap_getD, Option.bind_assoc]
  exact congrArg (fun s => (o.bind s).getD default) (funext hd)

/-- The default level is what a malformed one is decoded to, so a file cannot tell them apart. -/
theorem getD_levelOrWarn :
    (o.bind Setting.levelOrWarn).getD .warn = (o.bind Setting.level).getD .warn := by
  cases o with
  | none => rfl
  | some v => cases v <;> rfl

/-- A malformed level is decoded to the default level, which then hides the level below it. -/
theorem getD_levelOrWarn_eq_iff {v : Value} {lower : LogLevel} :
    (Setting.levelOrWarn v).getD lower = (Setting.level v).getD lower ↔
      (v ≠ .null → Setting.level v = none → lower = .warn) := by
  by_cases hnull : v = .null
  · subst hnull
    exact iff_of_true rfl fun h => absurd rfl h
  · have decoded : Setting.levelOrWarn v = some ((Setting.level v).getD .warn) := by
      cases v <;> first | rfl | exact absurd rfl hnull
    rw [decoded]
    cases Setting.level v with
    | some l => exact iff_of_true rfl fun _ h => nomatch h
    | none => exact ⟨fun h _ _ => h.symm, fun h => (h hnull rfl).symm⟩

theorem getD_unlessEmpty (l : Option (List α)) : (l.bind unlessEmpty).getD [] = l.getD [] := by
  cases l with
  | none => rfl
  | some l => cases l <;> rfl

theorem bind_deserializeKeyValuePairArrayToHashmap (v : Value) :
    (accepted deserializeKeyValuePairArrayToHashmap v).bind unlessEmptyMap =
      Setting.tagArray v := by
  unfold Setting.tagArray
  cases v with
  | array vs =>
    simp only [accepted, deserializeKeyValuePairArrayToHashmap]
    cases deserializeVec deserializeString (.array vs) <;> rfl
  | _ => rfl

theorem bind_deserializeServiceMapping (v : Value) :
    (accepted deserializeServiceMapping v).bind unlessEmptyMap =
      Setting.map parseServiceMappings v := by
  cases v <;> rfl

theorem bind_deserializeFeatures (v : Value) :
    (accepted deserializeCommaThenSpaceSeparatedStringOrList v).bind unlessEmpty =
      Setting.features v := by
  cases v with
  | array items => exact unlessEmpty_getD _
  | _ => rfl

end

section

variable [ExternalCrates]

/-- What a document sets. -/
def yamlSetting (doc : Option Value) (f : ConfigField) : Option f.Ty :=
  f.yamlPath.bind fun path =>
    (path.foldl (fun o step => memberOf o step.1 step.2) doc).bind f.yamlSets

/-- What the environment sets. -/
def envSetting (figment : Dict) (f : ConfigField) : Option f.Ty :=
  ((figment.lookup f.envKey).bind f.deserializer.valid).bind f.envSets

theorem yamlSetting_none (f : ConfigField) : yamlSetting none f = none := by
  have no_member (path : List (Nat × String)) :
      path.foldl (fun o step => memberOf o step.1 step.2) none = none := by
    induction path with
    | nil => rfl
    | cons step path ih => exact ih
  unfold yamlSetting
  cases f.yamlPath with
  | none => rfl
  | some path => rw [Option.bind_some, no_member, Option.bind_none]

/-! ## The file over the defaults -/

theorem bind_deserializeTracePropagationStyle (v : Value) :
    (accepted deserializeTracePropagationStyle v).bind unlessEmpty =
      Setting.list parseStyles v := by
  cases v <;> rfl

theorem bind_deserializeAdditionalEndpoints (v : Value) :
    (accepted deserializeAdditionalEndpoints v).bind unlessEmptyMap = Setting.endpoints v := by
  obtain ⟨m, hm, sets⟩ := deserializeAdditionalEndpoints_eq v
  rw [← sets]
  cases v with
  | null => cases hm; rfl
  | _ => simp [accepted, hm]

/-- Merged over the defaults, a file shows what its document sets. -/
theorem YamlConfig.get_mergeConfig {E : Type} [ConfigExtension E] (doc : Option Value)
    {f : ConfigField} (hf : f.isComponentLevel = false) :
    ((YamlConfig.read doc).mergeConfig (Config.default : Config E)).get f =
      Record.overlay (yamlSetting doc) ConfigField.default f := by
  cases f
  case logsConfigCompressionLevel | apmConfigCompressionLevel | metricsConfigCompressionLevel =>
    cases hf
  case logLevel => exact getD_levelOrWarn _
  case proxyNoProxy =>
    refine (getD_unlessEmpty _).symm.trans ?_
    exact congrArg (Option.getD · []) (Option.bind_assoc _ _ _)
  -- collections
  case tags => exact mergeHashmap_readOr _ bind_deserializeKeyValuePairArrayToHashmap _
  case serviceMapping => exact mergeHashmap_readOr _ bind_deserializeServiceMapping _
  case additionalEndpoints | apmAdditionalEndpoints =>
    exact mergeHashmap_readOr _ bind_deserializeAdditionalEndpoints _
  case apmFeatures => exact mergeVec_readOr _ bind_deserializeFeatures _
  case logsConfigAdditionalEndpoints => exact mergeVec_readOr _ (fun _ => rfl) _
  case tracePropagationStyle | tracePropagationStyleExtract =>
    exact mergeVec_readOr _ bind_deserializeTracePropagationStyle _
  case otlpConfigTracesSpanNameRemappings =>
    refine (congrArg (mergeHashmap _) (OtlpConfig.getD_spanNameRemappings _)).trans ?_
    exact mergeHashmap_readOr _ (fun _ => rfl) _
  -- optional fields of the configuration
  case env | service | version | proxyHttps | httpProtocol | tlsCertFile
      | logsConfigProcessingRules | apmReplaceTags | dogstatsdSoRcvbuf | dogstatsdBufferSize
      | dogstatsdQueueSize =>
    exact mergeOption_bind _ _
  case otlpConfigReceiverProtocolsHttpEndpoint =>
    exact (congrArg (mergeOption none) (OtlpConfig.bind_http _ rfl)).trans (mergeOption_bind _ _)
  case otlpConfigReceiverProtocolsGrpcEndpoint | otlpConfigReceiverProtocolsGrpcTransport
      | otlpConfigReceiverProtocolsGrpcMaxRecvMsgSizeMib =>
    exact (congrArg (mergeOption none) (OtlpConfig.bind_grpc _ rfl)).trans (mergeOption_bind _ _)
  case otlpConfigMetricsTagCardinality | otlpConfigMetricsDeltaTtl =>
    exact (congrArg (mergeOption none) (OtlpConfig.bind_metrics _ rfl)).trans (mergeOption_bind _ _)
  case otlpConfigMetricsHistogramsMode =>
    exact (congrArg (mergeOption none) (OtlpConfig.bind_histograms _ rfl)).trans
      (mergeOption_bind _ _)
  case otlpConfigMetricsSumsCumulativeMonotonicMode
      | otlpConfigMetricsSumsInitialCumulativMonotonicValue =>
    exact (congrArg (mergeOption none) (OtlpConfig.bind_sums _ rfl)).trans (mergeOption_bind _ _)
  case otlpConfigMetricsSummariesMode =>
    exact (congrArg (mergeOption none) (OtlpConfig.bind_summaries _ rfl)).trans
      (mergeOption_bind _ _)
  case otlpConfigTracesProbabilisticSamplerSamplingPercentage =>
    exact (congrArg (mergeOption none) (OtlpConfig.bind_probabilisticSampler _ rfl)).trans
      (mergeOption_bind _ _)
  -- the others below a struct that may be missing
  case apmConfigObfuscationHttpRemoveQueryString | apmConfigObfuscationHttpRemovePathsWithDigits =>
    exact congrArg (Option.getD · _) (ApmObfuscation.bind_accepted rfl _)
  case otlpConfigTracesEnabled | otlpConfigTracesSpanNameAsResourceName
      | otlpConfigIgnoreMissingDatadogFields =>
    exact congrArg (Option.getD · _) (OtlpConfig.bind_traces _ rfl)
  case otlpConfigMetricsEnabled | otlpConfigMetricsResourceAttributesAsTags
      | otlpConfigMetricsInstrumentationScopeMetadataAsTags =>
    exact congrArg (Option.getD · _) (OtlpConfig.bind_metrics _ rfl)
  case otlpConfigMetricsHistogramsSendCountSumMetrics
      | otlpConfigMetricsHistogramsSendAggregationMetrics =>
    exact congrArg (Option.getD · _) (OtlpConfig.bind_histograms _ rfl)
  case otlpConfigLogsEnabled => exact congrArg (Option.getD · _) (OtlpConfig.bind_logs _ rfl)
  all_goals rfl

/-! ## The environment over a configuration -/

theorem mergeField_eq {f : ConfigField} (hf : f ≠ .statsdMetricNamespace) (value : f.Ty)
    (source : f.deserializer.Out) :
    mergeField f value source = ((f.deserializer.setting source).bind f.envSets).getD value := by
  cases f
  case statsdMetricNamespace => exact absurd rfl hf
  case proxyNoProxy | logsConfigAdditionalEndpoints | apmFeatures | tracePropagationStyle
      | tracePropagationStyleExtract =>
    refine (mergeVec_eq value source).trans (congrArg (Option.getD · value) ?_)
    exact (Option.bind_fun_some _).symm
  case additionalEndpoints | tags | serviceMapping | apmAdditionalEndpoints
      | otlpConfigTracesSpanNameRemappings =>
    refine (mergeHashmap_eq value source).trans (congrArg (Option.getD · value) ?_)
    exact (Option.bind_fun_some _).symm
  all_goals cases source <;> rfl

/-- A namespace that is not well formed is set to `none`, which it was before. -/
theorem mergeField_namespace (source : Option String) :
    mergeField .statsdMetricNamespace none source =
      (source.bind fun ns => (parseMetricNamespace ns).map some).getD none := by
  cases source with
  | none => rfl
  | some ns =>
    have parsed : mergeField .statsdMetricNamespace none (some ns) = parseMetricNamespace ns := rfl
    rw [parsed, Option.bind_some]
    cases parseMetricNamespace ns with
    | none => rfl
    | some ns => rfl

theorem EnvConfig.get_mergeConfig {E : Type} (env : EnvConfig) {config : Config E}
    (hns : config.get .statsdMetricNamespace = none) {f : ConfigField}
    (hf : f.isComponentLevel = false) :
    (env.mergeConfig config).get f =
      ((f.deserializer.setting (env f)).bind f.envSets).getD (config.get f) := by
  by_cases ns : f = .statsdMetricNamespace
  · subst ns
    rw [hns]
    exact (congrArg (mergeField _ · _) hns).trans (mergeField_namespace _)
  · rw [← mergeField_eq ns]
    cases f <;> first | rfl | cases hf

theorem setting_of_extract {figment : Dict} {env : EnvConfig}
    (h : EnvConfig.extract figment = .ok env) {f : ConfigField} (hf : f ≠ .logLevel) :
    f.deserializer.setting (env f) = (figment.lookup f.envKey).bind f.deserializer.valid := by
  have not_level : f.deserializer ≠ .withDefaultLogLevel := by
    cases f <;> first | exact absurd rfl hf | decide
  cases hv : figment.lookup f.envKey with
  | none => exact Deserializer.setting_eq_none_iff.2 (EnvConfig.absent_of_extract h hv)
  | some v => exact Deserializer.setting_of_run not_level (EnvConfig.run_of_extract h hv)

theorem logLevel_of_extract {figment : Dict} {env : EnvConfig}
    (h : EnvConfig.extract figment = .ok env) :
    env .logLevel = (figment.lookup "log_level").bind Setting.levelOrWarn := by
  cases hv : figment.lookup "log_level" with
  | none => exact EnvConfig.absent_of_extract h hv
  | some v =>
    have run := EnvConfig.run_of_extract h (f := .logLevel) hv
    exact Except.ok.inj (run.symm.trans (deserializeLogLevel_eq v))

/-! ## The sources, one over the other -/

variable (E : Type) [ConfigExtension E]

/-- A builder with the file as its first source and the environment as its second. -/
def yamlThenEnv (yaml : Except Error Dict) (env : Dict) : ConfigBuilder E :=
  (ConfigBuilder.default.addSource (YamlConfig.load yaml)).addSource (EnvConfig.load env)

/-- The configuration once both are loaded. -/
def merged (yaml : Except Error Dict) (env : Dict) : Config E :=
  (yamlThenEnv E yaml env).loadSources

/-- The file over the defaults; a file that cannot be read is an empty one. -/
def fileLayer (yaml : Except Error Dict) : ∀ f : ConfigField, f.Ty :=
  Record.overlay (yamlSetting (yaml.toOption.map Value.ofDict)) ConfigField.default

/-- The environment over the file over the defaults. -/
def layers (yaml : Except Error Dict) (env : Dict) : ∀ f : ConfigField, f.Ty :=
  Record.overlay (envSetting env) (fileLayer yaml)

/-- The configuration has the layers as its fields, the levels of the components aside. -/
def Layered (yaml : Except Error Dict) (env : Dict) : Prop :=
  ∀ f : ConfigField, f.isComponentLevel = false →
    (merged E yaml env).get f = layers yaml env f

/-- A malformed log level in the environment meets the default level below it, and an environment
that cannot be extracted repeats the values below it. -/
structure Unobstructed (yaml : Except Error Dict) (env : Dict) : Prop where
  level : Anticipated env → ∀ v, env.lookup "log_level" = some v → v ≠ .null →
    Setting.level v = none → fileLayer yaml .logLevel = .warn
  redundant : ¬ Anticipated env → ∀ f : ConfigField, f.isComponentLevel = false →
    ∀ x, envSetting env f = some x → x = fileLayer yaml f

variable {E} {yaml : Except Error Dict} {env : Dict} {f : ConfigField}

@[simp]
theorem Config.get_mergeExt (config : Config E) (figment : Dict) :
    (config.mergeExt figment).get = config.get := by
  unfold Config.mergeExt
  split <;> rfl

theorem loadSource_yaml (hf : f.isComponentLevel = false) :
    (loadSource (Config.default : Config E) (YamlConfig.load yaml)).get f = fileLayer yaml f := by
  cases yaml with
  | error e =>
    have nothing_set : yamlSetting none f = none := yamlSetting_none f
    simp [loadSource, YamlConfig.load, fileLayer, Except.toOption, Record.overlay, nothing_set,
      Config.default]
  | ok doc =>
    simp only [loadSource, YamlConfig.load, YamlConfig.extract_eq, Config.get_mergeExt]
    exact YamlConfig.get_mergeConfig (some (Value.ofDict doc)) hf

/-- An environment that cannot be extracted is skipped. -/
theorem merged_of_not_anticipated (h : ¬ Anticipated env) (hf : f.isComponentLevel = false) :
    (merged E yaml env).get f = fileLayer yaml f := by
  have failed : ∃ e, EnvConfig.extract env = .error e := by
    cases extracted : EnvConfig.extract env with
    | error e => exact ⟨e, rfl⟩
    | ok r => exact absurd (EnvConfig.extract_ok_iff.1 ⟨r, extracted⟩) h
  obtain ⟨e, he⟩ := failed
  rw [← loadSource_yaml (E := E) hf]
  simp [merged, yamlThenEnv, ConfigBuilder.loadSources, ConfigBuilder.addSource,
    ConfigBuilder.default, loadSource, EnvConfig.load, he]

theorem merged_of_extract {r : EnvConfig} (h : EnvConfig.extract env = .ok r)
    (hf : f.isComponentLevel = false) :
    (merged E yaml env).get f =
      ((f.deserializer.setting (r f)).bind f.envSets).getD (fileLayer yaml f) := by
  have no_namespace :
      (loadSource (Config.default : Config E) (YamlConfig.load yaml)).get .statsdMetricNamespace =
        none := loadSource_yaml rfl
  have over_file := r.get_mergeConfig no_namespace hf
  rw [loadSource_yaml hf] at over_file
  rw [← over_file]
  simp [merged, yamlThenEnv, ConfigBuilder.loadSources, ConfigBuilder.addSource,
    ConfigBuilder.default, loadSource, EnvConfig.load, h]

theorem merged_logLevel (h : Anticipated env) :
    (merged E yaml env).get .logLevel =
      ((env.lookup "log_level").bind Setting.levelOrWarn).getD (fileLayer yaml .logLevel) := by
  obtain ⟨r, hr⟩ := EnvConfig.extract_ok_iff.2 h
  rw [merged_of_extract hr rfl, ← logLevel_of_extract hr]
  exact congrArg (Option.getD · _) (Option.bind_fun_some _)

theorem layers_logLevel :
    layers yaml env .logLevel =
      ((env.lookup "log_level").bind Setting.level).getD (fileLayer yaml .logLevel) :=
  congrArg (Option.getD · _) (Option.bind_fun_some _)

/-- The built configuration has the layers as its fields too, but for those it fills in. -/
theorem Layered.get_build (h : Layered E yaml env) (vars : ProcessVars)
    (hf : f.isComponentLevel = false) (filled : f.isFilledIn = false) :
    ((yamlThenEnv E yaml env).build vars).2.get f = layers yaml env f :=
  ((yamlThenEnv E yaml env).get_build vars filled).trans (h f hf)

variable (yaml env)

/-- The sources are layered exactly where no malformed variable is in the way. -/
theorem layered_iff : Layered E yaml env ↔ Unobstructed yaml env := by
  by_cases h : Anticipated env
  · obtain ⟨r, hr⟩ := EnvConfig.extract_ok_iff.2 h
    have level_iff : (merged E yaml env).get .logLevel = layers yaml env .logLevel ↔
        ∀ v, env.lookup "log_level" = some v → v ≠ .null → Setting.level v = none →
          fileLayer yaml .logLevel = .warn := by
      rw [merged_logLevel h, layers_logLevel]
      cases env.lookup "log_level" with
      | none => exact iff_of_true rfl fun _ h => nomatch h
      | some v =>
        refine getD_levelOrWarn_eq_iff.trans ⟨fun h _ hv => ?_, fun h => h v rfl⟩
        cases hv
        exact h
    constructor
    · intro layered
      refine ⟨?_, fun hn => absurd h hn⟩
      intro _
      exact level_iff.1 (layered .logLevel rfl)
    · intro unobstructed f hf
      by_cases hl : f = .logLevel
      · subst hl
        exact level_iff.2 (unobstructed.level h)
      · rw [merged_of_extract hr hf, setting_of_extract hr hl]
        rfl
  · have redundant_iff {f : ConfigField} (hf : f.isComponentLevel = false) :
        (merged E yaml env).get f = layers yaml env f ↔
          ∀ x, envSetting env f = some x → x = fileLayer yaml f := by
      rw [merged_of_not_anticipated h hf, eq_comm]
      exact Record.overlay_eq_base_iff
    constructor
    · intro layered
      refine ⟨fun hp => absurd hp h, ?_⟩
      intro _ f hf
      exact (redundant_iff hf).1 (layered f hf)
    · intro unobstructed f hf
      exact (redundant_iff hf).2 (unobstructed.redundant h f hf)

end

/-- `log_level: debug` in the file next to `DD_LOG_LEVEL=verbose`: the level becomes `warn`. -/
theorem not_layered_of_malformed_level :
    let yaml : Except Error Dict := .ok (AList.singleton "log_level" (.string "debug"))
    let env : Dict := AList.singleton "log_level" (.string "verbose")
    ¬ @Layered plainCrates NoExtension _ yaml env := by
  let := plainCrates
  intro yaml env layered
  have anticipated : Anticipated env := by
    apply anticipated_iff.2
    intro f v hv
    cases f <;> trivial
  have at_level := layered .logLevel rfl
  have file : fileLayer yaml .logLevel = .debug := by decide
  rw [merged_logLevel anticipated, layers_logLevel, file] at at_level
  exact absurd at_level (by decide)

end ServerlessComponents.AgentConfig
