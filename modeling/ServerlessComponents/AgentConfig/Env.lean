import ServerlessComponents.AgentConfig.Config
import ServerlessComponents.Library.Record

/-!
# The environment as a source

`EnvConfig` has one field for each field of the configuration, read from its own variable by the
deserializer its attribute names. `figment` is the dictionary figment makes of the variables.

## Main results

* `graceful_iff` — extraction is graceful in the environments whose values were anticipated.
-/
namespace ServerlessComponents.AgentConfig

namespace ConfigField

/-- The key of a field of `EnvConfig`, which is its variable without `DD_`, and its attribute. -/
@[reducible]
def attr : ConfigField → String × Deserializer
  | .site => ("site", .optionalString)
  | .apiKey => ("api_key", .optionalString)
  | .ddOrgUuid => ("org_uuid", .optionalString)
  | .logLevel => ("log_level", .withDefaultLogLevel)
  | .flushTimeout => ("flush_timeout", .optionLosslessU64)
  | .proxyHttps => ("proxy_https", .optionalString)
  | .proxyNoProxy => ("proxy_no_proxy", .arrayFromCommaSeparatedString)
  | .httpProtocol => ("http_protocol", .optionalString)
  | .tlsCertFile => ("tls_cert_file", .optionalString)
  | .skipSslValidation => ("skip_ssl_validation", .optionalBoolFromAnything)
  | .ddUrl => ("dd_url", .optionalString)
  | .url => ("url", .optionalString)
  | .additionalEndpoints => ("additional_endpoints", .additionalEndpoints)
  | .additionalEndpointsSecretArn => ("additional_endpoints_secret_arn", .optionalString)
  | .env => ("env", .stringOrInt)
  | .service => ("service", .stringOrInt)
  | .version => ("version", .stringOrInt)
  | .tags => ("tags", .keyValuePairs)
  | .compressionLevel => ("compression_level", .optionLosslessI32)
  | .logsEnabled => ("logs_enabled", .optionalBoolFromAnything)
  | .logsConfigLogsDdUrl => ("logs_config_logs_dd_url", .optionalString)
  | .logsConfigProcessingRules => ("logs_config_processing_rules", .processingRules)
  | .logsConfigUseCompression => ("logs_config_use_compression", .optionalBoolFromAnything)
  | .logsConfigCompressionLevel => ("logs_config_compression_level", .optionLosslessI32)
  | .logsConfigAdditionalEndpoints => ("logs_config_additional_endpoints", .logsAdditionalEndpoints)
  | .logsConfigAdditionalEndpointsSecretArn =>
    ("logs_config_additional_endpoints_secret_arn", .optionalString)
  | .observabilityPipelinesWorkerLogsEnabled =>
    ("observability_pipelines_worker_logs_enabled", .optionalBoolFromAnything)
  | .observabilityPipelinesWorkerLogsUrl =>
    ("observability_pipelines_worker_logs_url", .optionalString)
  | .serviceMapping => ("service_mapping", .serviceMapping)
  | .apmDdUrl => ("apm_dd_url", .optionalString)
  | .apmReplaceTags => ("apm_replace_tags", .apmReplaceRules)
  | .apmConfigObfuscationHttpRemoveQueryString =>
    ("apm_config_obfuscation_http_remove_query_string", .optionalBoolFromAnything)
  | .apmConfigObfuscationHttpRemovePathsWithDigits =>
    ("apm_config_obfuscation_http_remove_paths_with_digits", .optionalBoolFromAnything)
  | .apmConfigCompressionLevel => ("apm_config_compression_level", .optionLosslessI32)
  | .apmFeatures => ("apm_features", .commaThenSpaceSeparatedString)
  | .apmAdditionalEndpoints => ("apm_additional_endpoints", .additionalEndpoints)
  | .apmAdditionalEndpointsSecretArn => ("apm_additional_endpoints_secret_arn", .optionalString)
  | .apmFilterTagsRequire => ("apm_filter_tags_require", .apmFilterTags)
  | .apmFilterTagsReject => ("apm_filter_tags_reject", .apmFilterTags)
  | .apmFilterTagsRegexRequire => ("apm_filter_tags_regex_require", .apmFilterTags)
  | .apmFilterTagsRegexReject => ("apm_filter_tags_regex_reject", .apmFilterTags)
  | .traceAwsServiceRepresentationEnabled =>
    ("trace_aws_service_representation_enabled", .optionalBoolFromAnything)
  | .tracePropagationStyle => ("trace_propagation_style", .tracePropagationStyle)
  | .tracePropagationStyleExtract => ("trace_propagation_style_extract", .tracePropagationStyle)
  | .tracePropagationExtractFirst => ("trace_propagation_extract_first", .optionalBoolFromAnything)
  | .tracePropagationHttpBaggageEnabled =>
    ("trace_propagation_http_baggage_enabled", .optionalBoolFromAnything)
  | .metricsConfigCompressionLevel => ("metrics_config_compression_level", .optionLosslessI32)
  | .statsdMetricNamespace => ("statsd_metric_namespace", .optionalString)
  | .dogstatsdSoRcvbuf => ("dogstatsd_so_rcvbuf", .optionLosslessUsize)
  | .dogstatsdBufferSize => ("dogstatsd_buffer_size", .optionLosslessUsize)
  | .dogstatsdQueueSize => ("dogstatsd_queue_size", .optionLosslessUsize)
  | .otlpConfigTracesEnabled => ("otlp_config_traces_enabled", .optionalBoolFromAnything)
  | .otlpConfigTracesSpanNameAsResourceName =>
    ("otlp_config_traces_span_name_as_resource_name", .optionalBoolFromAnything)
  | .otlpConfigTracesSpanNameRemappings =>
    ("otlp_config_traces_span_name_remappings", .keyValuePairs)
  | .otlpConfigIgnoreMissingDatadogFields =>
    ("otlp_config_ignore_missing_datadog_fields", .optionalBoolFromAnything)
  | .otlpConfigReceiverProtocolsHttpEndpoint =>
    ("otlp_config_receiver_protocols_http_endpoint", .optionalString)
  | .otlpConfigReceiverProtocolsGrpcEndpoint =>
    ("otlp_config_receiver_protocols_grpc_endpoint", .optionalString)
  | .otlpConfigReceiverProtocolsGrpcTransport =>
    ("otlp_config_receiver_protocols_grpc_transport", .optionalString)
  | .otlpConfigReceiverProtocolsGrpcMaxRecvMsgSizeMib =>
    ("otlp_config_receiver_protocols_grpc_max_recv_msg_size_mib", .optionLosslessI32)
  | .otlpConfigMetricsEnabled => ("otlp_config_metrics_enabled", .optionalBoolFromAnything)
  | .otlpConfigMetricsResourceAttributesAsTags =>
    ("otlp_config_metrics_resource_attributes_as_tags", .optionalBoolFromAnything)
  | .otlpConfigMetricsInstrumentationScopeMetadataAsTags =>
    ("otlp_config_metrics_instrumentation_scope_metadata_as_tags", .optionalBoolFromAnything)
  | .otlpConfigMetricsTagCardinality => ("otlp_config_metrics_tag_cardinality", .optionalString)
  | .otlpConfigMetricsDeltaTtl => ("otlp_config_metrics_delta_ttl", .optionLosslessI32)
  | .otlpConfigMetricsHistogramsMode => ("otlp_config_metrics_histograms_mode", .optionalString)
  | .otlpConfigMetricsHistogramsSendCountSumMetrics =>
    ("otlp_config_metrics_histograms_send_count_sum_metrics", .optionalBoolFromAnything)
  | .otlpConfigMetricsHistogramsSendAggregationMetrics =>
    ("otlp_config_metrics_histograms_send_aggregation_metrics", .optionalBoolFromAnything)
  | .otlpConfigMetricsSumsCumulativeMonotonicMode =>
    ("otlp_config_metrics_sums_cumulative_monotonic_mode", .optionalString)
  | .otlpConfigMetricsSumsInitialCumulativMonotonicValue =>
    ("otlp_config_metrics_sums_initial_cumulativ_monotonic_value", .optionalString)
  | .otlpConfigMetricsSummariesMode => ("otlp_config_metrics_summaries_mode", .optionalString)
  | .otlpConfigTracesProbabilisticSamplerSamplingPercentage =>
    ("otlp_config_traces_probabilistic_sampler_sampling_percentage", .optionLosslessI32)
  | .otlpConfigLogsEnabled => ("otlp_config_logs_enabled", .optionalBoolFromAnything)

@[reducible]
def envKey (f : ConfigField) : String := f.attr.1

@[reducible]
def deserializer (f : ConfigField) : Deserializer := f.attr.2

end ConfigField

/-! ## Anticipated values -/

/-- The eight variables whose deserializers read text directly have values they can read: text
for the lists, no sequence and no map for the tags. -/
def Anticipated (figment : Dict) : Prop :=
  (∀ f ∈ [ConfigField.proxyNoProxy, .apmFeatures], ∀ v, figment.lookup f.envKey = some v →
    ∃ s, v = .string s) ∧
  (∀ f ∈ [ConfigField.apmFilterTagsRequire, .apmFilterTagsReject, .apmFilterTagsRegexRequire,
      .apmFilterTagsRegexReject], ∀ v, figment.lookup f.envKey = some v →
    v = .null ∨ ∃ s, v = .string s) ∧
  ∀ f ∈ [ConfigField.tags, .otlpConfigTracesSpanNameRemappings], ∀ v,
    figment.lookup f.envKey = some v → v ≠ .null ∧ (∀ vs, v ≠ .array vs) ∧ ∀ es, v ≠ .dict es

theorem anticipated_iff {figment : Dict} : Anticipated figment ↔
    ∀ f v, figment.lookup (ConfigField.envKey f) = some v → f.deserializer.Anticipates v := by
  constructor
  · rintro ⟨lists, filters, tags⟩ f v hv
    -- away from the eight variables nothing is asked
    cases f <;> first
      | trivial
      | exact lists _ (by simp) v hv
      | exact filters _ (by simp) v hv
      | exact tags _ (by simp) v hv
  · intro h
    simp only [Anticipated, List.mem_cons, List.not_mem_nil, or_false]
    refine ⟨?_, ?_, ?_⟩
    · rintro f (rfl | rfl) v hv <;> exact h _ v hv
    · rintro f (rfl | rfl | rfl | rfl) v hv <;> exact h _ v hv
    · rintro f (rfl | rfl) v hv <;> exact h _ v hv

/-! ## Extraction -/

section

variable [ExternalCrates]

abbrev EnvConfig := ∀ f : ConfigField, f.deserializer.Out

def envSchema : Record.Schema String Value Error where
  Field := ConfigField
  fields := ConfigField.all
  mem_fields := ConfigField.mem_all
  Ty f := f.deserializer.Out
  key := ConfigField.envKey
  absent f := f.deserializer.absent
  decode f v := (f.deserializer.run v).mapError (·.under f.envKey)

/-- `figment.extract::<EnvConfig>()`. -/
def EnvConfig.extract (figment : Dict) : Except Error EnvConfig := envSchema.extract figment

/-! ## Merging -/

def parseMetricNamespace (ns : String) : Option String :=
  match (trim ns).toList with
  | [] => none
  | first :: rest =>
    if !first.isAlpha then none
    else if rest.any fun c => !c.isAlphanum && c ≠ '_' && c ≠ '.' then none
    else some (trim ns)

/-- The macro each field is merged with. -/
def mergeField : ∀ f : ConfigField, f.Ty → f.deserializer.Out → f.Ty
  | .site | .apiKey | .ddOrgUuid | .ddUrl | .url | .additionalEndpointsSecretArn
  | .logsConfigLogsDdUrl | .logsConfigAdditionalEndpointsSecretArn
  | .observabilityPipelinesWorkerLogsUrl | .apmDdUrl | .apmAdditionalEndpointsSecretArn =>
      mergeString
  | .logLevel | .flushTimeout | .compressionLevel | .skipSslValidation | .logsEnabled
  | .logsConfigUseCompression | .logsConfigCompressionLevel
  | .observabilityPipelinesWorkerLogsEnabled | .apmConfigObfuscationHttpRemoveQueryString
  | .apmConfigObfuscationHttpRemovePathsWithDigits | .apmConfigCompressionLevel
  | .tracePropagationExtractFirst | .tracePropagationHttpBaggageEnabled
  | .traceAwsServiceRepresentationEnabled | .metricsConfigCompressionLevel
  | .otlpConfigTracesEnabled | .otlpConfigTracesSpanNameAsResourceName
  | .otlpConfigIgnoreMissingDatadogFields | .otlpConfigMetricsEnabled
  | .otlpConfigMetricsResourceAttributesAsTags
  | .otlpConfigMetricsInstrumentationScopeMetadataAsTags
  | .otlpConfigMetricsHistogramsSendCountSumMetrics
  | .otlpConfigMetricsHistogramsSendAggregationMetrics | .otlpConfigLogsEnabled =>
      mergeOptionToValue
  | .proxyHttps | .httpProtocol | .tlsCertFile | .env | .service | .version
  | .logsConfigProcessingRules | .apmReplaceTags | .apmFilterTagsRequire | .apmFilterTagsReject
  | .apmFilterTagsRegexRequire | .apmFilterTagsRegexReject | .dogstatsdSoRcvbuf
  | .dogstatsdBufferSize | .dogstatsdQueueSize | .otlpConfigReceiverProtocolsHttpEndpoint
  | .otlpConfigReceiverProtocolsGrpcEndpoint | .otlpConfigReceiverProtocolsGrpcTransport
  | .otlpConfigReceiverProtocolsGrpcMaxRecvMsgSizeMib | .otlpConfigMetricsTagCardinality
  | .otlpConfigMetricsDeltaTtl | .otlpConfigMetricsHistogramsMode
  | .otlpConfigMetricsSumsCumulativeMonotonicMode
  | .otlpConfigMetricsSumsInitialCumulativMonotonicValue | .otlpConfigMetricsSummariesMode
  | .otlpConfigTracesProbabilisticSamplerSamplingPercentage => mergeOption
  | .proxyNoProxy | .logsConfigAdditionalEndpoints | .apmFeatures | .tracePropagationStyle
  | .tracePropagationStyleExtract => mergeVec
  | .additionalEndpoints | .tags | .serviceMapping | .apmAdditionalEndpoints
  | .otlpConfigTracesSpanNameRemappings => mergeHashmap
  | .statsdMetricNamespace => fun value source =>
    match source with
    | some ns => parseMetricNamespace ns
    | none => value

variable {E : Type}

/-- `merge_config` of `env.rs`. The levels of the components take the global one first. -/
def EnvConfig.mergeConfig (config : Config E) (env : EnvConfig) : Config E :=
  { config with
    get := fun f =>
      match f with
      | .logsConfigCompressionLevel =>
        mergeField .logsConfigCompressionLevel
          (mergeOptionToValue (config.get .logsConfigCompressionLevel) (env .compressionLevel))
          (env .logsConfigCompressionLevel)
      | .apmConfigCompressionLevel =>
        mergeField .apmConfigCompressionLevel
          (mergeOptionToValue (config.get .apmConfigCompressionLevel) (env .compressionLevel))
          (env .apmConfigCompressionLevel)
      | .metricsConfigCompressionLevel =>
        mergeField .metricsConfigCompressionLevel
          (mergeOptionToValue (config.get .metricsConfigCompressionLevel) (env .compressionLevel))
          (env .metricsConfigCompressionLevel)
      | f => mergeField f (config.get f) (env f) }

/-- `EnvConfigSource::load`. -/
def EnvConfig.load [ConfigExtension E] (figment : Dict) : ConfigSource E := fun config =>
  match EnvConfig.extract figment with
  | .ok env => .ok ((env.mergeConfig config).mergeExt figment)
  | .error e =>
    .error (.parseError ("Failed to parse config from environment variables: " ++
      ExternalCrates.displayError e ++ ", using default config."))

/-! ## Graceful extraction -/

/-- Extraction gives a record; each of its fields depends on its own variable alone, and is its
fallback when that variable is malformed. -/
structure Graceful (figment : Dict) (env : EnvConfig) : Prop where
  extracted : EnvConfig.extract figment = .ok env
  isolated : ∀ key, ∃ env', EnvConfig.extract (figment.erase key) = .ok env' ∧
    ∀ f, f.envKey ≠ key → env f = env' f
  fallsBack : ∀ f v, figment.lookup f.envKey = some v → v ≠ .null →
    f.deserializer.valid v = none → env f = f.deserializer.fallback

theorem EnvConfig.extract_ok_iff {figment : Dict} :
    (∃ env, EnvConfig.extract figment = .ok env) ↔ Anticipated figment := by
  rw [anticipated_iff]
  refine (Record.Schema.extract_ok_iff (S := envSchema)).trans ?_
  apply forall_congr'
  intro f
  apply forall_congr'
  intro v
  apply imp_congr_right
  intro _
  rw [← Deserializer.run_ok_iff]
  change (∃ x, (f.deserializer.run v).mapError _ = _) ↔ _
  cases f.deserializer.run v with
  | ok x => exact ⟨fun _ => ⟨x, rfl⟩, fun _ => ⟨x, rfl⟩⟩
  | error e => constructor <;> rintro ⟨x, hx⟩ <;> cases hx

/-- A decoded variable is what its deserializer makes of it. -/
theorem EnvConfig.run_of_extract {figment : Dict} {env : EnvConfig}
    (h : EnvConfig.extract figment = .ok env) {f : ConfigField} {v : Value}
    (hv : figment.lookup f.envKey = some v) : f.deserializer.run v = .ok (env f) := by
  have read := Record.Schema.read_of_extract h f
  simp only [Record.Schema.read, envSchema, hv] at read
  cases run : f.deserializer.run v with
  | ok x =>
    rw [run] at read
    exact congrArg _ (Except.ok.inj read)
  | error e => simp [run, Except.mapError] at read

theorem EnvConfig.absent_of_extract {figment : Dict} {env : EnvConfig}
    (h : EnvConfig.extract figment = .ok env) {f : ConfigField}
    (hv : figment.lookup f.envKey = none) : env f = f.deserializer.absent := by
  have read := Record.Schema.read_of_extract h f
  simp only [Record.Schema.read, envSchema, hv] at read
  exact (Except.ok.inj read).symm

/-- Extraction is graceful exactly in the environments whose values were anticipated. -/
theorem graceful_iff (figment : Dict) : (∃ env, Graceful figment env) ↔ Anticipated figment := by
  rw [← EnvConfig.extract_ok_iff]
  constructor
  · rintro ⟨env, graceful⟩
    exact ⟨env, graceful.extracted⟩
  · rintro ⟨env, extracted⟩
    refine ⟨env, extracted, ?_, ?_⟩
    · intro key
      obtain ⟨env', extracted', same⟩ := Record.Schema.extract_erase extracted key
      refine ⟨env', extracted', ?_⟩
      intro f hf
      exact (same f hf).symm
    · intro f v hv hnull malformed
      exact Deserializer.run_of_malformed hnull malformed (EnvConfig.run_of_extract extracted hv)

end

/-- External crates for runs on fixed inputs, which read no JSON and know the plain booleans. -/
@[reducible]
def plainCrates : ExternalCrates where
  f64ToString _ := none
  boolFromAnything
    | .bool b => some b
    | .string "true" => some true
    | .string "false" => some false
    | _ => none
  jsonFromStr _ := none
  endpointsFromStr _ := none
  logsEndpointsFromStr _ := none
  processingRulesFromStr _ := none
  replaceRulesToString _ := "[]"
  ReplaceRule := Unit
  parseRulesFromString _ := none
  TracePropagationStyle := Bool
  datadog := true
  traceContext := false
  styleFromStr
    | "datadog" => some true
    | "tracecontext" => some false
    | _ => none
  traceIntakeUrl site := "https://trace.agent." ++ site ++ "/api/v0.2/traces"
  traceIntakeUrlPrefixed url := url ++ "/api/v0.2/traces"
  displayError _ := "invalid type"

/-- `DD_PROXY_NO_PROXY=8080` next to `DD_SITE=datadoghq.eu`: the number fails the environment. -/
theorem not_graceful_of_number :
    let figment : Dict := AList.insert "proxy_no_proxy" (.num (.u64 8080))
      (AList.singleton "site" (.string "datadoghq.eu"))
    ¬ ∃ env, @Graceful plainCrates figment env := by
  let := plainCrates
  rintro figment ⟨env, graceful⟩
  have anticipated := EnvConfig.extract_ok_iff.1 ⟨env, graceful.extracted⟩
  obtain ⟨s, hs⟩ := anticipated.1 .proxyNoProxy (by simp) _ (AList.lookup_insert _)
  cases hs

end ServerlessComponents.AgentConfig
