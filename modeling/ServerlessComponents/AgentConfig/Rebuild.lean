import ServerlessComponents.AgentConfig.Filling
import ServerlessComponents.AgentConfig.Layering

/-!
# Building twice

A builder keeps the configuration it returns, so that a second `build` loads the sources over the
fields that the first one filled in. A field that a source sets is set again; the others have to be
fixed points of the filling.

## Main results

* `exists_setting_loadAll` — a source sets a field or leaves it, whatever was there before.
* `get_again_of_ne` — two fields aside, a second build leaves them as the first one did.
* `get_logsUrl_again_iff`, `get_apmUrl_again_iff` — when it leaves these two.
-/
namespace ServerlessComponents.AgentConfig

variable [ExternalCrates] {E : Type} [ConfigExtension E]

/-! ## What a source sets -/

/-- The two sources of the crate, with what figment finds for them. -/
inductive Source where
  | yaml (figment : Except Error Dict)
  | env (figment : Dict)

def Source.load : Source → ConfigSource E
  | .yaml figment => YamlConfig.load figment
  | .env figment => EnvConfig.load figment

/-- The builder to which the sources were added one after another. -/
def builderOf (E : Type) [ConfigExtension E] (sources : List Source) : ConfigBuilder E :=
  sources.foldl (fun builder source => builder.addSource source.load) ConfigBuilder.default

/-- The change sets the field to `x`, or leaves it. -/
def SetsTo (change : Config E → Config E) (f : ConfigField) (x : Option f.Ty) : Prop :=
  ∀ config, (change config).get f = x.getD (config.get f)

omit [ExternalCrates] in
theorem mergeOptionToValue_twice {α : Type} (value : α) (global own : Option α) :
    mergeOptionToValue (mergeOptionToValue value global) own = (own.or global).getD value := by
  cases own <;> rfl

omit [ConfigExtension E] in
theorem YamlConfig.exists_setting (yaml : YamlConfig) (f : ConfigField) :
    ∃ x, SetsTo (yaml.mergeConfig : Config E → Config E) f x := by
  cases f
  case logsConfigCompressionLevel | apmConfigCompressionLevel | metricsConfigCompressionLevel =>
    exact ⟨_, fun _ => mergeOptionToValue_twice _ _ _⟩
  -- the macros for optional fields and collections
  case env | service | version | proxyHttps | httpProtocol | tlsCertFile
      | logsConfigProcessingRules | apmReplaceTags | dogstatsdSoRcvbuf | dogstatsdBufferSize
      | dogstatsdQueueSize | otlpConfigTracesProbabilisticSamplerSamplingPercentage
      | otlpConfigReceiverProtocolsHttpEndpoint | otlpConfigReceiverProtocolsGrpcEndpoint
      | otlpConfigReceiverProtocolsGrpcTransport
      | otlpConfigReceiverProtocolsGrpcMaxRecvMsgSizeMib | otlpConfigMetricsTagCardinality
      | otlpConfigMetricsDeltaTtl | otlpConfigMetricsHistogramsMode
      | otlpConfigMetricsSumsCumulativeMonotonicMode
      | otlpConfigMetricsSumsInitialCumulativMonotonicValue | otlpConfigMetricsSummariesMode =>
    exact ⟨_, fun _ => mergeOption_eq _ _⟩
  case logsConfigAdditionalEndpoints | apmFeatures | tracePropagationStyle
      | tracePropagationStyleExtract =>
    exact ⟨_, fun _ => mergeVec_eq _ _⟩
  case tags | additionalEndpoints | serviceMapping | apmAdditionalEndpoints
      | otlpConfigTracesSpanNameRemappings =>
    exact ⟨_, fun _ => mergeHashmap_eq _ _⟩
  -- the others are plain values, or are not read from the file
  all_goals first
    | exact ⟨none, fun _ => rfl⟩
    | exact ⟨_, fun _ => (rfl : Option.getD _ _ = _)⟩

omit [ConfigExtension E] in
theorem EnvConfig.get_mergeConfig_eq (env : EnvConfig) (config : Config E) {f : ConfigField}
    (hf : f.isComponentLevel = false) :
    (env.mergeConfig config).get f = mergeField f (config.get f) (env f) := by
  cases f <;> first | rfl | cases hf

theorem mergeField_namespace_eq (value source : Option String) :
    mergeField .statsdMetricNamespace value source =
      (source.map parseMetricNamespace).getD value := by
  cases source with
  | none => rfl
  | some ns =>
    have merged : mergeField .statsdMetricNamespace value (some ns) = parseMetricNamespace ns := rfl
    rw [merged, Option.map_some, Option.getD_some]

omit [ConfigExtension E] in
theorem EnvConfig.exists_setting (env : EnvConfig) (f : ConfigField) :
    ∃ x, SetsTo (env.mergeConfig : Config E → Config E) f x := by
  by_cases hf : f.isComponentLevel = false
  · by_cases ns : f = .statsdMetricNamespace
    · subst ns
      refine ⟨Option.map parseMetricNamespace (env .statsdMetricNamespace), fun config => ?_⟩
      rw [env.get_mergeConfig_eq config hf]
      exact mergeField_namespace_eq _ _
    · refine ⟨(f.deserializer.setting (env f)).bind f.envSets, fun config => ?_⟩
      rw [env.get_mergeConfig_eq config hf]
      exact mergeField_eq ns _ _
  · cases f
    case logsConfigCompressionLevel | apmConfigCompressionLevel | metricsConfigCompressionLevel =>
      exact ⟨_, fun _ => mergeOptionToValue_twice _ _ _⟩
    all_goals exact absurd rfl hf

theorem Source.exists_setting (source : Source) (f : ConfigField) :
    ∃ x, SetsTo (fun config : Config E => loadSource config source.load) f x := by
  cases source with
  | yaml figment =>
    cases figment with
    | error e => exact ⟨none, fun _ => rfl⟩
    | ok doc =>
      obtain ⟨x, sets⟩ :=
        (YamlConfig.read (some (Value.ofDict doc))).exists_setting (E := E) f
      refine ⟨x, fun config => ?_⟩
      simp only [loadSource, Source.load, YamlConfig.load, YamlConfig.extract_eq,
        Config.get_mergeExt]
      exact sets config
  | env figment =>
    cases extracted : EnvConfig.extract figment with
    | error e =>
      refine ⟨none, fun config => ?_⟩
      simp only [loadSource, Source.load, EnvConfig.load, extracted]
      rfl
    | ok env =>
      obtain ⟨x, sets⟩ := env.exists_setting (E := E) f
      refine ⟨x, fun config => ?_⟩
      simp only [loadSource, Source.load, EnvConfig.load, extracted, Config.get_mergeExt]
      exact sets config

/-- The text that a source sets for one of the fields the addresses are made from. -/
def Source.setting (source : Source) (f : ConfigField) : Option f.Ty :=
  match source with
  | .yaml (.ok doc) => yamlSetting (some (Value.ofDict doc)) f
  | .yaml (.error _) => none
  | .env figment =>
    match EnvConfig.extract figment with
    | .ok _ => envSetting figment f
    | .error _ => none

/-- The fields the addresses of the intakes are made from. -/
def ConfigField.IsAddress (f : ConfigField) : Prop :=
  f = .site ∨ f = .logsConfigLogsDdUrl ∨ f = .apmDdUrl

theorem Source.setsTo_setting (source : Source) {f : ConfigField} (hf : f.IsAddress) :
    SetsTo (fun config : Config E => loadSource config source.load) f (source.setting f) := by
  intro config
  cases source with
  | yaml figment =>
    cases figment with
    | error e => rfl
    | ok doc =>
      simp only [loadSource, Source.load, YamlConfig.load, YamlConfig.extract_eq,
        Config.get_mergeExt]
      rcases hf with rfl | rfl | rfl <;> rfl
  | env figment =>
    cases extracted : EnvConfig.extract figment with
    | error e =>
      simp only [loadSource, Source.load, EnvConfig.load, Source.setting, extracted]
      rfl
    | ok env =>
      have plain : f.isComponentLevel = false ∧ f ≠ .statsdMetricNamespace ∧ f ≠ .logLevel := by
        rcases hf with rfl | rfl | rfl <;> decide
      simp only [loadSource, Source.load, EnvConfig.load, Source.setting, extracted,
        Config.get_mergeExt]
      rw [env.get_mergeConfig_eq config plain.1, mergeField_eq plain.2.1,
        setting_of_extract extracted plain.2.2, envSetting]

/-! ## What all sources set -/

omit [ConfigExtension E] in
theorem SetsTo.comp {first second : Config E → Config E} {f : ConfigField} {x y : Option f.Ty}
    (hfirst : SetsTo first f x) (hsecond : SetsTo second f y) :
    SetsTo (fun config => second (first config)) f (y.or x) := by
  intro config
  rw [hsecond, hfirst]
  cases y <;> rfl

/-- Load all sources. -/
def loadAll (sources : List Source) (config : Config E) : Config E :=
  sources.foldl (fun config source => loadSource config source.load) config

theorem builderOf_eq (sources : List Source) :
    builderOf E sources = ⟨sources.map Source.load, Config.default⟩ := by
  have added (builder : ConfigBuilder E) :
      sources.foldl (fun builder source => builder.addSource source.load) builder =
        ⟨builder.sources ++ sources.map Source.load, builder.config⟩ := by
    induction sources generalizing builder with
    | nil => rw [List.foldl_nil, List.map_nil, List.append_nil]
    | cons source rest ih =>
      rw [List.foldl_cons, ih, List.map_cons, ConfigBuilder.addSource, List.append_assoc,
        List.singleton_append]
  exact added ConfigBuilder.default

theorem exists_setting_loadAll (sources : List Source) (f : ConfigField) :
    ∃ x, SetsTo (loadAll sources : Config E → Config E) f x := by
  induction sources with
  | nil => exact ⟨none, fun _ => rfl⟩
  | cons source rest ih =>
    obtain ⟨x, sets⟩ := source.exists_setting (E := E) f
    obtain ⟨y, rest_sets⟩ := ih
    exact ⟨_, sets.comp rest_sets⟩

/-- The last source that sets the field decides. -/
def lastSetting (sources : List Source) (f : ConfigField) : Option f.Ty :=
  sources.reverse.findSome? fun source => source.setting f

theorem setsTo_lastSetting (sources : List Source) {f : ConfigField} (hf : f.IsAddress) :
    SetsTo (loadAll sources : Config E → Config E) f (lastSetting sources f) := by
  induction sources with
  | nil => exact fun _ => rfl
  | cons source rest ih =>
    have last : lastSetting (source :: rest) f = (lastSetting rest f).or (source.setting f) := by
      rw [lastSetting, List.reverse_cons, List.findSome?_append, lastSetting]
      simp
    rw [last]
    exact (source.setsTo_setting hf).comp ih

/-! ## The extension -/

/-- What the fields of the consumer become by one extraction. -/
def mergedExt (figment : Dict) (ext : E) : E :=
  match ConfigExtension.extract (E := E) figment with
  | .ok source => ConfigExtension.mergeFrom ext source
  | .error _ => ext

def Source.extend (source : Source) (ext : E) : E :=
  match source with
  | .yaml (.ok doc) => mergedExt doc ext
  | .yaml (.error _) => ext
  | .env figment =>
    match EnvConfig.extract figment with
    | .ok _ => mergedExt figment ext
    | .error _ => ext

/-- The extension after all sources. -/
def extendAll (sources : List Source) (ext : E) : E :=
  sources.foldl (fun ext source => source.extend ext) ext

theorem ext_mergeExt (config : Config E) (figment : Dict) :
    (config.mergeExt figment).ext = mergedExt figment config.ext := by
  unfold Config.mergeExt mergedExt
  cases ConfigExtension.extract (E := E) figment <;> rfl

theorem ext_loadAll (sources : List Source) (config : Config E) :
    (loadAll sources config).ext = extendAll sources config.ext := by
  induction sources generalizing config with
  | nil => rfl
  | cons source rest ih =>
    have first : (loadSource config source.load).ext = source.extend config.ext := by
      cases source with
      | yaml figment =>
        cases figment with
        | error e => rfl
        | ok doc =>
          simp only [loadSource, Source.load, YamlConfig.load, YamlConfig.extract_eq,
            Source.extend, ext_mergeExt]
          rfl
      | env figment =>
        cases extracted : EnvConfig.extract figment with
        | error e =>
          simp only [loadSource, Source.load, EnvConfig.load, Source.extend, extracted]
        | ok env =>
          simp only [loadSource, Source.load, EnvConfig.load, Source.extend, extracted,
            ext_mergeExt]
          rfl
    rw [loadAll, List.foldl_cons, extendAll, List.foldl_cons, ← first]
    exact ih _

omit [ConfigExtension E] in
/-- Only fields are filled in. -/
theorem ext_resolve (vars : ProcessVars) (config : Config E) :
    (config.resolve vars).ext = config.ext := by
  have site (config : Config E) : config.fillSite.ext = config.ext := by
    unfold Config.fillSite
    split <;> rfl
  have proxy (config : Config E) : (config.fillProxyHttps vars).ext = config.ext := by
    unfold Config.fillProxyHttps
    split <;> rfl
  have noProxy (config : Config E) : (config.dropProxyHttps vars).ext = config.ext := by
    unfold Config.dropProxyHttps
    split <;> rfl
  have extract (config : Config E) : config.fillExtractStyle.ext = config.ext := by
    unfold Config.fillExtractStyle
    split <;> rfl
  have urls (config : Config E) : config.trimUrls.fillLogsUrl.fillApmUrl.ext = config.ext := rfl
  rw [Config.resolve, urls, extract, noProxy, proxy, site]

/-! ## The second build -/

section

variable (E) (sources : List Source) (vars : ProcessVars)

/-- What the first call returns, and the builder keeps. -/
def firstBuild : Config E := (loadAll sources Config.default).resolve vars

/-- What the second call returns. -/
def secondBuild : Config E := (loadAll sources (firstBuild E sources vars)).resolve vars

variable {E}

theorem build_builderOf :
    (builderOf E sources).build vars =
      (⟨sources.map Source.load, firstBuild E sources vars⟩, firstBuild E sources vars) := by
  have loaded : (builderOf E sources).loadSources = loadAll sources Config.default := by
    rw [builderOf_eq, ConfigBuilder.loadSources, List.foldl_map]
    rfl
  have built : (builderOf E sources).build vars =
      ({ builderOf E sources with config := (builderOf E sources).loadSources.resolve vars },
        (builderOf E sources).loadSources.resolve vars) := rfl
  rw [built, loaded, builderOf_eq]
  rfl

theorem build_again :
    (((builderOf E sources).build vars).1.build vars).2 = secondBuild E sources vars := by
  have loaded : (⟨sources.map Source.load, firstBuild E sources vars⟩ :
      ConfigBuilder E).loadSources = loadAll sources (firstBuild E sources vars) := by
    rw [ConfigBuilder.loadSources, List.foldl_map]
    rfl
  rw [build_builderOf, secondBuild, ← loaded]
  rfl

/-- After the second loading a field is what the sources set, or what the first call left. -/
theorem get_loadAll_again (f : ConfigField) :
    (loadAll sources (firstBuild E sources vars)).get f =
        (loadAll sources (Config.default : Config E)).get f ∨
      (loadAll sources (Config.default : Config E)).get f = ConfigField.default f ∧
        (loadAll sources (firstBuild E sources vars)).get f =
          (firstBuild E sources vars).get f := by
  obtain ⟨x, sets⟩ := exists_setting_loadAll (E := E) sources f
  rw [sets, sets]
  cases x with
  | none => exact .inr ⟨rfl, rfl⟩
  | some x => exact .inl rfl

variable {sources vars}

theorem siteOf_again :
    siteOf ((loadAll sources (firstBuild E sources vars)).get .site) =
      siteOf ((loadAll sources (Config.default : Config E)).get .site) := by
  rcases get_loadAll_again (E := E) sources vars .site with same | ⟨default, kept⟩
  · rw [same]
  · rw [kept, firstBuild, Config.get_resolve_site, default]
    exact siteOf_siteOf_empty

/-- A field that is not filled in stays. -/
theorem get_again_of_not_filled {f : ConfigField} (hf : f.isFilledIn = false) :
    (secondBuild E sources vars).get f = (firstBuild E sources vars).get f ∧
      (loadAll sources (firstBuild E sources vars)).get f =
        (loadAll sources (Config.default : Config E)).get f := by
  have plain (config : Config E) : (config.resolve vars).get f = config.get f :=
    (⟨[], config⟩ : ConfigBuilder E).get_build vars hf
  have loaded : (loadAll sources (firstBuild E sources vars)).get f =
      (loadAll sources (Config.default : Config E)).get f := by
    rcases get_loadAll_again (E := E) sources vars f with same | ⟨-, kept⟩
    · exact same
    · rw [kept, firstBuild, plain]
  refine ⟨?_, loaded⟩
  rw [secondBuild, plain, loaded, firstBuild, plain]

/-- A field that is filled in from itself stays, if filling its default twice changes nothing. -/
theorem get_again_of_fill {f : ConfigField} (fill : f.Ty → f.Ty)
    (first : (firstBuild E sources vars).get f =
      fill ((loadAll sources (Config.default : Config E)).get f))
    (second : (secondBuild E sources vars).get f =
      fill ((loadAll sources (firstBuild E sources vars)).get f))
    (fixed : fill (fill (ConfigField.default f)) = fill (ConfigField.default f)) :
    (secondBuild E sources vars).get f = (firstBuild E sources vars).get f := by
  rw [second]
  rcases get_loadAll_again (E := E) sources vars f with same | ⟨default, kept⟩
  · rw [same, first]
  · rw [kept, first, default, fixed]

theorem get_again_of_ne {f : ConfigField} (logs : f ≠ .logsConfigLogsDdUrl) (apm : f ≠ .apmDdUrl) :
    (secondBuild E sources vars).get f = (firstBuild E sources vars).get f := by
  by_cases hf : f.isFilledIn = false
  · exact (get_again_of_not_filled hf).1
  have noProxy : (loadAll sources (firstBuild E sources vars)).get .proxyNoProxy =
      (loadAll sources (Config.default : Config E)).get .proxyNoProxy :=
    (get_again_of_not_filled rfl).2
  have style : (loadAll sources (firstBuild E sources vars)).get .tracePropagationStyle =
      (loadAll sources (Config.default : Config E)).get .tracePropagationStyle :=
    (get_again_of_not_filled rfl).2
  cases f
  case site =>
    rw [secondBuild, Config.get_resolve_site, siteOf_again, firstBuild, Config.get_resolve_site]
  case proxyHttps =>
    refine get_again_of_fill _ (Config.get_resolve_proxyHttps ..) ?_ (proxyHttpsOf_again ..)
    rw [secondBuild, Config.get_resolve_proxyHttps, siteOf_again, noProxy]
  case tracePropagationStyleExtract =>
    refine get_again_of_fill _ (Config.get_resolve_extract ..) ?_ (extractStyleOf_again _)
    rw [secondBuild, Config.get_resolve_extract, style]
  case ddUrl =>
    exact get_again_of_fill trimUrl (Config.get_resolve_ddUrl ..) (Config.get_resolve_ddUrl ..)
      trimUrl_trimUrl_empty
  case url =>
    exact get_again_of_fill trimUrl (Config.get_resolve_url ..) (Config.get_resolve_url ..)
      trimUrl_trimUrl_empty
  case logsConfigLogsDdUrl => exact absurd rfl logs
  case apmDdUrl => exact absurd rfl apm
  all_goals exact absurd rfl hf

/-- What the site is when the addresses are filled in. -/
theorem site_loaded :
    (loadAll sources (Config.default : Config E)).get .site =
      (lastSetting sources .site).getD "" :=
  setsTo_lastSetting sources (.inl rfl) Config.default

/-- The address of the logs stays if it was set, or if nothing is trimmed off the site. -/
theorem get_logsUrl_again_iff :
    (secondBuild E sources vars).get .logsConfigLogsDdUrl =
        (firstBuild E sources vars).get .logsConfigLogsDdUrl ↔
      (lastSetting sources .logsConfigLogsDdUrl).isSome ∨
        PlainEnd ((lastSetting sources .site).getD "") := by
  have sets (config : Config E) : (loadAll sources config).get .logsConfigLogsDdUrl =
      (lastSetting sources .logsConfigLogsDdUrl).getD (config.get .logsConfigLogsDdUrl) :=
    setsTo_lastSetting sources (.inr (.inl rfl)) config
  have first : (firstBuild E sources vars).get .logsConfigLogsDdUrl =
      logsUrlOf (siteOf ((lastSetting sources .site).getD ""))
        ((lastSetting sources .logsConfigLogsDdUrl).getD "") := by
    rw [firstBuild, Config.get_resolve_logsUrl, sets, site_loaded]
    exact congrArg (logsUrlOf _) rfl
  have second : (secondBuild E sources vars).get .logsConfigLogsDdUrl =
      logsUrlOf (siteOf ((lastSetting sources .site).getD ""))
        ((lastSetting sources .logsConfigLogsDdUrl).getD
          ((firstBuild E sources vars).get .logsConfigLogsDdUrl)) := by
    rw [secondBuild, Config.get_resolve_logsUrl, siteOf_again, sets, site_loaded]
  rw [fill_again_iff first second, logsUrlOf_again_iff, plainEnd_siteOf_iff]

/-- The address of the traces stays if it was set. -/
theorem get_apmUrl_again_iff (route : IntakeRoute) :
    (secondBuild E sources vars).get .apmDdUrl = (firstBuild E sources vars).get .apmDdUrl ↔
      (lastSetting sources .apmDdUrl).isSome := by
  have sets (config : Config E) : (loadAll sources config).get .apmDdUrl =
      (lastSetting sources .apmDdUrl).getD (config.get .apmDdUrl) :=
    setsTo_lastSetting sources (.inr (.inr rfl)) config
  have first : (firstBuild E sources vars).get .apmDdUrl =
      apmUrlOf (siteOf ((lastSetting sources .site).getD ""))
        ((lastSetting sources .apmDdUrl).getD "") := by
    rw [firstBuild, Config.get_resolve_apmUrl, sets, site_loaded]
    exact congrArg (apmUrlOf _) rfl
  have second : (secondBuild E sources vars).get .apmDdUrl =
      apmUrlOf (siteOf ((lastSetting sources .site).getD ""))
        ((lastSetting sources .apmDdUrl).getD ((firstBuild E sources vars).get .apmDdUrl)) := by
    rw [secondBuild, Config.get_resolve_apmUrl, siteOf_again, sets, site_loaded]
  rw [fill_again_iff first second, or_iff_left (apmUrlOf_again_ne route _)]

theorem ext_again :
    (secondBuild E sources vars).ext =
        extendAll sources (extendAll sources (ConfigExtension.default : E)) ∧
      (firstBuild E sources vars).ext = extendAll sources ConfigExtension.default := by
  have first : (firstBuild E sources vars).ext = extendAll sources ConfigExtension.default := by
    rw [firstBuild, ext_resolve, ext_loadAll]
    rfl
  refine ⟨?_, first⟩
  rw [secondBuild, ext_resolve, ext_loadAll, first]

end

/-- A second call returns what the first one returned. -/
def BuildsAlike (E : Type) [ConfigExtension E] (sources : List Source) (vars : ProcessVars) :
    Prop :=
  (((builderOf E sources).build vars).1.build vars).2 = ((builderOf E sources).build vars).2

/-- A second call returns the configuration of the first one exactly if a source sets the address
of the traces, one sets the address of the logs or the site has a plain end, and the extension of
the consumer stays. -/
theorem build_again_eq_iff (route : IntakeRoute) (sources : List Source) (vars : ProcessVars) :
    BuildsAlike E sources vars ↔
      (lastSetting sources .apmDdUrl).isSome ∧
        ((lastSetting sources .logsConfigLogsDdUrl).isSome ∨
          PlainEnd ((lastSetting sources .site).getD "")) ∧
        extendAll sources (extendAll sources (ConfigExtension.default : E)) =
          extendAll sources ConfigExtension.default := by
  have config_eq_iff (a b : Config E) : a = b ↔ (∀ f, a.get f = b.get f) ∧ a.ext = b.ext := by
    constructor
    · rintro rfl
      exact ⟨fun _ => rfl, rfl⟩
    · rintro ⟨fields, ext⟩
      cases a
      cases b
      cases ext
      exact congrArg (Config.mk · _) (funext fields)
  have apmUrl : (secondBuild E sources vars).get .apmDdUrl =
      (firstBuild E sources vars).get .apmDdUrl ↔ _ := get_apmUrl_again_iff route
  have logsUrl : (secondBuild E sources vars).get .logsConfigLogsDdUrl =
      (firstBuild E sources vars).get .logsConfigLogsDdUrl ↔ _ := get_logsUrl_again_iff
  rw [BuildsAlike, build_again, build_builderOf, config_eq_iff, (ext_again (E := E)).1,
    (ext_again (E := E)).2, ← apmUrl, ← logsUrl, ← and_assoc]
  refine and_congr_left fun _ => ⟨fun fields => ⟨fields _, fields _⟩, ?_⟩
  rintro ⟨apm, logs⟩ f
  by_cases hf : f = .logsConfigLogsDdUrl
  · exact hf ▸ logs
  · by_cases hf' : f = .apmDdUrl
    · exact hf' ▸ apm
    · exact get_again_of_ne hf hf'

omit [ExternalCrates] in
/-- Nothing is set: the intake path is appended to the default address of the traces. -/
theorem not_buildsAlike_of_nothing_set :
    ¬ ∀ (sources : List Source) (vars : ProcessVars),
      @BuildsAlike plainCrates NoExtension _ sources vars := by
  let := plainCrates
  intro alike
  have same := alike [.env ∅] ⟨none, none⟩
  rw [BuildsAlike, build_again, build_builderOf] at same
  have route : IntakeRoute := ⟨fun _ => rfl, fun _ => rfl⟩
  have set := (get_apmUrl_again_iff route).1 (congrArg (fun c => c.get .apmDdUrl) same)
  have unset : lastSetting [.env ∅] .apmDdUrl = none := by
    unfold lastSetting Source.setting
    cases EnvConfig.extract ∅ <;> rfl
  rw [unset] at set
  cases set

/-- An environment that sets nothing but the address of the traces. -/
def onlyTraceAddress : List Source :=
  [.env (AList.singleton "apm_dd_url" (.string "https://trace"))]

omit [ExternalCrates] in
theorem build_again_eq_iff_onlyTraceAddress :
    @BuildsAlike plainCrates NoExtension _ onlyTraceAddress ⟨none, none⟩ ↔
      (@lastSetting plainCrates onlyTraceAddress .apmDdUrl).isSome ∧
        ((@lastSetting plainCrates onlyTraceAddress .logsConfigLogsDdUrl).isSome ∨
          PlainEnd ((@lastSetting plainCrates onlyTraceAddress .site).getD "")) ∧
        @extendAll plainCrates NoExtension _ onlyTraceAddress
            (@extendAll plainCrates NoExtension _ onlyTraceAddress ⟨⟩) =
          @extendAll plainCrates NoExtension _ onlyTraceAddress ⟨⟩ := by
  let := plainCrates
  exact build_again_eq_iff (E := NoExtension) ⟨fun _ => rfl, fun _ => rfl⟩ onlyTraceAddress
    ⟨none, none⟩

end ServerlessComponents.AgentConfig
