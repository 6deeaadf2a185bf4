import ServerlessComponents.AgentConfig.Layering

/-!
# Compression levels

Logs, APM and metrics each have a compression level of their own beside the global one. Every
source merges the global level and then the one of the component into the same field, so that the
order of the sources decides between the two.

## Main results

* `level_eq_precedence_iff` — when the level of a component is the one its own settings ask for.
-/
namespace ServerlessComponents.AgentConfig

/-- The components with a level of their own. -/
inductive Component where
  | logs | apm | metrics
  deriving DecidableEq, Repr

/-! ## The precedence of the settings -/

section Precedence

variable {envOwn yamlOwn envGlobal yamlGlobal : Option Int32}

/-- Own levels come before global ones unless a global one of the environment meets an own one. -/
theorem getD_eq_precedence_iff :
    envOwn.getD (envGlobal.getD ((yamlOwn.or yamlGlobal).getD 3)) =
        ((envOwn.or yamlOwn).or (envGlobal.or yamlGlobal)).getD 3 ↔
      (envOwn = none → ∀ g l, envGlobal = some g → yamlOwn = some l → g = l) := by
  cases envOwn with
  | some l => simp
  | none =>
    cases yamlOwn with
    | none => cases envGlobal <;> simp
    | some l => cases envGlobal <;> simp

/-- The levels of the file stay only where those of the environment repeat them. -/
theorem fileLevel_eq_precedence_iff {level : Int32}
    (file : level = (yamlOwn.or yamlGlobal).getD 3) :
    level = ((envOwn.or yamlOwn).or (envGlobal.or yamlGlobal)).getD 3 ↔
      (∀ l, envOwn = some l → l = level) ∧
        (envOwn = none → yamlOwn = none → ∀ g, envGlobal = some g → g = level) := by
  cases envOwn with
  | some l => simp [eq_comm]
  | none =>
    cases yamlOwn with
    | some l => simp [file]
    | none =>
      cases envGlobal with
      | none => simp [file]
      | some g => simp [eq_comm]

end Precedence

section

variable [ExternalCrates]

/-! ## What the sources set -/

def Config.level {E : Type} (config : Config E) : Component → Int32
  | .logs => config.get .logsConfigCompressionLevel
  | .apm => config.get .apmConfigCompressionLevel
  | .metrics => config.get .metricsConfigCompressionLevel

/-- The global level a document sets. -/
def yamlGlobalLevel (doc : Option Value) : Option Int32 := yamlSetting doc .compressionLevel

/-- The global level the environment sets. -/
def envGlobalLevel (figment : Dict) : Option Int32 := envSetting figment .compressionLevel

namespace Component

/-- The level of the component itself that a document sets. -/
def yamlLevel (doc : Option Value) : Component → Option Int32
  | .logs =>
    (memberOf (memberOf doc 17 "logs_config") 3 "compression_level").bind (accepted deserializeI32)
  | .apm =>
    (memberOf (memberOf doc 18 "apm_config") 3 "compression_level").bind (accepted deserializeI32)
  | .metrics =>
    (memberOf (memberOf doc 25 "metrics_config") 0 "compression_level").bind
      (accepted deserializeI32)

/-- The level of the component itself that the environment sets. -/
def envLevel (figment : Dict) : Component → Option Int32
  | .logs => envSetting figment .logsConfigCompressionLevel
  | .apm => envSetting figment .apmConfigCompressionLevel
  | .metrics => envSetting figment .metricsConfigCompressionLevel

/-- The level of the component's own settings, else the global one, else the default; of two
settings the one of the environment. -/
def precedence (doc : Option Value) (figment : Dict) (c : Component) : Int32 :=
  (((c.envLevel figment).or (c.yamlLevel doc)).or
    ((envGlobalLevel figment).or (yamlGlobalLevel doc))).getD 3

/-- The level by the file alone. -/
def fileLevel (doc : Option Value) (c : Component) : Int32 :=
  ((c.yamlLevel doc).or (yamlGlobalLevel doc)).getD 3

/-- The global level of the environment does not meet another level that the file sets for the
component; and an environment that cannot be extracted repeats the file. -/
structure Unshadowed (doc : Option Value) (figment : Dict) (c : Component) : Prop where
  global : Anticipated figment → c.envLevel figment = none →
    ∀ g l, envGlobalLevel figment = some g → c.yamlLevel doc = some l → g = l
  skipped : ¬Anticipated figment →
    (∀ l, c.envLevel figment = some l → l = c.fileLevel doc) ∧
      (c.envLevel figment = none → c.yamlLevel doc = none →
        ∀ g, envGlobalLevel figment = some g → g = c.fileLevel doc)

end Component

/-! ## The level of a component after both sources -/

section Sources

variable {E : Type}

theorem level_mergeConfig_yaml [ConfigExtension E] (doc : Option Value) (c : Component) :
    ((YamlConfig.read doc).mergeConfig (Config.default : Config E)).level c = c.fileLevel doc := by
  have merged (own global : Option Int32) :
      mergeOptionToValue (mergeOptionToValue 3 global) own = (own.or global).getD 3 := by
    cases own <;> rfl
  cases c <;> exact merged _ _

/-- A variable for a level is what the environment sets. -/
theorem envSetting_of_extract {figment : Dict} {env : EnvConfig}
    (h : EnvConfig.extract figment = .ok env) :
    env .compressionLevel = envSetting figment .compressionLevel ∧
      env .logsConfigCompressionLevel = envSetting figment .logsConfigCompressionLevel ∧
      env .apmConfigCompressionLevel = envSetting figment .apmConfigCompressionLevel ∧
      env .metricsConfigCompressionLevel = envSetting figment .metricsConfigCompressionLevel := by
  have set (f : ConfigField) (hf : f ≠ .logLevel) :
      (f.deserializer.setting (env f)).bind f.envSets = envSetting figment f :=
    congrArg (Option.bind · f.envSets) (setting_of_extract h hf)
  refine ⟨?_, ?_, ?_, ?_⟩
  · exact (Option.bind_fun_some _).symm.trans (set .compressionLevel (by decide))
  · exact (Option.bind_fun_some _).symm.trans (set .logsConfigCompressionLevel (by decide))
  · exact (Option.bind_fun_some _).symm.trans (set .apmConfigCompressionLevel (by decide))
  · exact (Option.bind_fun_some _).symm.trans (set .metricsConfigCompressionLevel (by decide))

theorem level_mergeConfig_env {figment : Dict} {env : EnvConfig}
    (h : EnvConfig.extract figment = .ok env) (config : Config E) (c : Component) :
    (env.mergeConfig config).level c =
      (c.envLevel figment).getD ((envGlobalLevel figment).getD (config.level c)) := by
  obtain ⟨global, logs, apm, metrics⟩ := envSetting_of_extract h
  unfold envGlobalLevel
  cases c with
  | logs =>
    rw [Component.envLevel, ← global, ← logs]
    rfl
  | apm =>
    rw [Component.envLevel, ← global, ← apm]
    rfl
  | metrics =>
    rw [Component.envLevel, ← global, ← metrics]
    rfl

variable [ConfigExtension E] {yaml : Except Error Dict} {figment : Dict}

/-- What figment makes of a file, as a value. -/
def document (yaml : Except Error Dict) : Option Value := yaml.toOption.map Value.ofDict

theorem fileLevel_none (c : Component) : c.fileLevel none = 3 := by
  have global : yamlGlobalLevel none = none := yamlSetting_none _
  rw [Component.fileLevel, global]
  cases c <;> rfl

theorem level_mergeExt (config : Config E) (dict : Dict) (c : Component) :
    (config.mergeExt dict).level c = config.level c := by
  cases c <;> exact congrFun (Config.get_mergeExt config dict) _

theorem level_loadSource_yaml (c : Component) :
    (loadSource (Config.default : Config E) (YamlConfig.load yaml)).level c =
      c.fileLevel (document yaml) := by
  cases yaml with
  | error e =>
    rw [document, Except.toOption, Option.map_none, fileLevel_none]
    cases c <;> rfl
  | ok doc =>
    rw [loadSource, YamlConfig.load, YamlConfig.extract_eq]
    exact (level_mergeExt _ doc c).trans (level_mergeConfig_yaml (some (Value.ofDict doc)) c)

/-- The level after both sources; an environment that cannot be extracted is skipped. -/
theorem level_merged_of_extract {env : EnvConfig} (h : EnvConfig.extract figment = .ok env)
    (c : Component) :
    (merged E yaml figment).level c =
      (c.envLevel figment).getD ((envGlobalLevel figment).getD (c.fileLevel (document yaml))) := by
  have loaded : merged E yaml figment =
      (env.mergeConfig (loadSource Config.default (YamlConfig.load yaml))).mergeExt figment := by
    simp [merged, yamlThenEnv, ConfigBuilder.loadSources, ConfigBuilder.addSource,
      ConfigBuilder.default, loadSource, EnvConfig.load, h]
  rw [loaded, level_mergeExt, level_mergeConfig_env h, level_loadSource_yaml]

theorem level_merged_of_not_anticipated (h : ¬Anticipated figment) (c : Component) :
    (merged E yaml figment).level c = c.fileLevel (document yaml) := by
  cases extracted : EnvConfig.extract figment with
  | ok env => exact absurd (EnvConfig.extract_ok_iff.1 ⟨env, extracted⟩) h
  | error e =>
    have skipped : merged E yaml figment = loadSource Config.default (YamlConfig.load yaml) := by
      simp [merged, yamlThenEnv, ConfigBuilder.loadSources, ConfigBuilder.addSource,
        ConfigBuilder.default, loadSource, EnvConfig.load, extracted]
    rw [skipped, level_loadSource_yaml]

theorem level_build (vars : ProcessVars) (c : Component) :
    ((yamlThenEnv E yaml figment).build vars).2.level c = (merged E yaml figment).level c := by
  cases c <;> exact (yamlThenEnv E yaml figment).get_build vars rfl

/-- A component gets the level its own settings ask for, and a global one only without them,
exactly where none of its settings is shadowed. -/
theorem level_eq_precedence_iff (yaml : Except Error Dict) (figment : Dict) (vars : ProcessVars)
    (c : Component) :
    ((yamlThenEnv E yaml figment).build vars).2.level c = c.precedence (document yaml) figment ↔
      c.Unshadowed (document yaml) figment := by
  rw [level_build]
  by_cases h : Anticipated figment
  · obtain ⟨env, extracted⟩ := EnvConfig.extract_ok_iff.2 h
    rw [level_merged_of_extract extracted]
    refine getD_eq_precedence_iff.trans ⟨fun global => ⟨fun _ => global, fun n => absurd h n⟩, ?_⟩
    exact fun unshadowed => unshadowed.global h
  · rw [level_merged_of_not_anticipated h]
    refine (fileLevel_eq_precedence_iff rfl).trans
      ⟨fun skipped => ⟨fun a => absurd a h, fun _ => skipped⟩, ?_⟩
    exact fun unshadowed => unshadowed.skipped h

end Sources

end

/-- `logs_config.compression_level: 6` in the file next to `DD_COMPRESSION_LEVEL=9`: the level of
the logs becomes the global one. -/
theorem global_level_overrides_logs :
    letI := plainCrates
    let yaml : Except Error Dict :=
      .ok (AList.singleton "logs_config" (.dict [("compression_level", .num (.u64 6))]))
    let env : Dict := AList.singleton "compression_level" (.num (.u64 9))
    ((yamlThenEnv NoExtension yaml env).build ⟨none, none⟩).2.level .logs ≠
      Component.precedence (document yaml) env .logs := by
  let _ := plainCrates
  intro yaml env
  have anticipated : Anticipated env := by
    apply anticipated_iff.2
    intro f v hv
    cases f <;> trivial
  obtain ⟨r, extracted⟩ := EnvConfig.extract_ok_iff.2 anticipated
  rw [level_build, level_merged_of_extract extracted]
  decide

end ServerlessComponents.AgentConfig
