import Mathlib.Data.List.Infix
import ServerlessComponents.AgentConfig.Config

/-!
# The configuration builder

`ConfigBuilder` loads its sources in the order they were added, and then fills in what follows from
the fields: the proxy, the extraction styles and the addresses of the intakes. `vars` are the two
process variables it reads itself.

## Main results

* `ConfigBuilder.get_build` — the fields that are not filled in are those the sources left.
-/
namespace ServerlessComponents.AgentConfig

def trimUrl (url : String) : String := trimEndMatches (· = '/') (trim url)

def buildFqdnLogs (site : String) : String := "https://http-intake.logs." ++ site

def logsIntakeUrl (url : String) : String :=
  let url := trim url
  if url.isEmpty then url
  else if "https://".toList.isPrefixOf url.toList || "http://".toList.isPrefixOf url.toList then url
  else "https://" ++ url

/-- `HTTPS_PROXY` and `NO_PROXY`. -/
structure ProcessVars where
  httpsProxy : Option String
  noProxy : Option String

variable [ExternalCrates] {E : Type}

/-- Load a source; one that fails is skipped. -/
def loadSource (config : Config E) (source : ConfigSource E) : Config E :=
  match source config with
  | .ok config' => config'
  | .error _ => config

structure ConfigBuilder (E : Type) where
  sources : List (ConfigSource E)
  config : Config E

namespace ConfigBuilder

def default [ConfigExtension E] : ConfigBuilder E := ⟨[], Config.default⟩

def addSource (self : ConfigBuilder E) (source : ConfigSource E) : ConfigBuilder E :=
  { self with sources := self.sources ++ [source] }

/-- The configuration once every source is loaded. -/
def loadSources (self : ConfigBuilder E) : Config E := self.sources.foldl loadSource self.config

end ConfigBuilder

namespace Config

def fillSite (config : Config E) : Config E :=
  if (config.get .site).isEmpty then config.set .site "datadoghq.com" else config

def fillProxyHttps (vars : ProcessVars) (config : Config E) : Config E :=
  match vars.httpsProxy, config.get .proxyHttps with
  | some proxy, none => config.set .proxyHttps (some proxy)
  | _, _ => config

/-- Some entry of `NO_PROXY`, or of the field, contains the site. -/
def siteInNoProxy (vars : ProcessVars) (config : Config E) : Bool :=
  (vars.noProxy.toList ++ config.get .proxyNoProxy).any fun noProxy =>
    decide ((config.get .site).toList <:+: noProxy.toList)

def dropProxyHttps (vars : ProcessVars) (config : Config E) : Config E :=
  if (config.get .proxyHttps).isSome && config.siteInNoProxy vars then
    config.set .proxyHttps none
  else config

def fillExtractStyle (config : Config E) : Config E :=
  if (config.get .tracePropagationStyleExtract).isEmpty then
    config.set .tracePropagationStyleExtract (config.get .tracePropagationStyle)
  else config

def trimUrls (config : Config E) : Config E :=
  let config := config.set .ddUrl (trimUrl (config.get .ddUrl))
  config.set .url (trimUrl (config.get .url))

def fillLogsUrl (config : Config E) : Config E :=
  config.set .logsConfigLogsDdUrl
    (if (trim (config.get .logsConfigLogsDdUrl)).isEmpty then buildFqdnLogs (config.get .site)
      else logsIntakeUrl (trimUrl (config.get .logsConfigLogsDdUrl)))

def fillApmUrl (config : Config E) : Config E :=
  config.set .apmDdUrl
    (if (trim (config.get .apmDdUrl)).isEmpty then
        ExternalCrates.traceIntakeUrl (config.get .site)
      else ExternalCrates.traceIntakeUrlPrefixed (trimUrl (config.get .apmDdUrl)))

end Config

/-- The builder keeps the configuration it returns. -/
def ConfigBuilder.build (self : ConfigBuilder E) (vars : ProcessVars) :
    ConfigBuilder E × Config E :=
  let config := self.loadSources.fillSite
  let config := (config.fillProxyHttps vars).dropProxyHttps vars
  let config := config.fillExtractStyle.trimUrls.fillLogsUrl.fillApmUrl
  ({ self with config }, config)

/-! ## What is filled in -/

/-- The fields filled in once the sources are loaded. -/
def ConfigField.isFilledIn : ConfigField → Bool
  | .site | .proxyHttps | .tracePropagationStyleExtract | .ddUrl | .url | .logsConfigLogsDdUrl
  | .apmDdUrl => true
  | _ => false

namespace Config

variable {config : Config E} {vars : ProcessVars} {f : ConfigField}

theorem get_set_of_ne {g : ConfigField} {x : g.Ty} (h : f ≠ g) :
    (config.set g x).get f = config.get f :=
  Function.update_of_ne h x config.get

theorem get_fillSite (h : f ≠ .site) : config.fillSite.get f = config.get f := by
  unfold fillSite
  split
  · exact get_set_of_ne h
  · rfl

theorem get_fillProxyHttps (h : f ≠ .proxyHttps) :
    (config.fillProxyHttps vars).get f = config.get f := by
  unfold fillProxyHttps
  split
  · exact get_set_of_ne h
  · rfl

theorem get_dropProxyHttps (h : f ≠ .proxyHttps) :
    (config.dropProxyHttps vars).get f = config.get f := by
  unfold dropProxyHttps
  split
  · exact get_set_of_ne h
  · rfl

theorem get_fillExtractStyle (h : f ≠ .tracePropagationStyleExtract) :
    config.fillExtractStyle.get f = config.get f := by
  unfold fillExtractStyle
  split
  · exact get_set_of_ne h
  · rfl

theorem get_trimUrls (hd : f ≠ .ddUrl) (hu : f ≠ .url) :
    config.trimUrls.get f = config.get f :=
  (get_set_of_ne hu).trans (get_set_of_ne hd)

end Config

theorem ConfigBuilder.get_build (self : ConfigBuilder E) (vars : ProcessVars) {f : ConfigField}
    (hf : f.isFilledIn = false) : (self.build vars).2.get f = self.loadSources.get f := by
  have apart (g : ConfigField) (hg : g.isFilledIn = true) : f ≠ g := by
    rintro rfl
    exact absurd (hg.symm.trans hf) (by decide)
  refine (Config.get_set_of_ne (apart .apmDdUrl rfl)).trans ?_
  refine (Config.get_set_of_ne (apart .logsConfigLogsDdUrl rfl)).trans ?_
  refine (Config.get_trimUrls (apart .ddUrl rfl) (apart .url rfl)).trans ?_
  refine (Config.get_fillExtractStyle (apart .tracePropagationStyleExtract rfl)).trans ?_
  refine (Config.get_dropProxyHttps (apart .proxyHttps rfl)).trans ?_
  refine (Config.get_fillProxyHttps (apart .proxyHttps rfl)).trans ?_
  exact Config.get_fillSite (apart .site rfl)

end ServerlessComponents.AgentConfig
