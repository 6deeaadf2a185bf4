import Mathlib.Data.List.DropRight
import ServerlessComponents.AgentConfig.Builder

/-!
# What the builder fills in

The fields that are filled in once the sources are loaded, each as a function of the fields it is
made from, and what these functions make of their own results.

## Main results

* `logsUrlOf_again_iff` — the default address of the logs is trimmed like one that was set.
* `apmUrlOf_again_ne` — the default address of the traces is taken for a prefix.
-/
namespace ServerlessComponents.AgentConfig

/-! ## What is filled in -/

def siteOf (site : String) : String := if site.isEmpty then "datadoghq.com" else site

def proxyHttpsOf (vars : ProcessVars) (site : String) (noProxy : List String)
    (proxy : Option String) : Option String :=
  if (proxy.or vars.httpsProxy).isSome &&
      (vars.noProxy.toList ++ noProxy).any fun noProxy => decide (site.toList <:+: noProxy.toList)
  then none else proxy.or vars.httpsProxy

def extractStyleOf {α : Type} (style extract : List α) : List α :=
  if extract.isEmpty then style else extract

def logsUrlOf (site url : String) : String :=
  if (trim url).isEmpty then buildFqdnLogs site else logsIntakeUrl (trimUrl url)

/-! ## Fixed points of the filling -/

theorem siteOf_siteOf_empty : siteOf (siteOf "") = siteOf "" := by
  decide

theorem proxyHttpsOf_again (vars : ProcessVars) (site : String) (noProxy : List String) :
    proxyHttpsOf vars site noProxy (proxyHttpsOf vars site noProxy none) =
      proxyHttpsOf vars site noProxy none := by
  unfold proxyHttpsOf
  cases vars.httpsProxy with
  | none => rfl
  | some https =>
    split <;> simp_all

theorem extractStyleOf_again {α : Type} (style : List α) :
    extractStyleOf style (extractStyleOf style []) = extractStyleOf style [] := by
  cases style <;> rfl

/-- What was not set is filled in from its own result the second time. -/
theorem fill_again_iff {α : Type} {fill : α → α} {set : Option α} {default first second : α}
    (first_eq : first = fill (set.getD default)) (second_eq : second = fill (set.getD first)) :
    second = first ↔ set.isSome ∨ fill (fill default) = fill default := by
  subst first_eq second_eq
  cases set with
  | none => simp
  | some x => simp

theorem trimUrl_trimUrl_empty : trimUrl (trimUrl "") = trimUrl "" := by
  decide

/-! ### Ends of addresses -/

/-- Nothing is trimmed off the end. -/
def PlainEnd (s : String) : Prop := ∀ c ∈ s.toList.getLast?, c ≠ '/' ∧ isWhitespace c = false

theorem plainEnd_siteOf_iff {site : String} : PlainEnd (siteOf site) ↔ PlainEnd site := by
  rw [siteOf]
  split
  · rename_i empty
    obtain rfl : site = "" := by simpa using empty
    have last : "datadoghq.com".toList.getLast? = some 'm' := by decide
    refine iff_of_true ?_ ?_
    · rw [PlainEnd, last]
      rintro _ ⟨⟩
      decide
    · simp [PlainEnd]
  · rfl

theorem rdropWhile_append_concat {α : Type} {p : α → Bool} {a : α} (ha : p a = false)
    (before after : List α) :
    (before ++ [a] ++ after).rdropWhile p = before ++ [a] ++ after.rdropWhile p := by
  induction after using List.reverseRecOn with
  | nil =>
    rw [List.append_nil, List.rdropWhile_nil, List.append_nil]
    exact List.rdropWhile_concat_neg _ _ _ (by simp [ha])
  | append_singleton after b ih =>
    rw [← List.append_assoc]
    by_cases hb : p b
    · rw [List.rdropWhile_concat_pos _ _ _ hb, List.rdropWhile_concat_pos _ _ _ hb, ih]
    · rw [List.rdropWhile_concat_neg _ _ _ hb, List.rdropWhile_concat_neg _ _ _ hb,
        List.append_assoc]

section

variable {c a : Char} (mid after : List Char)

/-- Trimming stops at a character in the middle. -/
theorem trim_around (hc : isWhitespace c = false) (ha : isWhitespace a = false) :
    trim (String.ofList (c :: mid ++ [a] ++ after)) =
      String.ofList (c :: mid ++ [a] ++ after.rdropWhile isWhitespace) := by
  have front : (c :: mid ++ [a] ++ after).dropWhile isWhitespace = c :: mid ++ [a] ++ after :=
    List.dropWhile_cons_of_neg (by simp [hc])
  have back (l : List Char) : (l.reverse.dropWhile isWhitespace).reverse =
      l.rdropWhile isWhitespace := rfl
  rw [trim, trimEndMatches, String.toList_ofList, String.toList_ofList, front, back,
    rdropWhile_append_concat ha]

theorem trimUrl_around (hc : isWhitespace c = false) (ha : isWhitespace a = false)
    (slash : a ≠ '/') :
    trimUrl (String.ofList (c :: mid ++ [a] ++ after)) =
      String.ofList (c :: mid ++ [a] ++
        (after.rdropWhile isWhitespace).rdropWhile (· = '/')) := by
  have back (l : List Char) : (l.reverse.dropWhile (· = '/')).reverse = l.rdropWhile (· = '/') :=
    rfl
  rw [trimUrl, trim_around mid after hc ha, trimEndMatches, String.toList_ofList, back,
    rdropWhile_append_concat (by simpa using slash)]

end

/-- Three rounds of trimming leave an end alone exactly if it is plain. -/
theorem trimmed_eq_iff {s : String} :
    ((s.toList.rdropWhile isWhitespace).rdropWhile (· = '/')).rdropWhile isWhitespace =
      s.toList ↔ PlainEnd s := by
  rw [PlainEnd]
  have shorter (p : Char → Bool) (l : List Char) : (l.rdropWhile p).length ≤ l.length :=
    (List.rdropWhile_prefix p l).length_le
  induction s.toList using List.reverseRecOn with
  | nil => simp
  | append_singleton l x =>
    simp only [List.getLast?_append, List.getLast?_singleton, Option.some_or, Option.mem_some_iff,
      forall_eq']
    by_cases blank : isWhitespace x
    · refine iff_of_false (fun same => ?_) (by simp [blank])
      -- what is left is too short
      rw [List.rdropWhile_concat_pos _ _ _ blank] at same
      have lengths := congrArg List.length same
      have first := shorter isWhitespace l
      have second := shorter (· = '/') (l.rdropWhile isWhitespace)
      have third := shorter isWhitespace ((l.rdropWhile isWhitespace).rdropWhile (· = '/'))
      rw [List.length_append, List.length_singleton] at lengths
      omega
    · by_cases slash : x = '/'
      · refine iff_of_false (fun same => ?_) (by simp [slash])
        rw [List.rdropWhile_concat_neg _ _ _ blank,
          List.rdropWhile_concat_pos _ _ _ (by simpa using slash)] at same
        have lengths := congrArg List.length same
        have first := shorter (· = '/') l
        have second := shorter isWhitespace (l.rdropWhile (· = '/'))
        rw [List.length_append, List.length_singleton] at lengths
        omega
      · refine iff_of_true ?_ ⟨slash, by simpa using blank⟩
        rw [List.rdropWhile_concat_neg _ _ _ blank,
          List.rdropWhile_concat_neg _ _ _ (by simpa using slash),
          List.rdropWhile_concat_neg _ _ _ blank]

/-- The characters of `https://http-intake.logs.` between the first and the last. -/
def logsMiddle : List Char := "ttps://http-intake.logs".toList

theorem buildFqdnLogs_eq (site : String) :
    buildFqdnLogs site = String.ofList ('h' :: logsMiddle ++ ['.'] ++ site.toList) := by
  have literal : "https://http-intake.logs.".toList = 'h' :: logsMiddle ++ ['.'] := by
    decide +kernel
  calc buildFqdnLogs site
      = String.ofList (buildFqdnLogs site).toList := String.ofList_toList.symm
    _ = String.ofList ("https://http-intake.logs.".toList ++ site.toList) :=
        congrArg String.ofList String.toList_append
    _ = String.ofList ('h' :: logsMiddle ++ ['.'] ++ site.toList) :=
        congrArg (fun front => String.ofList (front ++ site.toList)) literal

/-- An address with a scheme stays, but for blanks around it. -/
theorem logsIntakeUrl_eq (rest : List Char) :
    logsIntakeUrl (String.ofList ('h' :: logsMiddle ++ ['.'] ++ rest)) =
      String.ofList ('h' :: logsMiddle ++ ['.'] ++ rest.rdropWhile isWhitespace) := by
  have https (rest : List Char) : "https://".toList.isPrefixOf
      (String.ofList ('h' :: logsMiddle ++ ['.'] ++ rest)).toList = true := by
    rw [String.toList_ofList (l := 'h' :: logsMiddle ++ ['.'] ++ rest)]
    rfl
  rw [logsIntakeUrl, trim_around _ _ (by decide) (by decide), https, Bool.true_or, if_pos rfl,
    ite_self]

/-- The default address of the logs is found again exactly if the site has a plain end. -/
theorem logsUrlOf_again_iff {site : String} :
    logsUrlOf site (logsUrlOf site "") = logsUrlOf site "" ↔ PlainEnd site := by
  have blank : (trim "").isEmpty = true := by decide
  have default : logsUrlOf site "" =
      String.ofList ('h' :: logsMiddle ++ ['.'] ++ site.toList) := by
    rw [logsUrlOf, if_pos blank, buildFqdnLogs_eq]
  have again : logsUrlOf site (logsUrlOf site "") =
      String.ofList ('h' :: logsMiddle ++ ['.'] ++
        ((site.toList.rdropWhile isWhitespace).rdropWhile (· = '/')).rdropWhile isWhitespace) := by
    rw [default, logsUrlOf, trim_around _ _ (by decide) (by decide),
      trimUrl_around _ _ (by decide) (by decide) (by decide), logsIntakeUrl_eq]
    exact if_neg (by simp)
  rw [again, default, ← trimmed_eq_iff, String.ofList_inj, List.append_cancel_left_eq]

/-! ## The fields after the filling -/

variable [ExternalCrates] {E : Type}

def apmUrlOf (site url : String) : String :=
  if (trim url).isEmpty then ExternalCrates.traceIntakeUrl site
  else ExternalCrates.traceIntakeUrlPrefixed (trimUrl url)

namespace Config

/-- What follows once the sources are loaded. -/
def resolve (vars : ProcessVars) (config : Config E) : Config E :=
  ((config.fillSite.fillProxyHttps vars).dropProxyHttps
    vars).fillExtractStyle.trimUrls.fillLogsUrl.fillApmUrl

variable {vars : ProcessVars} {config : Config E}

theorem get_set_self {f : ConfigField} {x : f.Ty} : (config.set f x).get f = x :=
  Function.update_self f x config.get

theorem get_fillSite_site : config.fillSite.get .site = siteOf (config.get .site) := by
  rw [fillSite, siteOf]
  split
  · exact get_set_self
  · rfl

theorem get_resolve_site : (config.resolve vars).get .site = siteOf (config.get .site) := by
  rw [resolve, fillApmUrl, get_set_of_ne (by decide), fillLogsUrl, get_set_of_ne (by decide),
    get_trimUrls (by decide) (by decide), get_fillExtractStyle (by decide),
    get_dropProxyHttps (by decide), get_fillProxyHttps (by decide), get_fillSite_site]

theorem get_fillProxyHttps_proxyHttps :
    (config.fillProxyHttps vars).get .proxyHttps = (config.get .proxyHttps).or vars.httpsProxy := by
  rw [fillProxyHttps]
  cases https : vars.httpsProxy with
  | none => simp
  | some https =>
    cases proxy : config.get .proxyHttps with
    | none => exact get_set_self
    | some proxy => exact ‹config.get .proxyHttps = _›

theorem get_resolve_proxyHttps :
    (config.resolve vars).get .proxyHttps =
      proxyHttpsOf vars (siteOf (config.get .site)) (config.get .proxyNoProxy)
        (config.get .proxyHttps) := by
  rw [resolve, fillApmUrl, get_set_of_ne (by decide), fillLogsUrl, get_set_of_ne (by decide),
    get_trimUrls (by decide) (by decide), get_fillExtractStyle (by decide), dropProxyHttps,
    proxyHttpsOf, siteInNoProxy, get_fillProxyHttps (f := .proxyNoProxy) (by decide),
    get_fillSite (f := .proxyNoProxy) (by decide), get_fillProxyHttps (f := .site) (by decide),
    get_fillSite_site, get_fillProxyHttps_proxyHttps, get_fillSite (f := .proxyHttps) (by decide)]
  split
  · exact get_set_self
  · rw [get_fillProxyHttps_proxyHttps, get_fillSite (by decide)]

theorem get_resolve_extract :
    (config.resolve vars).get .tracePropagationStyleExtract =
      extractStyleOf (config.get .tracePropagationStyle)
        (config.get .tracePropagationStyleExtract) := by
  rw [resolve, fillApmUrl, get_set_of_ne (by decide), fillLogsUrl, get_set_of_ne (by decide),
    get_trimUrls (by decide) (by decide), fillExtractStyle, extractStyleOf]
  have below {f : ConfigField} (proxy : f ≠ .proxyHttps) (site : f ≠ .site) :
      ((config.fillSite.fillProxyHttps vars).dropProxyHttps vars).get f = config.get f := by
    rw [get_dropProxyHttps proxy, get_fillProxyHttps proxy, get_fillSite site]
  rw [below (f := .tracePropagationStyleExtract) (by decide) (by decide)]
  split
  · rw [get_set_self, below (by decide) (by decide)]
  · exact below (by decide) (by decide)

/-- The fields that are only read on the way to the addresses. -/
theorem get_below_urls {f : ConfigField} (extract : f ≠ .tracePropagationStyleExtract)
    (proxy : f ≠ .proxyHttps) :
    ((config.fillSite.fillProxyHttps vars).dropProxyHttps vars).fillExtractStyle.get f =
      config.fillSite.get f := by
  rw [get_fillExtractStyle extract, get_dropProxyHttps proxy, get_fillProxyHttps proxy]

theorem get_resolve_ddUrl : (config.resolve vars).get .ddUrl = trimUrl (config.get .ddUrl) := by
  rw [resolve, fillApmUrl, get_set_of_ne (by decide), fillLogsUrl, get_set_of_ne (by decide),
    trimUrls, get_set_of_ne (by decide), get_set_self, get_below_urls (by decide) (by decide),
    get_fillSite (by decide)]

theorem get_resolve_url : (config.resolve vars).get .url = trimUrl (config.get .url) := by
  rw [resolve, fillApmUrl, get_set_of_ne (by decide), fillLogsUrl, get_set_of_ne (by decide),
    trimUrls, get_set_self, get_set_of_ne (by decide), get_below_urls (by decide) (by decide),
    get_fillSite (by decide)]

theorem get_resolve_logsUrl :
    (config.resolve vars).get .logsConfigLogsDdUrl =
      logsUrlOf (siteOf (config.get .site)) (config.get .logsConfigLogsDdUrl) := by
  rw [resolve, fillApmUrl, get_set_of_ne (by decide), fillLogsUrl, get_set_self, logsUrlOf,
    get_trimUrls (by decide) (by decide), get_below_urls (by decide) (by decide),
    get_fillSite (by decide), get_trimUrls (by decide) (by decide),
    get_below_urls (by decide) (by decide), get_fillSite_site]

theorem get_resolve_apmUrl :
    (config.resolve vars).get .apmDdUrl =
      apmUrlOf (siteOf (config.get .site)) (config.get .apmDdUrl) := by
  rw [resolve, fillApmUrl, get_set_self, apmUrlOf, fillLogsUrl, get_set_of_ne (by decide),
    get_trimUrls (by decide) (by decide), get_below_urls (by decide) (by decide),
    get_fillSite (by decide), get_set_of_ne (by decide), get_trimUrls (by decide) (by decide),
    get_below_urls (by decide) (by decide), get_fillSite_site]

end Config

/-! ## The address of the traces -/

/-- The addresses of the trace utilities: the intake path stands behind the prefix. -/
structure IntakeRoute : Prop where
  prefixed : ∀ url, ExternalCrates.traceIntakeUrlPrefixed url = url ++ "/api/v0.2/traces"
  site : ∀ site, ExternalCrates.traceIntakeUrl site =
    "https://trace.agent." ++ site ++ "/api/v0.2/traces"

/-- The characters of `https://trace.agent.` behind the first. -/
def traceFront : List Char := "ttps://trace.agent.".toList

/-- The characters of `/api/v0.2/traces` before the last. -/
def routeFront : List Char := "/api/v0.2/trace".toList

theorem traceIntakeUrl_eq (route : IntakeRoute) (site : String) :
    ExternalCrates.traceIntakeUrl site =
      String.ofList ('h' :: (traceFront ++ site.toList ++ routeFront) ++ ['s'] ++ []) := by
  have starts : "https://trace.agent.".toList = 'h' :: traceFront := by decide +kernel
  have ends : "/api/v0.2/traces".toList = routeFront ++ ['s'] := by decide +kernel
  calc ExternalCrates.traceIntakeUrl site
      = "https://trace.agent." ++ site ++ "/api/v0.2/traces" := route.site site
    _ = String.ofList ("https://trace.agent." ++ site ++ "/api/v0.2/traces").toList :=
        String.ofList_toList.symm
    _ = String.ofList (("https://trace.agent." ++ site).toList ++ "/api/v0.2/traces".toList) :=
        congrArg String.ofList String.toList_append
    _ = String.ofList ("https://trace.agent.".toList ++ site.toList ++
          "/api/v0.2/traces".toList) :=
        congrArg (fun front => String.ofList (front ++ "/api/v0.2/traces".toList))
          String.toList_append
    _ = String.ofList ('h' :: traceFront ++ site.toList ++ (routeFront ++ ['s'])) := by
        rw [starts, ends]
    _ = String.ofList ('h' :: (traceFront ++ site.toList ++ routeFront) ++ ['s'] ++ []) := by
        simp only [List.cons_append, List.append_assoc, List.append_nil]

/-- The default address of the traces is taken for a prefix. -/
theorem apmUrlOf_again_ne (route : IntakeRoute) (site : String) :
    apmUrlOf site (apmUrlOf site "") ≠ apmUrlOf site "" := by
  have blank : (trim "").isEmpty = true := by decide
  have default : apmUrlOf site "" =
      String.ofList ('h' :: (traceFront ++ site.toList ++ routeFront) ++ ['s'] ++ []) := by
    rw [apmUrlOf, if_pos blank, traceIntakeUrl_eq route]
  have trimmed : trimUrl (apmUrlOf site "") = apmUrlOf site "" := by
    rw [default, trimUrl_around _ _ (by decide) (by decide) (by decide), List.rdropWhile_nil,
      List.rdropWhile_nil]
  have nonblank : (trim (apmUrlOf site "")).isEmpty ≠ true := by
    rw [default, trim_around _ _ (by decide) (by decide)]
    simp
  have again : apmUrlOf site (apmUrlOf site "") = apmUrlOf site "" ++ "/api/v0.2/traces" := by
    calc apmUrlOf site (apmUrlOf site "")
        = ExternalCrates.traceIntakeUrlPrefixed (trimUrl (apmUrlOf site "")) := if_neg nonblank
      _ = apmUrlOf site "" ++ "/api/v0.2/traces" := by rw [trimmed, route.prefixed]
  rw [again]
  intro same
  have lengths := congrArg String.length same
  rw [String.length_append] at lengths
  have path : "/api/v0.2/traces".length = 16 := by decide +kernel
  omega

end ServerlessComponents.AgentConfig
