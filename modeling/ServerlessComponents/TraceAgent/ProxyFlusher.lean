import Mathlib.Data.List.TakeWhile
import ServerlessComponents.AgentConfig.Value
import ServerlessComponents.Dogstatsd.Parse
import ServerlessComponents.Library.Tokens
import ServerlessComponents.Library.Utf8

/-!
# The proxy flusher

`create_request` of `proxy_flusher.rs`: the headers of a proxied request go on with its additional
tags merged with those of the function. The header maps and values of the HTTP library are
parameters.

## Main results

* `additionalTags_createRequest` — the one line of additional tags that is sent.
* `mem_sentTags_iff`, `nodup_sentTags` — the tags of this line.
-/
namespace ServerlessComponents.TraceAgent.Proxy

open AgentConfig (isWhitespace split trim toLowercase)
open Dogstatsd (exists_of_bind_eq_ok)

/-! ## Headers -/

/-- A header map has any number of lines under a name, in order, and names are compared without
regard to case. `get` is the first line, and `insert` replaces all of them. -/
class HeaderMap (M : Type) (V : outParam Type) where
  getAll : M → String → List V
  insert : M → String → V → M
  remove : M → String → M
  getAll_insert (headers : M) (name other : String) (value : V) :
    getAll (insert headers name value) other =
      if toLowercase other = toLowercase name then [value] else getAll headers other
  getAll_remove (headers : M) (name other : String) :
    getAll (remove headers name) other =
      if toLowercase other = toLowercase name then [] else getAll headers other

/-- A value is made of bytes. Not every text can be one, and not every value has a text. -/
class HeaderValue (V : Type) where
  asBytes : V → List UInt8
  toStr : V → Except String String
  parse : String → Except String V
  asBytes_of_toStr {value : V} {s : String} :
    toStr value = .ok s → asBytes value = Utf8.encode s.toList
  asBytes_of_parse {s : String} {value : V} :
    parse s = .ok value → asBytes value = Utf8.encode s.toList

open HeaderMap (getAll)

def DD_ADDITIONAL_TAGS_HEADER : String := "X-Datadog-Additional-Tags"

/-! ## Requests and configuration -/

inductive EnvironmentType where
  | azureFunction
  | azureSpringApp
  | cloudFunction
  | lambdaFunction
  deriving DecidableEq, Repr

def getDdOrigin : EnvironmentType → String
  | .azureFunction => "azurefunction"
  | .cloudFunction => "cloudrun"
  | _ => "unknown"

inductive ProxyRequestKind where
  | dataStreams
  | profiling
  deriving DecidableEq, Repr

def ProxyRequestKind.name : ProxyRequestKind → String
  | .dataStreams => "data streams"
  | .profiling => "profiling"

structure ProxyRequest (M : Type) where
  headers : M
  body : List UInt8
  targetUrl : String
  kind : ProxyRequestKind

structure Endpoint where
  url : String
  apiKey : Option String

structure Config where
  appName : Option String
  envType : EnvironmentType
  /-- `tags.function_tags()`. -/
  functionTags : Option String
  dsmIntake : Endpoint
  profilingIntake : Endpoint
  proxyRequestTimeoutSecs : UInt64

structure RequestBuilder (M : Type) where
  url : String
  headers : M
  timeoutSecs : UInt64
  body : List UInt8

def ProxyRequestKind.intakeUrl (config : Config) : ProxyRequestKind → String
  | .dataStreams => config.dsmIntake.url
  | .profiling => config.profilingIntake.url

variable {M V : Type} [HeaderMap M V] [HeaderValue V] (config : Config)

def apiKeyForKind : ProxyRequestKind → Option String
  | .dataStreams => config.dsmIntake.apiKey
  | .profiling => config.profilingIntake.apiKey

/-! ## Additional tags -/

def parseAdditionalTags (tagString : String) : List String :=
  ((split (fun c => c = ',' || c = ';') tagString).map trim).filter (! ·.isEmpty)

def pushUniqueTag (tags : List String) (tag : String) : List String :=
  if tags.contains tag then tags else tags ++ [tag]

/-- Only the first line of the incoming tags is looked at. -/
def existingTags (headers : M) : Except String (List String) :=
  match (getAll headers DD_ADDITIONAL_TAGS_HEADER).head? with
  | none => .ok []
  | some existingTags =>
    match HeaderValue.toStr existingTags with
    | .ok existingTags => .ok (parseAdditionalTags existingTags)
    | .error e => .error s!"Failed to parse existing additional tags header: {e}"

def mergedAdditionalTags (headers : M) : Except String (List String) := do
  let tags := (← existingTags headers).foldl pushUniqueTag []
  match config.functionTags with
  | some functionTags => return (parseAdditionalTags functionTags).foldl pushUniqueTag tags
  | none => return tags

def functionNameTag : String := "functionname:" ++ config.appName.getD ""

def originTag : String := "_dd.origin:" ++ getDdOrigin config.envType

/-- The tags that are sent on, for the incoming headers. -/
def sentTags (headers : M) : Except String (List String) := do
  let additionalTags ← mergedAdditionalTags config headers
  return pushUniqueTag (pushUniqueTag additionalTags (functionNameTag config)) (originTag config)

def requireApiKey (kind : ProxyRequestKind) : Except String String :=
  match apiKeyForKind config kind with
  | some apiKey => .ok apiKey
  | none => .error s!"No API key configured for {kind.name}"

def insertTags (headers : M) (additionalTags : List String) : Except String M :=
  if additionalTags.isEmpty then .ok headers
  else
    match HeaderValue.parse (",".intercalate additionalTags) with
    | .ok parsedTags => .ok (HeaderMap.insert headers DD_ADDITIONAL_TAGS_HEADER parsedTags)
    | .error e => .error s!"Failed to parse additional tags header: {e}"

def insertApiKey (headers : M) (apiKey : String) : Except String M :=
  match HeaderValue.parse apiKey with
  | .ok parsedKey => .ok (HeaderMap.insert headers "DD-API-KEY" parsedKey)
  | .error e => .error s!"Failed to parse API key: {e}"

def createRequest (request : ProxyRequest M) : Except String (RequestBuilder M) := do
  let apiKey ← requireApiKey config request.kind
  let headers := HeaderMap.remove (HeaderMap.remove request.headers "host") "content-length"
  let additionalTags ← sentTags config headers
  let headers ← insertTags headers additionalTags
  let headers ← insertApiKey headers apiKey
  return ⟨request.targetUrl, headers, config.proxyRequestTimeoutSecs, request.body⟩

/-! ## Tags of texts and lines -/

theorem trim_sublist (s : String) : (trim s).toList.Sublist s.toList := by
  rw [trim, AgentConfig.trimEndMatches, String.toList_ofList, String.toList_ofList]
  refine List.Sublist.trans ?_ (List.dropWhile_sublist isWhitespace)
  rw [← List.reverse_sublist, List.reverse_reverse]
  exact List.dropWhile_sublist _

theorem comma_not_mem_of_mem_parse {s tag : String} (mem : tag ∈ parseAdditionalTags s) :
    ',' ∉ tag.toList := by
  obtain ⟨trimmed, -⟩ := List.mem_filter.1 mem
  obtain ⟨piece, cut, rfl⟩ := List.mem_map.1 trimmed
  obtain ⟨chars, part, rfl⟩ := List.mem_map.1 cut
  intro comma
  have inside := (trim_sublist _).mem comma
  rw [String.toList_ofList] at inside
  simpa using Tokens.not_sep_of_mem_splitOnP part ',' inside

theorem mem_pushUniqueTag {tags : List String} {tag other : String} :
    other ∈ pushUniqueTag tags tag ↔ other ∈ tags ∨ other = tag := by
  rw [pushUniqueTag]
  split
  · rename_i present
    constructor
    · exact .inl
    · rintro (old | rfl)
      · exact old
      · simpa using present
  · rw [List.mem_append, List.mem_singleton]

theorem nodup_pushUniqueTag {tags : List String} (nodup : tags.Nodup) (tag : String) :
    (pushUniqueTag tags tag).Nodup := by
  rw [pushUniqueTag]
  split
  · exact nodup
  · rename_i absent
    refine List.nodup_append.2 ⟨nodup, List.nodup_singleton tag, fun a old b new same => ?_⟩
    rw [List.mem_singleton.1 new] at same
    exact absent (by simpa using same ▸ old)

theorem mem_foldl_pushUniqueTag {tags new : List String} {tag : String} :
    tag ∈ new.foldl pushUniqueTag tags ↔ tag ∈ tags ∨ tag ∈ new := by
  induction new generalizing tags with
  | nil => simp
  | cons first rest ih => rw [List.foldl_cons, ih, mem_pushUniqueTag, List.mem_cons, or_assoc]

theorem nodup_foldl_pushUniqueTag {tags : List String} (nodup : tags.Nodup) (new : List String) :
    (new.foldl pushUniqueTag tags).Nodup := by
  induction new generalizing tags with
  | nil => exact nodup
  | cons first rest ih => exact ih (nodup_pushUniqueTag nodup first)

/-- The text of a value, if its bytes are one. -/
def valueText (value : V) : Option String := Utf8.decode (HeaderValue.asBytes value)

/-- The tags of a line of incoming tags. -/
def lineTags (value : V) : List String := ((valueText value).map parseAdditionalTags).getD []

/-- The tags of the function. -/
def configuredTags : List String := (config.functionTags.map parseAdditionalTags).getD []

theorem valueText_of_toStr {value : V} {s : String} (eq : HeaderValue.toStr value = .ok s) :
    valueText value = some s := by
  rw [valueText, HeaderValue.asBytes_of_toStr eq, Utf8.decode_encode, String.ofList_toList]

theorem valueText_of_parse {value : V} {s : String} (eq : HeaderValue.parse s = .ok value) :
    valueText value = some s := by
  rw [valueText, HeaderValue.asBytes_of_parse eq, Utf8.decode_encode, String.ofList_toList]

/-! ## What is sent -/

variable {config} {headers : M} {tags : List String}

/-- The tags of the first line only. -/
def firstLineTags (headers : M) : List String :=
  match (getAll headers DD_ADDITIONAL_TAGS_HEADER).head? with
  | some first => lineTags first
  | none => []

theorem existingTags_eq (existing : existingTags headers = .ok tags) :
    tags = firstLineTags headers := by
  rw [existingTags] at existing
  rw [firstLineTags]
  cases first : (getAll headers DD_ADDITIONAL_TAGS_HEADER).head? with
  | none =>
    rw [first] at existing
    cases existing
    rfl
  | some line =>
    rw [first] at existing
    dsimp only at existing ⊢
    cases eq : HeaderValue.toStr line with
    | ok text =>
      rw [eq] at existing
      cases existing
      rw [lineTags, valueText_of_toStr eq]
      rfl
    | error e =>
      rw [eq] at existing
      cases existing

theorem mergedAdditionalTags_eq (merged : mergedAdditionalTags config headers = .ok tags) :
    tags = (configuredTags config).foldl pushUniqueTag
      ((firstLineTags headers).foldl pushUniqueTag []) := by
  rw [mergedAdditionalTags] at merged
  cases existing : existingTags headers with
  | error e =>
    rw [existing] at merged
    cases merged
  | ok incoming =>
    rw [existing, existingTags_eq existing] at merged
    rw [configuredTags]
    cases functionTags : config.functionTags with
    | none =>
      rw [functionTags] at merged
      cases merged
      rfl
    | some text =>
      rw [functionTags] at merged
      cases merged
      rfl

theorem sentTags_eq (sent : sentTags config headers = .ok tags) :
    ∃ merged, mergedAdditionalTags config headers = .ok merged ∧
      tags = pushUniqueTag (pushUniqueTag merged (functionNameTag config)) (originTag config) := by
  obtain ⟨merged, ok, rest⟩ := exists_of_bind_eq_ok sent
  cases rest
  exact ⟨merged, ok, rfl⟩

theorem mem_sentTags_iff (sent : sentTags config headers = .ok tags) {tag : String} :
    tag ∈ tags ↔ tag ∈ firstLineTags headers ∨ tag ∈ configuredTags config ∨
      tag = functionNameTag config ∨ tag = originTag config := by
  obtain ⟨merged, merged_ok, rfl⟩ := sentTags_eq sent
  rw [mem_pushUniqueTag, mem_pushUniqueTag, mergedAdditionalTags_eq merged_ok,
    mem_foldl_pushUniqueTag, mem_foldl_pushUniqueTag]
  simp [or_assoc]

theorem nodup_sentTags (sent : sentTags config headers = .ok tags) : tags.Nodup := by
  obtain ⟨merged, merged_ok, rfl⟩ := sentTags_eq sent
  rw [mergedAdditionalTags_eq merged_ok]
  exact nodup_pushUniqueTag (nodup_pushUniqueTag (nodup_foldl_pushUniqueTag
    (nodup_foldl_pushUniqueTag List.nodup_nil _) _) _) _

omit [HeaderValue V] in
/-- The headers that are taken out leave the tags alone. -/
theorem getAll_request_headers (headers : M) :
    getAll (HeaderMap.remove (HeaderMap.remove headers "host") "content-length")
      DD_ADDITIONAL_TAGS_HEADER = getAll headers DD_ADDITIONAL_TAGS_HEADER := by
  rw [HeaderMap.getAll_remove, if_neg (by decide), HeaderMap.getAll_remove, if_neg (by decide)]

theorem sentTags_ne_nil (sent : sentTags config headers = .ok tags) : tags ≠ [] := by
  intro empty
  have mem : originTag config ∈ tags := (mem_sentTags_iff sent).2 (.inr (.inr (.inr rfl)))
  rw [empty] at mem
  cases mem

theorem getAll_insertTags {merged : M} (inserted : insertTags headers tags = .ok merged)
    (nonempty : tags ≠ []) :
    ∃ value, getAll merged DD_ADDITIONAL_TAGS_HEADER = [value] ∧
      valueText value = some (",".intercalate tags) := by
  rw [insertTags, List.isEmpty_eq_false_iff.2 nonempty] at inserted
  cases parsed : HeaderValue.parse (V := V) (",".intercalate tags) with
  | error e =>
    rw [parsed] at inserted
    cases inserted
  | ok value =>
    rw [parsed] at inserted
    cases inserted
    exact ⟨value, by rw [HeaderMap.getAll_insert, if_pos rfl], valueText_of_parse parsed⟩

theorem getAll_insertApiKey {keyed : M} {apiKey : String}
    (inserted : insertApiKey headers apiKey = .ok keyed) :
    getAll keyed DD_ADDITIONAL_TAGS_HEADER = getAll headers DD_ADDITIONAL_TAGS_HEADER := by
  rw [insertApiKey] at inserted
  cases parsed : HeaderValue.parse (V := V) apiKey with
  | error e =>
    rw [parsed] at inserted
    cases inserted
  | ok value =>
    rw [parsed] at inserted
    cases inserted
    rw [HeaderMap.getAll_insert, if_neg (by decide)]

/-- The one line of additional tags that is sent. -/
theorem additionalTags_createRequest {request : ProxyRequest M} {builder : RequestBuilder M}
    (created : createRequest config request = .ok builder) :
    ∃ tags value, sentTags config
        (HeaderMap.remove (HeaderMap.remove request.headers "host") "content-length") = .ok tags ∧
      getAll builder.headers DD_ADDITIONAL_TAGS_HEADER = [value] ∧
      valueText value = some (",".intercalate tags) := by
  obtain ⟨apiKey, -, created⟩ := exists_of_bind_eq_ok created
  obtain ⟨tags, sent, created⟩ := exists_of_bind_eq_ok created
  obtain ⟨tagged, inserted, created⟩ := exists_of_bind_eq_ok created
  obtain ⟨keyed, key_inserted, created⟩ := exists_of_bind_eq_ok created
  cases created
  obtain ⟨value, line, text⟩ := getAll_insertTags inserted (sentTags_ne_nil sent)
  exact ⟨tags, value, sent, (getAll_insertApiKey key_inserted).trans line, text⟩

/-! ## The tags of all lines -/

/-- No separator and no blank. -/
def CleanName (name : String) : Prop :=
  ∀ c ∈ name.toList, c ≠ ',' ∧ c ≠ ';' ∧ isWhitespace c = false

/-- The text of the sent line, cut at its commas. -/
def sentLine (builder : RequestBuilder M) : Option (List String) :=
  match getAll builder.headers DD_ADDITIONAL_TAGS_HEADER with
  | [value] => (valueText value).map (split (· = ','))
  | _ => none

/-- The tags of all incoming lines. -/
def incomingTags (headers : M) : List String :=
  (getAll headers DD_ADDITIONAL_TAGS_HEADER).flatMap lineTags

theorem comma_not_mem_of_mem_sentTags (clean : CleanName (config.appName.getD ""))
    (sent : sentTags config headers = .ok tags) : ∀ tag ∈ tags, ',' ∉ tag.toList := by
  intro tag mem
  rcases (mem_sentTags_iff sent).1 mem with first | configured | rfl | rfl
  · rw [firstLineTags] at first
    split at first
    · rw [lineTags] at first
      cases text : valueText ‹V› with
      | none => simp [text] at first
      | some text =>
        rw [‹valueText _ = _›] at first
        exact comma_not_mem_of_mem_parse first
    · cases first
  · rw [configuredTags] at configured
    cases text : config.functionTags with
    | none => simp [text] at configured
    | some text =>
      rw [‹config.functionTags = _›] at configured
      exact comma_not_mem_of_mem_parse configured
  · rw [functionNameTag]
    intro comma
    have name : ',' ∈ (config.appName.getD "").toList := by simpa using comma
    exact (clean _ name).1 rfl
  · rw [originTag]
    cases config.envType <;> decide

omit [HeaderMap M V] [HeaderValue V] in
theorem split_intercalate (nonempty : tags ≠ []) (clean : ∀ tag ∈ tags, ',' ∉ tag.toList) :
    split (· = ',') (",".intercalate tags) = tags := by
  have pieces : (",".intercalate tags).toList.splitOn ',' = tags.map String.toList := by
    have comma : ",".toList = [','] := rfl
    rw [String.toList_intercalate, comma, List.splitOn_intercalate]
    · intro piece mem
      obtain ⟨tag, listed, rfl⟩ := List.mem_map.1 mem
      exact clean tag listed
    · simpa using nonempty
  have cut : split (· = ',') (",".intercalate tags) =
      ((",".intercalate tags).toList.splitOn ',').map String.ofList := rfl
  rw [cut, pieces, List.map_map]
  exact (List.map_congr_left fun tag _ => String.ofList_toList).trans (List.map_id _)

theorem sentLine_createRequest {request : ProxyRequest M} {builder : RequestBuilder M}
    (clean : CleanName (config.appName.getD ""))
    (created : createRequest config request = .ok builder) :
    ∃ tags, sentLine builder = some tags ∧ tags.Nodup ∧
      ∀ tag, tag ∈ tags ↔ tag ∈ firstLineTags request.headers ∨ tag ∈ configuredTags config ∨
        tag = functionNameTag config ∨ tag = originTag config := by
  obtain ⟨tags, value, sent, line, text⟩ := additionalTags_createRequest created
  refine ⟨tags, ?_, nodup_sentTags sent, fun tag => ?_⟩
  · rw [sentLine, line]
    dsimp only
    rw [text, Option.map_some, split_intercalate (sentTags_ne_nil sent)
      (comma_not_mem_of_mem_sentTags clean sent)]
  · rw [mem_sentTags_iff sent, firstLineTags, firstLineTags, getAll_request_headers]

theorem mem_incomingTags_iff {tag : String} :
    tag ∈ incomingTags headers ↔ tag ∈ firstLineTags headers ∨
      ∃ line ∈ (getAll headers DD_ADDITIONAL_TAGS_HEADER).tail, tag ∈ lineTags line := by
  rw [incomingTags, firstLineTags]
  cases getAll headers DD_ADDITIONAL_TAGS_HEADER with
  | nil => simp
  | cons first rest => simp

/-- The line that is sent has all incoming tags exactly if the later lines add nothing to it. -/
theorem sent_tags_iff {request : ProxyRequest M} {builder : RequestBuilder M}
    (clean : CleanName (config.appName.getD ""))
    (created : createRequest config request = .ok builder) :
    (∃ tags, sentLine builder = some tags ∧ tags.Nodup ∧
      ∀ tag, tag ∈ tags ↔ tag ∈ incomingTags request.headers ∨ tag ∈ configuredTags config ∨
        tag = functionNameTag config ∨ tag = originTag config) ↔
    ∀ line ∈ (getAll request.headers DD_ADDITIONAL_TAGS_HEADER).tail, ∀ tag ∈ lineTags line,
      tag ∈ firstLineTags request.headers ∨ tag ∈ configuredTags config ∨
        tag = functionNameTag config ∨ tag = originTag config := by
  obtain ⟨sent, sent_eq, nodup, mem_sent⟩ := sentLine_createRequest clean created
  constructor
  · rintro ⟨tags, tags_eq, -, mem_tags⟩ line later tag mem
    obtain rfl : sent = tags := Option.some.inj (sent_eq.symm.trans tags_eq)
    have incoming : tag ∈ incomingTags request.headers :=
      mem_incomingTags_iff.2 (.inr ⟨line, later, mem⟩)
    exact (mem_sent tag).1 ((mem_tags tag).2 (.inl incoming))
  · intro covered
    refine ⟨sent, sent_eq, nodup, fun tag => ?_⟩
    rw [mem_sent, mem_incomingTags_iff]
    constructor
    · rintro (first | other)
      · exact .inl (.inl first)
      · exact .inr other
    · rintro ((first | ⟨line, later, mem⟩) | other)
      · exact .inl first
      · exact covered line later tag mem
      · exact .inr other

/-! ## A map of lines -/

/-- The lines of a message, with their names. -/
structure Lines where
  lines : List (String × List UInt8)

namespace Lines

def values (headers : Lines) (name : String) : List (List UInt8) :=
  (headers.lines.filter fun line => toLowercase line.1 = toLowercase name).map (·.2)

def without (headers : Lines) (name : String) : Lines :=
  ⟨headers.lines.filter fun line => toLowercase line.1 ≠ toLowercase name⟩

theorem values_without (headers : Lines) (name other : String) :
    (headers.without name).values other =
      if toLowercase other = toLowercase name then [] else headers.values other := by
  rw [without, values, List.filter_filter]
  split
  · rename_i same
    rw [List.map_eq_nil_iff, List.filter_eq_nil_iff]
    intro line _
    simp [same]
  · rename_i differ
    rw [values]
    refine congrArg (List.map _) (List.filter_congr fun line _ => ?_)
    by_cases this : toLowercase line.1 = toLowercase other <;> simp [this, differ]

instance : HeaderMap Lines (List UInt8) where
  getAll := values
  insert headers name value := ⟨(headers.without name).lines ++ [(name, value)]⟩
  remove := without
  getAll_insert headers name other value := by
    have others := values_without headers name other
    rw [values] at others
    rw [values, List.filter_append, List.map_append, others]
    split
    · rename_i same
      simp [same]
    · rename_i differ
      simp [Ne.symm differ]
  getAll_remove := values_without

end Lines

/-- A text has visible ASCII characters and tabs, a value has no control characters but tabs. -/
instance : HeaderValue (List UInt8) where
  asBytes bytes := bytes
  toStr bytes :=
    if bytes.all fun b => (32 ≤ b && b < 127) || b = 9 then
      match Utf8.decode bytes with
      | some s => .ok s
      | none => .error "failed to convert header to a str"
    else .error "failed to convert header to a str"
  parse s :=
    if (Utf8.encode s.toList).all fun b => (32 ≤ b && b ≠ 127) || b = 9 then
      .ok (Utf8.encode s.toList)
    else .error "failed to parse header value"
  asBytes_of_toStr {bytes s} eq := by
    split at eq
    · cases decoded : Utf8.decode bytes with
      | none => simp [decoded] at eq
      | some text =>
        rw [decoded] at eq
        cases eq
        exact (Utf8.decode_eq_some_iff.1 decoded).symm
    · cases eq
  asBytes_of_parse {s value} eq := by
    split at eq
    · cases eq
      rfl
    · cases eq

/-- Two lines of incoming tags. -/
def twoLines : Lines :=
  ⟨[("x-datadog-additional-tags", Utf8.encode "host:worker-1".toList),
    ("x-datadog-additional-tags", Utf8.encode "default_env:prod".toList)]⟩

def twoLinesRequest : ProxyRequest Lines := ⟨twoLines, [], "https://trace.agent.site", .dataStreams⟩

def functionConfig : Config where
  appName := some "test-app"
  envType := .azureFunction
  functionTags := some "env:test"
  dsmIntake := ⟨"https://trace.agent.site", some "key"⟩
  profilingIntake := ⟨"https://intake.profile.site", some "key"⟩
  proxyRequestTimeoutSecs := 30

theorem functionConfig_clean : CleanName (functionConfig.appName.getD "") := by
  have clean : "test-app".toList.all (fun c => c != ',' && c != ';' && !isWhitespace c) = true := by
    decide
  intro c mem
  simpa [and_assoc] using List.all_eq_true.1 clean c mem

theorem twoLinesRequest_created :
    ∃ builder, createRequest functionConfig twoLinesRequest = .ok builder := by
  have ok : (createRequest functionConfig twoLinesRequest).toOption.isSome := by decide +kernel
  cases created : createRequest functionConfig twoLinesRequest with
  | ok builder => exact ⟨builder, rfl⟩
  | error e =>
    rw [created] at ok
    cases ok

/-- The tags of the second line are lost. -/
theorem second_line_lost :
    ¬ ∀ (config : Config) (request : ProxyRequest Lines) (builder : RequestBuilder Lines),
      CleanName (config.appName.getD "") → createRequest config request = .ok builder →
      ∃ tags, sentLine builder = some tags ∧ tags.Nodup ∧
        ∀ tag, tag ∈ tags ↔ tag ∈ incomingTags request.headers ∨ tag ∈ configuredTags config ∨
          tag = functionNameTag config ∨ tag = originTag config := by
  intro complete
  obtain ⟨builder, created⟩ := twoLinesRequest_created
  obtain ⟨tags, tags_eq, -, mem_tags⟩ := complete _ _ builder functionConfig_clean created
  obtain ⟨sent, sent_eq, -, mem_sent⟩ := sentLine_createRequest functionConfig_clean created
  obtain rfl : sent = tags := Option.some.inj (sent_eq.symm.trans tags_eq)
  have incoming : "default_env:prod" ∈ incomingTags twoLinesRequest.headers := by decide +kernel
  have missing : ¬ ("default_env:prod" ∈ firstLineTags twoLinesRequest.headers ∨
      "default_env:prod" ∈ configuredTags functionConfig ∨
      "default_env:prod" = functionNameTag functionConfig ∨
      "default_env:prod" = originTag functionConfig) := by decide +kernel
  exact missing ((mem_sent _).1 ((mem_tags _).2 (.inl incoming)))

theorem sent_tags_iff_twoLines :
    ∃ builder, createRequest functionConfig twoLinesRequest = .ok builder ∧
      ((∃ tags, sentLine builder = some tags ∧ tags.Nodup ∧
        ∀ tag, tag ∈ tags ↔ tag ∈ incomingTags twoLinesRequest.headers ∨
          tag ∈ configuredTags functionConfig ∨ tag = functionNameTag functionConfig ∨
          tag = originTag functionConfig) ↔
      ∀ line ∈ (getAll twoLinesRequest.headers DD_ADDITIONAL_TAGS_HEADER).tail,
        ∀ tag ∈ lineTags line, tag ∈ firstLineTags twoLinesRequest.headers ∨
          tag ∈ configuredTags functionConfig ∨ tag = functionNameTag functionConfig ∨
          tag = originTag functionConfig) := by
  obtain ⟨builder, created⟩ := twoLinesRequest_created
  exact ⟨builder, created, sent_tags_iff functionConfig_clean created⟩

end ServerlessComponents.TraceAgent.Proxy
