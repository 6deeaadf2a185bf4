import ServerlessComponents.AgentConfig.Deserializers

/-!
# What a value sets

A value either sets a field or leaves it to the layer below. The functions of `Setting` say which
values are well formed for a field, and what they set, apart from how a deserializer encodes the
absence of a value: `none`, an empty collection or, for the log level, a level.

## Main results

* `Deserializer.run_ok_iff` — the values a deserializer does not fail on.
* `Deserializer.setting_of_run` — away from the log level, what is decoded is what is set.
* `Deserializer.run_of_malformed` — what is decoded from a malformed value.
-/
namespace ServerlessComponents.AgentConfig

/-- A collection sets a field when it has an element. -/
def unlessEmpty {α : Type} (l : List α) : Option (List α) := if l.isEmpty then none else some l

def unlessEmptyMap {α : Type} (m : HashMap α) : Option (HashMap α) :=
  if m.entries.isEmpty then none else some m

/-- What a reader of serde accepts, null aside. -/
def accepted {α : Type} (d : Value → Except Error α) : Value → Option α
  | .null => none
  | v => (d v).toOption

theorem deserializeOptionLossless_eq {α : Type} (d : Value → Except Error α) (v : Value) :
    deserializeOptionLossless d v = .ok (accepted d v) := by
  cases v with
  | null => rfl
  | _ =>
    simp only [deserializeOptionLossless, deserializeOption, accepted]
    cases d _ <;> rfl

theorem deserializeWithDefault_option {α : Type} (d : Value → Except Error α) (v : Value) :
    deserializeWithDefault none (deserializeOption d) v = .ok (accepted d v) := by
  cases v with
  | null => rfl
  | _ =>
    simp only [deserializeWithDefault, deserializeOption, accepted]
    cases d _ <;> rfl

theorem deserializeWithDefault_eq {α : Type} (default : α) (d : Value → Except Error α)
    (v : Value) : deserializeWithDefault default d v = .ok ((d v).toOption.getD default) := by
  unfold deserializeWithDefault
  cases d v <;> rfl

theorem unlessEmpty_getD {α : Type} (o : Option (List α)) :
    unlessEmpty (o.getD []) = o.bind unlessEmpty := by
  cases o <;> rfl

theorem unlessEmptyMap_getD {α : Type} (o : Option (HashMap α)) :
    unlessEmptyMap (o.getD ∅) = o.bind unlessEmptyMap := by
  cases o <;> rfl

theorem unlessEmpty_eq_none_iff {α : Type} {l : List α} : unlessEmpty l = none ↔ l = [] := by
  simp [unlessEmpty]

theorem unlessEmptyMap_eq_none_iff {α : Type} {m : HashMap α} :
    unlessEmptyMap m = none ↔ m = ∅ := by
  constructor
  · intro h
    refine AList.ext (List.isEmpty_iff.1 ?_)
    by_contra hne
    simp [unlessEmptyMap, hne] at h
  · rintro rfl
    rfl

/-! ## Well-formed values -/

namespace Setting

def string : Value → Option String := accepted deserializeString

def level : Value → Option LogLevel
  | .string s => LogLevel.fromStr s
  | _ => none

/-- The level decoded from a value, which is the default level when there is none in it. -/
def levelOrWarn : Value → Option LogLevel
  | .null => none
  | v => some ((level v).getD .warn)

/-- A collection read from text. -/
def list {α : Type} (parse : String → List α) : Value → Option (List α)
  | .string s => unlessEmpty (parse s)
  | _ => none

def map {α : Type} (parse : String → HashMap α) : Value → Option (HashMap α)
  | .string s => unlessEmptyMap (parse s)
  | _ => none

/-- A sequence, if every element of it can be read. -/
def vec {α : Type} (d : Value → Except Error α) (v : Value) : Option (List α) :=
  (accepted (deserializeVec d) v).bind unlessEmpty

/-- A map, if every value of it can be read. -/
def hashMap {α : Type} (d : Value → Except Error α) (v : Value) : Option (HashMap α) :=
  (accepted (deserializeHashMap d) v).bind unlessEmptyMap

/-- The well-formed tags of a sequence of strings. -/
def tagArray (v : Value) : Option (HashMap String) :=
  (accepted (deserializeVec deserializeString) v).bind fun array =>
    unlessEmptyMap (array.foldl insertTag ∅)

def features : Value → Option (List String)
  | .array items => (items.mapM Value.asStr).bind unlessEmpty
  | .string s => unlessEmpty (splitCommaThenSpace s)
  | _ => none

def filterTags : Value → Option (List String)
  | .string s => if (trim s).isEmpty then none else unlessEmpty (parseFilterTags s)
  | _ => none

variable [ExternalCrates]

def text : Value → Option String
  | .string s => if (trim s).isEmpty then none else some s
  | .num n => n.text
  | _ => none

def bool : Value → Option Bool
  | .null => none
  | v => ExternalCrates.boolFromAnything v

def endpoints : Value → Option (HashMap (List String))
  | .dict es => unlessEmptyMap (endpointsOfMap es)
  | .string s =>
    if s.isEmpty then none else (ExternalCrates.endpointsFromStr s).bind unlessEmptyMap
  | _ => none

def logsEndpoints : Value → Option (List LogsAdditionalEndpoint)
  | .string s =>
    if s.isEmpty then none else (ExternalCrates.logsEndpointsFromStr s).bind unlessEmpty
  | _ => none

def processingRules : Value → Option (List ProcessingRule)
  | .string s => ExternalCrates.processingRulesFromStr s
  | .array a => unlessEmpty (processingRulesOfArray a)
  | _ => none

def replaceRules (v : Value) : Option (List ReplaceRule) :=
  (visitReplaceRules v).toOption.bind ExternalCrates.parseRulesFromString

end Setting

/-! ## What is decoded sets what is well formed -/

theorem deserializeOptionalString_eq (v : Value) :
    deserializeOptionalString v = .ok (Setting.string v) := by
  cases v <;> rfl

theorem deserializeApmFilterTags_eq (s : String) :
    deserializeApmFilterTags (.string s) = .ok (Setting.filterTags (.string s)) := by
  simp only [deserializeApmFilterTags, deserializeOption, deserializeString, Except.map,
    Setting.filterTags, unlessEmpty]

theorem deserializeServiceMapping_eq (v : Value) :
    ∃ m, deserializeServiceMapping v = .ok m ∧
      unlessEmptyMap m = Setting.map parseServiceMappings v := by
  cases v <;> exact ⟨_, rfl, rfl⟩

theorem deserializeLogLevel_eq (v : Value) :
    deserializeWithDefault none (deserializeOption LogLevel.deserialize) v =
      .ok (Setting.levelOrWarn v) := by
  cases v <;> rfl

variable [ExternalCrates]

theorem deserializeStringOrInt_eq (v : Value) :
    deserializeStringOrInt v = .ok (Setting.text v) := by
  cases v <;> rfl

theorem deserializeOptionalBoolFromAnything_eq (v : Value) :
    deserializeOptionalBoolFromAnything v = .ok (Setting.bool v) := by
  cases v <;> rfl

theorem deserializeProcessingRules_eq (v : Value) :
    deserializeProcessingRules v = .ok (Setting.processingRules v) := by
  cases v <;> rfl

theorem deserializeApmReplaceRules_eq (v : Value) :
    deserializeApmReplaceRules v = .ok (Setting.replaceRules v) := by
  unfold deserializeApmReplaceRules Setting.replaceRules
  cases visitReplaceRules v <;> rfl

theorem deserializeAdditionalEndpoints_eq (v : Value) :
    ∃ m, deserializeAdditionalEndpoints v = .ok m ∧ unlessEmptyMap m = Setting.endpoints v := by
  cases v with
  | string s =>
    refine ⟨_, rfl, ?_⟩
    simp only [Setting.endpoints]
    split
    · rfl
    · exact unlessEmptyMap_getD _
  | _ => exact ⟨_, rfl, rfl⟩

theorem deserializeLogsAdditionalEndpoints_eq (v : Value) :
    ∃ l, deserializeLogsAdditionalEndpoints v = .ok l ∧
      unlessEmpty l = Setting.logsEndpoints v := by
  cases v with
  | string s =>
    refine ⟨_, rfl, ?_⟩
    simp only [Setting.logsEndpoints]
    split
    · rfl
    · exact unlessEmpty_getD _
  | _ => exact ⟨_, rfl, rfl⟩

theorem deserializeTracePropagationStyle_eq (v : Value) :
    ∃ l, deserializeTracePropagationStyle v = .ok l ∧
      unlessEmpty l = Setting.list parseStyles v := by
  cases v <;> exact ⟨_, rfl, rfl⟩

/-! ## Deserializers by name -/

/-- The functions a field of the environment names in its attribute, with their type argument. -/
inductive Deserializer where
  | optionalString
  | stringOrInt
  | optionalBoolFromAnything
  | optionLosslessU64
  | optionLosslessI32
  | optionLosslessUsize
  | withDefaultLogLevel
  | keyValuePairs
  | arrayFromCommaSeparatedString
  | commaThenSpaceSeparatedString
  | apmFilterTags
  | additionalEndpoints
  | logsAdditionalEndpoints
  | processingRules
  | serviceMapping
  | apmReplaceRules
  | tracePropagationStyle
  deriving DecidableEq, Repr

namespace Deserializer

/-- The type of what is set. -/
@[reducible]
def Val : Deserializer → Type
  | optionalString | stringOrInt => String
  | optionalBoolFromAnything => Bool
  | optionLosslessU64 | optionLosslessUsize => UInt64
  | optionLosslessI32 => Int32
  | withDefaultLogLevel => LogLevel
  | keyValuePairs | serviceMapping => HashMap String
  | arrayFromCommaSeparatedString | commaThenSpaceSeparatedString | apmFilterTags => List String
  | additionalEndpoints => HashMap (List String)
  | logsAdditionalEndpoints => List LogsAdditionalEndpoint
  | processingRules => List ProcessingRule
  | apmReplaceRules => List ReplaceRule
  | tracePropagationStyle => List TracePropagationStyle

/-- The type of the field. -/
@[reducible]
def Out : Deserializer → Type
  | keyValuePairs | serviceMapping => HashMap String
  | additionalEndpoints => HashMap (List String)
  | arrayFromCommaSeparatedString | commaThenSpaceSeparatedString => List String
  | logsAdditionalEndpoints => List LogsAdditionalEndpoint
  | tracePropagationStyle => List TracePropagationStyle
  | k => Option k.Val

/-- The default of the type. -/
def absent : ∀ k : Deserializer, k.Out
  | keyValuePairs | serviceMapping | additionalEndpoints => (∅ : HashMap _)
  | arrayFromCommaSeparatedString | commaThenSpaceSeparatedString | logsAdditionalEndpoints
  | tracePropagationStyle => []
  | optionalString | stringOrInt | optionalBoolFromAnything | optionLosslessU64
  | optionLosslessI32 | optionLosslessUsize | withDefaultLogLevel | apmFilterTags
  | processingRules | apmReplaceRules => none

def run : ∀ k : Deserializer, Value → Except Error k.Out
  | optionalString => deserializeOptionalString
  | stringOrInt => deserializeStringOrInt
  | optionalBoolFromAnything => deserializeOptionalBoolFromAnything
  | optionLosslessU64 => deserializeOptionLossless deserializeU64
  | optionLosslessI32 => deserializeOptionLossless deserializeI32
  | optionLosslessUsize => deserializeOptionLossless deserializeUsize
  | withDefaultLogLevel => deserializeWithDefault none (deserializeOption LogLevel.deserialize)
  | keyValuePairs => deserializeKeyValuePairs
  | arrayFromCommaSeparatedString => deserializeArrayFromCommaSeparatedString
  | commaThenSpaceSeparatedString => deserializeCommaThenSpaceSeparatedString
  | apmFilterTags => deserializeApmFilterTags
  | additionalEndpoints => deserializeAdditionalEndpoints
  | logsAdditionalEndpoints => deserializeLogsAdditionalEndpoints
  | processingRules => deserializeProcessingRules
  | serviceMapping => deserializeServiceMapping
  | apmReplaceRules => deserializeApmReplaceRules
  | tracePropagationStyle => deserializeTracePropagationStyle

/-- What a value sets, `none` when it is malformed. -/
def valid : ∀ k : Deserializer, Value → Option k.Val
  | optionalString => Setting.string
  | stringOrInt => Setting.text
  | optionalBoolFromAnything => Setting.bool
  | optionLosslessU64 => accepted deserializeU64
  | optionLosslessI32 => accepted deserializeI32
  | optionLosslessUsize => accepted deserializeUsize
  | withDefaultLogLevel => Setting.level
  | keyValuePairs => Setting.map parseKeyValuePairs
  | arrayFromCommaSeparatedString => Setting.list splitComma
  | commaThenSpaceSeparatedString => Setting.list splitCommaThenSpace
  | apmFilterTags => Setting.filterTags
  | additionalEndpoints => Setting.endpoints
  | logsAdditionalEndpoints => Setting.logsEndpoints
  | processingRules => Setting.processingRules
  | serviceMapping => Setting.map parseServiceMappings
  | apmReplaceRules => Setting.replaceRules
  | tracePropagationStyle => Setting.list parseStyles

/-- What a decoded field sets. -/
def setting : ∀ k : Deserializer, k.Out → Option k.Val
  | keyValuePairs | serviceMapping | additionalEndpoints => unlessEmptyMap
  | arrayFromCommaSeparatedString | commaThenSpaceSeparatedString | logsAdditionalEndpoints
  | tracePropagationStyle => unlessEmpty
  | optionalString | stringOrInt | optionalBoolFromAnything | optionLosslessU64
  | optionLosslessI32 | optionLosslessUsize | withDefaultLogLevel | apmFilterTags
  | processingRules | apmReplaceRules => id

/-- What a malformed value falls back to: the value of an absent one or, for the log level, the
default level. -/
def fallback : ∀ k : Deserializer, k.Out
  | withDefaultLogLevel => some LogLevel.warn
  | k => k.absent

/-- The values a deserializer was written for. Those that read text directly fail on the rest. -/
def Anticipates : Deserializer → Value → Prop
  | arrayFromCommaSeparatedString, v | commaThenSpaceSeparatedString, v => ∃ s, v = .string s
  | apmFilterTags, v => v = .null ∨ ∃ s, v = .string s
  | keyValuePairs, v => v ≠ .null ∧ (∀ vs, v ≠ .array vs) ∧ ∀ es, v ≠ .dict es
  | _, _ => True

theorem run_ok_iff (k : Deserializer) (v : Value) :
    (∃ x, k.run v = .ok x) ↔ k.Anticipates v := by
  cases k with
  | optionalString => simp [run, deserializeOptionalString_eq, Anticipates]
  | stringOrInt => simp [run, deserializeStringOrInt_eq, Anticipates]
  | optionalBoolFromAnything => simp [run, deserializeOptionalBoolFromAnything_eq, Anticipates]
  | optionLosslessU64 | optionLosslessI32 | optionLosslessUsize =>
    simp [run, deserializeOptionLossless_eq, Anticipates]
  | withDefaultLogLevel => simp [run, deserializeLogLevel_eq, Anticipates]
  | processingRules => simp [run, deserializeProcessingRules_eq, Anticipates]
  | apmReplaceRules => simp [run, deserializeApmReplaceRules_eq, Anticipates]
  | additionalEndpoints =>
    obtain ⟨m, hm, -⟩ := deserializeAdditionalEndpoints_eq v
    exact ⟨fun _ => trivial, fun _ => ⟨m, hm⟩⟩
  | logsAdditionalEndpoints =>
    obtain ⟨l, hl, -⟩ := deserializeLogsAdditionalEndpoints_eq v
    exact ⟨fun _ => trivial, fun _ => ⟨l, hl⟩⟩
  | serviceMapping =>
    obtain ⟨m, hm, -⟩ := deserializeServiceMapping_eq v
    exact ⟨fun _ => trivial, fun _ => ⟨m, hm⟩⟩
  | tracePropagationStyle =>
    obtain ⟨l, hl, -⟩ := deserializeTracePropagationStyle_eq v
    exact ⟨fun _ => trivial, fun _ => ⟨l, hl⟩⟩
  | keyValuePairs => cases v <;> simp [run, deserializeKeyValuePairs, Anticipates]
  | arrayFromCommaSeparatedString =>
    cases v <;> simp [run, deserializeArrayFromCommaSeparatedString, deserializeString, Anticipates]
  | commaThenSpaceSeparatedString =>
    cases v <;> simp [run, deserializeCommaThenSpaceSeparatedString, deserializeString, Anticipates]
  | apmFilterTags =>
    cases v <;> simp [run, deserializeApmFilterTags, deserializeOption, deserializeString,
      Except.map, Anticipates]

/-- Away from the log level, what is decoded sets what the value sets. -/
theorem setting_of_run {k : Deserializer} {v : Value} {x : k.Out} (hk : k ≠ withDefaultLogLevel)
    (h : k.run v = .ok x) : k.setting x = k.valid v := by
  cases k with
  | optionalString => exact Except.ok.inj (h.symm.trans (deserializeOptionalString_eq v))
  | stringOrInt => exact Except.ok.inj (h.symm.trans (deserializeStringOrInt_eq v))
  | optionalBoolFromAnything =>
    exact Except.ok.inj (h.symm.trans (deserializeOptionalBoolFromAnything_eq v))
  | optionLosslessU64 | optionLosslessI32 | optionLosslessUsize =>
    exact Except.ok.inj (h.symm.trans (deserializeOptionLossless_eq _ v))
  | withDefaultLogLevel => exact absurd rfl hk
  | processingRules => exact Except.ok.inj (h.symm.trans (deserializeProcessingRules_eq v))
  | apmReplaceRules => exact Except.ok.inj (h.symm.trans (deserializeApmReplaceRules_eq v))
  | additionalEndpoints =>
    obtain ⟨m, hm, sets⟩ := deserializeAdditionalEndpoints_eq v
    exact Except.ok.inj (h.symm.trans hm) ▸ sets
  | logsAdditionalEndpoints =>
    obtain ⟨l, hl, sets⟩ := deserializeLogsAdditionalEndpoints_eq v
    exact Except.ok.inj (h.symm.trans hl) ▸ sets
  | serviceMapping =>
    obtain ⟨m, hm, sets⟩ := deserializeServiceMapping_eq v
    exact Except.ok.inj (h.symm.trans hm) ▸ sets
  | tracePropagationStyle =>
    obtain ⟨l, hl, sets⟩ := deserializeTracePropagationStyle_eq v
    exact Except.ok.inj (h.symm.trans hl) ▸ sets
  | keyValuePairs => cases v <;> cases h <;> rfl
  | arrayFromCommaSeparatedString | commaThenSpaceSeparatedString =>
    cases v with
    | string s =>
      cases h
      rfl
    | _ => cases h
  | apmFilterTags =>
    cases v with
    | string s => exact Except.ok.inj (h.symm.trans (deserializeApmFilterTags_eq s))
    | _ => cases h <;> rfl

theorem setting_eq_none_iff {k : Deserializer} {x : k.Out} :
    k.setting x = none ↔ x = k.absent := by
  cases k with
  | keyValuePairs | serviceMapping | additionalEndpoints => exact unlessEmptyMap_eq_none_iff
  | arrayFromCommaSeparatedString | commaThenSpaceSeparatedString | logsAdditionalEndpoints
  | tracePropagationStyle => exact unlessEmpty_eq_none_iff
  | _ => exact Iff.rfl

/-- A malformed value that is decoded is decoded to the fallback of its field. -/
theorem run_of_malformed {k : Deserializer} {v : Value} {x : k.Out} (hv : v ≠ .null)
    (malformed : k.valid v = none) (h : k.run v = .ok x) : x = k.fallback := by
  by_cases hk : k = withDefaultLogLevel
  · subst hk
    have decoded : x = Setting.levelOrWarn v :=
      Except.ok.inj (h.symm.trans (deserializeLogLevel_eq v))
    have warned : Setting.levelOrWarn v = some ((Setting.level v).getD .warn) := by
      cases v <;> first | rfl | exact absurd rfl hv
    rw [decoded, warned, show Setting.level v = none from malformed]
    rfl
  · have absent : x = k.absent :=
      setting_eq_none_iff.1 ((setting_of_run hk h).trans malformed)
    cases k <;> first | exact absent | exact absurd rfl hk

end Deserializer

end ServerlessComponents.AgentConfig
