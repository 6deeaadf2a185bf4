import ServerlessComponents.AgentConfig.Value

/-!
# Deserializers

The functions that decode the fields of the configuration. Each returns an error or a value; the
graceful ones turn what they cannot read into `none` or an empty collection.

The crates they call are the fields of `ExternalCrates`.
-/
namespace ServerlessComponents.AgentConfig

inductive LogLevel where
  | error
  | warn
  | info
  | debug
  | trace
  deriving DecidableEq, Repr

inductive Kind where
  | excludeAtMatch
  | includeAtMatch
  | maskSequences
  deriving DecidableEq, Repr

structure ProcessingRule where
  kind : Kind
  name : String
  pattern : String
  replacePlaceholder : Option String
  deriving DecidableEq, Repr

structure LogsAdditionalEndpoint where
  apiKey : String
  host : String
  port : UInt32
  isReliable : Bool
  deriving DecidableEq, Repr

structure ReplaceRuleYaml where
  name : String
  pattern : String
  repl : String
  deriving DecidableEq, Repr

/-- The functions and types of other crates. -/
class ExternalCrates where
  /-- The text of a finite float, given by its bits, and `none` for the others. -/
  f64ToString : UInt64 → Option String
  /-- `serde_aux`, `none` on an error. -/
  boolFromAnything : Value → Option Bool
  /-- `serde_json::from_str`, at the types it is used at. -/
  jsonFromStr : String → Option Value
  endpointsFromStr : String → Option (HashMap (List String))
  logsEndpointsFromStr : String → Option (List LogsAdditionalEndpoint)
  processingRulesFromStr : String → Option (List ProcessingRule)
  /-- `serde_json::to_string`. -/
  replaceRulesToString : List ReplaceRuleYaml → String
  ReplaceRule : Type
  parseRulesFromString : String → Option (List ReplaceRule)
  TracePropagationStyle : Type
  datadog : TracePropagationStyle
  traceContext : TracePropagationStyle
  styleFromStr : String → Option TracePropagationStyle
  traceIntakeUrl : String → String
  traceIntakeUrlPrefixed : String → String
  /-- The text of a figment error. -/
  displayError : Error → String

export ExternalCrates (ReplaceRule TracePropagationStyle)

/-! ## Readers of serde -/

def deserializeString : Value → Except Error String
  | .string s => .ok s
  | v => .error (invalidType v "a string")

def deserializeBool : Value → Except Error Bool
  | .bool b => .ok b
  | v => .error (invalidType v "a boolean")

/-- An integer of the machine type that has the given bounds. -/
def deserializeInt (lo hi : Int) (expected : String) : Value → Except Error Int
  | .num n =>
    match n.toInt? with
    | some i => if lo ≤ i ∧ i ≤ hi then .ok i else .error (invalidType (.num n) expected)
    | none => .error (invalidType (.num n) expected)
  | v => .error (invalidType v expected)

def deserializeU32 (v : Value) : Except Error UInt32 :=
  (deserializeInt 0 4294967295 "u32" v).map fun i => UInt32.ofNat i.toNat

def deserializeU64 (v : Value) : Except Error UInt64 :=
  (deserializeInt 0 18446744073709551615 "u64" v).map fun i => UInt64.ofNat i.toNat

/-- On a 64-bit target. -/
def deserializeUsize (v : Value) : Except Error UInt64 :=
  (deserializeInt 0 18446744073709551615 "usize" v).map fun i => UInt64.ofNat i.toNat

def deserializeI32 (v : Value) : Except Error Int32 :=
  (deserializeInt (-2147483648) 2147483647 "i32" v).map Int32.ofInt

def deserializeOption {α : Type} (d : Value → Except Error α) : Value → Except Error (Option α)
  | .null => .ok none
  | v => (d v).map some

def deserializeVec {α : Type} (d : Value → Except Error α) : Value → Except Error (List α)
  | .array vs => vs.mapM d
  | v => .error (invalidType v "a sequence")

def deserializeHashMap {α : Type} (d : Value → Except Error α) : Value → Except Error (HashMap α)
  | .dict es => es.foldlM (fun map e => (d e.2).map fun x => map.insert e.1 x) ∅
  | v => .error (invalidType v "a map")

/-- A struct takes a map, or a sequence with its fields in order. -/
def checkStruct (expected : String) : Value → Except Error Unit
  | .dict _ => .ok ()
  | .array _ => .ok ()
  | v => .error (invalidType v expected)

def requiredField {α : Type} (v : Value) (i : Nat) (name : String) (d : Value → Except Error α) :
    Except Error α :=
  match v.member i name with
  | some x => (d x).mapError (·.under name)
  | none => .error ⟨[], .missingField name⟩

def defaultField {α : Type} (v : Value) (i : Nat) (name : String) (default : α)
    (d : Value → Except Error α) : Except Error α :=
  match v.member i name with
  | some x => (d x).mapError (·.under name)
  | none => .ok default

/-! ## Deserializers of `helpers.rs` -/

section

variable [ExternalCrates]

def Num.text : Num → Option String
  | .u64 n => some (toString n.toNat)
  | .i64 n => some (toString n.toInt)
  | .f64 bits => ExternalCrates.f64ToString bits

def deserializeOptionalString : Value → Except Error (Option String)
  | .string s => .ok (some s)
  | _ => .ok none

def deserializeStringOrInt : Value → Except Error (Option String)
  | .string s => .ok (if (trim s).isEmpty then none else some s)
  | .num n => .ok n.text
  | _ => .ok none

def deserializeOptionalBoolFromAnything : Value → Except Error (Option Bool)
  | .null => .ok none
  | v => .ok (ExternalCrates.boolFromAnything v)

def parseKeyValueTag (tag : String) : Option (String × String) :=
  match splitOnce ':' tag with
  | (key, some val) => if !key.isEmpty && !val.isEmpty then some (key, val) else none
  | (_, none) => none

/-- Insert a tag, unless it is malformed. -/
def insertTag (map : HashMap String) (tag : String) : HashMap String :=
  match parseKeyValueTag tag with
  | some (key, val) => map.insert key val
  | none => map

def parseKeyValuePairs (s : String) : HashMap String :=
  ((split (fun c => c = ',' || c = ' ') s).filter (! ·.isEmpty)).foldl insertTag ∅

/-- Only text and scalars are visited: a sequence or a map is an error. -/
def deserializeKeyValuePairs : Value → Except Error (HashMap String)
  | .string s => .ok (parseKeyValuePairs s)
  | .num _ => .ok ∅
  | .bool _ => .ok ∅
  | v => .error (invalidType v "a string in format 'key1:value1,key2:value2' or 'key1:value1'")

/-- Trim the parts and drop the empty ones. -/
def trimmedParts (parts : List String) : List String :=
  (parts.map trim).filter (! ·.isEmpty)

def splitComma (s : String) : List String := trimmedParts (split (· = ',') s)

def deserializeArrayFromCommaSeparatedString (v : Value) : Except Error (List String) := do
  let s ← deserializeString v
  return splitComma s

def splitCommaThenSpace (s : String) : List String :=
  if s.toList.contains ',' then splitComma s else trimmedParts (split (· = ' ') s)

def deserializeCommaThenSpaceSeparatedString (v : Value) : Except Error (List String) := do
  let s ← deserializeString v
  return splitCommaThenSpace s

/-- One element that is not a string drops the whole list. -/
def deserializeCommaThenSpaceSeparatedStringOrList : Value → Except Error (List String)
  | .array items => .ok ((items.mapM Value.asStr).getD [])
  | .string s => .ok (splitCommaThenSpace s)
  | _ => .ok []

def deserializeKeyValuePairArrayToHashmap (v : Value) : Except Error (HashMap String) :=
  match deserializeVec deserializeString v with
  | .ok array => .ok (array.foldl insertTag ∅)
  | .error _ => .ok ∅

/-- A tag with a key, and a value if it has one. -/
def parseFilterTag (pair : String) : Option String :=
  match splitOnce ':' pair with
  | (key, some value) =>
    if (trim key).isEmpty then none
    else if (trim value).isEmpty then some (trim key)
    else some (trim key ++ ":" ++ trim value)
  | (key, none) => if (trim key).isEmpty then none else some (trim key)

def parseFilterTags (s : String) : List String := (splitWhitespace s).filterMap parseFilterTag

def deserializeApmFilterTags (v : Value) : Except Error (Option (List String)) :=
  match deserializeOption deserializeString v with
  | .error e => .error e
  | .ok none => .ok none
  | .ok (some s) =>
    .ok (if (trim s).isEmpty then none
      else if (parseFilterTags s).isEmpty then none
      else some (parseFilterTags s))

def deserializeOptionLossless {α : Type} (d : Value → Except Error α) (v : Value) :
    Except Error (Option α) :=
  match deserializeOption d v with
  | .ok value => .ok value
  | .error _ => .ok none

def deserializeWithDefault {α : Type} (default : α) (d : Value → Except Error α) (v : Value) :
    Except Error α :=
  match d v with
  | .ok value => .ok value
  | .error _ => .ok default

def parseStyles (s : String) : List TracePropagationStyle :=
  (split (· = ',') s).filterMap fun style => ExternalCrates.styleFromStr (trim style)

def deserializeTracePropagationStyle (v : Value) : Except Error (List TracePropagationStyle) :=
  match deserializeString v with
  | .error _ => .ok []
  | .ok s => .ok (parseStyles s)

/-! ## The other deserializers -/

/-- The names are ASCII, so lowering ASCII letters decides the comparison. -/
def LogLevel.fromStr (s : String) : Option LogLevel :=
  match toLowercase s with
  | "error" => some .error
  | "warn" => some .warn
  | "info" => some .info
  | "debug" => some .debug
  | "trace" => some .trace
  | _ => none

/-- What is not a level reads as `warn`. -/
def LogLevel.deserialize : Value → Except Error LogLevel
  | .string s => .ok ((LogLevel.fromStr s).getD .warn)
  | _ => .ok .warn

/-- The arrays of a map, with the strings among their elements. -/
def endpointsOfMap (es : List (String × Value)) : HashMap (List String) :=
  es.foldl (fun result e =>
    match e.2 with
    | .array arr => result.insert e.1 (arr.filterMap Value.asStr)
    | _ => result) ∅

def deserializeAdditionalEndpoints : Value → Except Error (HashMap (List String))
  | .dict es => .ok (endpointsOfMap es)
  | .string s => .ok (if s.isEmpty then ∅ else (ExternalCrates.endpointsFromStr s).getD ∅)
  | _ => .ok ∅

def LogsAdditionalEndpoint.deserialize (v : Value) : Except Error LogsAdditionalEndpoint := do
  checkStruct "struct LogsAdditionalEndpoint" v
  let apiKey ← requiredField v 0 "api_key" deserializeString
  let host ← requiredField v 1 "Host" deserializeString
  let port ← requiredField v 2 "Port" deserializeU32
  let isReliable ← requiredField v 3 "is_reliable" deserializeBool
  return { apiKey, host, port, isReliable }

def deserializeLogsAdditionalEndpoints : Value → Except Error (List LogsAdditionalEndpoint)
  | .string s => .ok (if s.isEmpty then [] else (ExternalCrates.logsEndpointsFromStr s).getD [])
  | _ => .ok []

def Kind.ofName : String → Except Error Kind
  | "exclude_at_match" => .ok .excludeAtMatch
  | "include_at_match" => .ok .includeAtMatch
  | "mask_sequences" => .ok .maskSequences
  | name => .error ⟨[], .unknownVariant name⟩

/-- A variant is its name, or a map from its name to nothing. -/
def Kind.deserialize : Value → Except Error Kind
  | .string name => Kind.ofName name
  | .dict [(name, .null)] => Kind.ofName name
  | v => .error (invalidType v "enum Kind")

/-- `serde_json::from_value`, which takes no sequence of another length. -/
def ProcessingRule.fromValue (v : Value) : Except Error ProcessingRule := do
  checkStruct "struct ProcessingRule" v
  if let .array vs := v then
    if vs.length ≠ 4 then
      throw ⟨[], .invalidLength vs.length "struct ProcessingRule with 4 elements"⟩
  let kind ← requiredField v 0 "type" Kind.deserialize
  let name ← requiredField v 1 "name" deserializeString
  let pattern ← requiredField v 2 "pattern" deserializeString
  let replacePlaceholder ←
    defaultField v 3 "replace_placeholder" none (deserializeOption deserializeString)
  return { kind, name, pattern, replacePlaceholder }

def processingRulesOfArray (a : List Value) : List ProcessingRule :=
  a.filterMap fun v => (ProcessingRule.fromValue v).toOption

def deserializeProcessingRules : Value → Except Error (Option (List ProcessingRule))
  | .string s => .ok (ExternalCrates.processingRulesFromStr s)
  | .array a =>
    .ok (if (processingRulesOfArray a).isEmpty then none else some (processingRulesOfArray a))
  | _ => .ok none

/-- A mapping `service:mapped`; what follows a second colon is ignored. -/
def parseServiceMapping (pair : String) : Option (String × String) :=
  match split (· = ':') pair with
  | service :: toMap :: _ => some (trim service, trim toMap)
  | _ => none

def parseServiceMappings (s : String) : HashMap String :=
  ((split (· = ',') s).filterMap parseServiceMapping).foldl (fun map e => map.insert e.1 e.2) ∅

def deserializeServiceMapping (v : Value) : Except Error (HashMap String) :=
  match deserializeString v with
  | .error _ => .ok ∅
  | .ok s => .ok (parseServiceMappings s)

def ReplaceRuleYaml.deserialize (v : Value) : Except Error ReplaceRuleYaml := do
  checkStruct "struct ReplaceRuleYaml" v
  let name ← requiredField v 0 "name" deserializeString
  let pattern ← requiredField v 1 "pattern" deserializeString
  let repl ← requiredField v 2 "repl" deserializeString
  return { name, pattern, repl }

/-- The JSON text of the rules: a string that is JSON as it is, a sequence printed as JSON. -/
def visitReplaceRules : Value → Except Error String
  | .string s => .ok (if (ExternalCrates.jsonFromStr s).isSome then s else "")
  | .array vs => (vs.mapM ReplaceRuleYaml.deserialize).map ExternalCrates.replaceRulesToString
  | v => .error (invalidType v "a JSON string or YAML sequence of replace rules")

def deserializeApmReplaceRules (v : Value) : Except Error (Option (List ReplaceRule)) :=
  match visitReplaceRules v with
  | .error _ => .ok none
  | .ok json => .ok (ExternalCrates.parseRulesFromString json)

end

end ServerlessComponents.AgentConfig
