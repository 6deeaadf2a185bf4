import Mathlib.Data.List.Destutter
import Mathlib.Data.List.Sort
import ServerlessComponents.Dogstatsd.Payload

/-!
# Metrics

The metrics of `metric.rs`: their values, sorted tags and IDs. `V` is the type of values (`f64`)
and `K` that of sketches (`DDSketch`). Timestamps are `i64`.
-/
namespace ServerlessComponents.Dogstatsd

/-- What `id` feeds to its hasher. -/
inductive HashWrite where
  /-- An interned string, which hashes as its precomputed hash. -/
  | ustr (s : String)
  | i64 (n : Int)
  /-- A byte slice, with its length. -/
  | bytes (s : String)
  deriving DecidableEq, Repr

/-- The hasher of `id`, over everything written to it. -/
class MetricHasher where
  finish : List HashWrite → UInt64

/-- The operations of `DDSketch` the agent uses. -/
class DDSketch (V : outParam Type) (K : Type) where
  default : K
  insert : K → V → K
  merge : K → K → K

inductive MetricValue (V K : Type) where
  | count (v : V)
  | gauge (v : V)
  | distribution (sketch : K)
  deriving DecidableEq, Repr

namespace MetricValue

variable {V K : Type}

/-- The constructor function `MetricValue::distribution`. -/
def ofDistribution [DDSketch V K] (v : V) : MetricValue V K :=
  .distribution (DDSketch.insert DDSketch.default v)

def getValue : MetricValue V K → Option V
  | .count v => some v
  | .gauge v => some v
  | .distribution _ => none

def getSketch : MetricValue V K → Option K
  | .distribution sketch => some sketch
  | _ => none

end MetricValue

/-! ## Tags -/

structure SortedTags where
  values : List (String × String)
  deriving DecidableEq, Repr

namespace SortedTags

/-- The lexicographic order of pairs, by which tags are sorted. -/
def tagLe (a b : String × String) : Prop := a.1 < b.1 ∨ a.1 = b.1 ∧ a.2 ≤ b.2

instance : DecidableRel tagLe := fun a b =>
  inferInstanceAs (Decidable (a.1 < b.1 ∨ a.1 = b.1 ∧ a.2 ≤ b.2))

/-- Append, drop consecutive repetitions, sort. -/
def extend (tags other : SortedTags) : SortedTags :=
  ⟨((tags.values ++ other.values).destutter (· ≠ ·)).insertionSort tagLe⟩

/-- A tag as `key:value`, or as the key alone when there is no value. -/
def tagText : String × String → String
  | (k, v) => if v.isEmpty then k else k ++ ":" ++ v

def toStrings (tags : SortedTags) : List String := tags.values.map tagText

def toChars (tags : SortedTags) : List String := tags.values.map tagText

def findAll (tags : SortedTags) (tagKey : String) : List String :=
  tags.values.filterMap fun (k, v) => if k = tagKey then some v else none

/-- `split_once(':')` -/
def splitOnce (s : String) : Option (String × String) :=
  if ':' ∈ s.toList then
    some (.ofList (s.toList.takeWhile (· ≠ ':')), .ofList ((s.toList.dropWhile (· ≠ ':')).drop 1))
  else none

/-- The values of `dd.internal.resource` that name a resource. -/
def toResources (tags : SortedTags) : List Resource :=
  tags.values.filterMap fun (key, val) =>
    if key = "dd.internal.resource" then (splitOnce val).map fun (name, kind) => ⟨name, kind⟩
    else none

end SortedTags

/-! ## Metrics and their IDs -/

section Ids

variable [MetricHasher]

/-- Hash of the name, the bucket and the tags. -/
def metricId (name : String) (tags : Option SortedTags) (timestamp : Int) : UInt64 :=
  MetricHasher.finish ([.ustr name, .i64 timestamp] ++
    match tags with
    | some tags => tags.values.flatMap fun (k, v) => [.bytes k, .bytes v]
    | none => [])

/-- A metric; its ID is that of its context. -/
structure Metric (V K : Type) where
  name : String
  value : MetricValue V K
  tags : Option SortedTags
  timestamp : Int
  id : UInt64
  id_eq : id = metricId name tags timestamp

namespace Metric

variable {V K : Type}

/-- What a metric is aggregated by. -/
def context (metric : Metric V K) : String × Option SortedTags × Int :=
  (metric.name, metric.tags, metric.timestamp)

theorem id_eq_of_context_eq {m m' : Metric V K} (h : m.context = m'.context) : m.id = m'.id := by
  simp only [context, Prod.mk.injEq] at h
  rw [m.id_eq, m'.id_eq, h.1, h.2.1, h.2.2]

/-- The metric of a context with a value. -/
def ofContext (context : String × Option SortedTags × Int) (value : MetricValue V K) :
    Metric V K :=
  ⟨context.1, value, context.2.1, context.2.2, metricId context.1 context.2.1 context.2.2, rfl⟩

theorem ofContext_context (metric : Metric V K) :
    ofContext metric.context metric.value = metric := by
  obtain ⟨name, value, tags, timestamp, id, id_eq⟩ := metric
  subst id_eq
  rfl

/-- Round down to ten seconds, a future timestamp to those of the clock. -/
def timestampToBucket (nowSeconds timestamp : Int) : Int :=
  if nowSeconds < timestamp then nowSeconds.tdiv 10 * 10 else timestamp.tdiv 10 * 10

/-- `Metric::new`, at a reading of the clock. -/
def new (nowSeconds : Int) (name : String) (value : MetricValue V K) (tags : Option SortedTags)
    (timestamp : Option Int) : Metric V K :=
  let parsedTimestamp := timestampToBucket nowSeconds (timestamp.getD nowSeconds)
  ⟨name, value, tags, parsedTimestamp, metricId name tags parsedTimestamp, rfl⟩

/-- `prepend_namespace` -/
def prependNamespace (ns : String) (metric : Metric V K) : Metric V K :=
  let newName := ns ++ "." ++ metric.name
  { metric with
    name := newName
    id := metricId newName metric.tags metric.timestamp
    id_eq := rfl }

end Metric

end Ids

/-! ## Origins -/

namespace Origin

def DD_ORIGIN_TAG_KEY : String := "origin"
def AWS_LAMBDA_TAG_KEY : String := "function_arn"
def GOOGLE_CLOUD_RUN_TAG_VALUE : String := "cloudrun"
def AZURE_APP_SERVICES_TAG_VALUE : String := "appservice"
def AZURE_CONTAINER_APP_TAG_VALUE : String := "containerapp"
def AZURE_FUNCTIONS_TAG_VALUE : String := "azurefunction"
def DATADOG_PREFIX : String := "datadog."
def AWS_LAMBDA_PREFIX : String := "aws.lambda"
def GOOGLE_CLOUD_RUN_PREFIX : String := "gcp.run"
def AZURE_FUNCTIONS_PREFIX : String := "azure.functions"
def JVM_PREFIX : String := "jvm."
def RUNTIME_PREFIX : String := "runtime."

/-- `OriginProduct::Serverless` -/
def serverless : Nat := 1

inductive Category where
  | appServicesMetrics
  | cloudRunMetrics
  | containerAppMetrics
  | lambdaMetrics
  | azureFunctionsMetrics

def Category.toNat : Category → Nat
  | .appServicesMetrics => 35
  | .cloudRunMetrics => 36
  | .containerAppMetrics => 37
  | .lambdaMetrics => 38
  | .azureFunctionsMetrics => 71

inductive Service where
  | serverlessCustom
  | serverlessEnhanced
  | serverlessRuntime

def Service.toNat : Service → Nat
  | .serverlessCustom => 472
  | .serverlessEnhanced => 473
  | .serverlessRuntime => 474

/-- Whether the tags have the key with this value, or with any when it is empty. -/
def hasTagValue (tags : SortedTags) (key value : String) : Bool :=
  if value.isEmpty then !(tags.findAll key).isEmpty else (tags.findAll key).any (· == value)

def service (metricName : String) : Service :=
  let metricPrefix := ".".intercalate ((metricName.splitOn ".").take 2)
  if metricName.startsWith JVM_PREFIX || metricName.startsWith RUNTIME_PREFIX then
    .serverlessRuntime
  else if metricPrefix == AWS_LAMBDA_PREFIX || metricPrefix == GOOGLE_CLOUD_RUN_PREFIX ||
      metricPrefix == AZURE_FUNCTIONS_PREFIX then .serverlessEnhanced
  else .serverlessCustom

def category (tags : SortedTags) : Option Category :=
  if hasTagValue tags AWS_LAMBDA_TAG_KEY "" then some .lambdaMetrics
  else if hasTagValue tags DD_ORIGIN_TAG_KEY AZURE_APP_SERVICES_TAG_VALUE then
    some .appServicesMetrics
  else if hasTagValue tags DD_ORIGIN_TAG_KEY GOOGLE_CLOUD_RUN_TAG_VALUE then some .cloudRunMetrics
  else if hasTagValue tags DD_ORIGIN_TAG_KEY AZURE_CONTAINER_APP_TAG_VALUE then
    some .containerAppMetrics
  else if hasTagValue tags DD_ORIGIN_TAG_KEY AZURE_FUNCTIONS_TAG_VALUE then
    some .azureFunctionsMetrics
  else none

end Origin

/-- The origin of a metric, by its name and tags. -/
def findOrigin (metricName : String) (tags : SortedTags) : Option Origin :=
  if metricName.startsWith Origin.DATADOG_PREFIX then none
  else
    (Origin.category tags).map fun category =>
      ⟨Origin.serverless, (Origin.service metricName).toNat, category.toNat⟩

end ServerlessComponents.Dogstatsd
