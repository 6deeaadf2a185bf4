import ServerlessComponents.Dogstatsd.Metric

/-!
# Parsing a metric

The text format of DogStatsD (`metric.rs`): `<name>:<value>|<type>` and optional fields. A parsed
metric is a record whose ID is a field like any other; what is parsed, built or renamed has the ID
of its own context.
-/
namespace ServerlessComponents.Dogstatsd

/-- `errors::ParseError` -/
inductive ParseError where
  | raw (text : String)
  | unsupportedType (type : String)
  deriving DecidableEq, Repr

def MAX_TAGS : Nat := 100

/-- `f64` as text: `str::parse`, with the text of its error, and `round() as i64`. -/
class DoubleText (V : Type) where
  parse : String → Except String V
  roundToI64 : V → Int

theorem exists_of_bind_eq_ok {ε α β : Type} {x : Except ε α} {f : α → Except ε β} {b : β}
    (h : (x >>= f) = .ok b) : ∃ a, x = .ok a ∧ f a = .ok b := by
  cases x with
  | error e => cases h
  | ok a => exact ⟨a, rfl, h⟩

/-- Split at the next pipe. -/
def nextField (input : String) : String × Option String :=
  if '|' ∈ input.toList then
    (.ofList (input.toList.takeWhile (· ≠ '|')),
      some (.ofList ((input.toList.dropWhile (· ≠ '|')).drop 1)))
  else (input, none)

/-- `str::split` at a character. -/
def splitAtChar (c : Char) (s : String) : List String := (s.toList.splitOn c).map .ofList

def stripPrefix (p s : String) : Option String :=
  if p.toList <+: s.toList then some (.ofList (s.toList.drop p.length)) else none

namespace SortedTags

/-- One tag, with or without a value. -/
def parseTag (part : String) : String × String := (splitOnce part).getD (part, "")

/-- `SortedTags::parse`: only consecutive repetitions are dropped, and before sorting. -/
def parse (tagsSection : String) : Except ParseError SortedTags :=
  let parsedTags := ((splitAtChar ',' tagsSection).filter fun s => !s.isEmpty).map parseTag
  let parsedTags := parsedTags.destutter (· ≠ ·)
  if MAX_TAGS < parsedTags.length then
    .error (.raw s!"Too many tags, more than {MAX_TAGS}")
  else .ok ⟨parsedTags.insertionSort tagLe⟩

end SortedTags

/-! ## Metrics as records -/

/-- A metric as the source has it, the ID a field like the others. -/
structure RawMetric (V K : Type) where
  name : String
  value : MetricValue V K
  tags : Option SortedTags
  id : UInt64
  timestamp : Int

variable {V K : Type} [MetricHasher]

/-- A metric without the proof about its ID. -/
def Metric.raw (metric : Metric V K) : RawMetric V K :=
  ⟨metric.name, metric.value, metric.tags, metric.id, metric.timestamp⟩

namespace RawMetric

/-- The ID of the current name, tags and bucket. -/
def contextId (metric : RawMetric V K) : UInt64 :=
  metricId metric.name metric.tags metric.timestamp

/-- The stored ID is that of the current name, tags and bucket. -/
def HasOwnId (metric : RawMetric V K) : Prop := metric.id = metric.contextId

/-- The metric of the record's context, whatever ID the record stores. -/
def sealed (metric : RawMetric V K) : Metric V K :=
  .ofContext (metric.name, metric.tags, metric.timestamp) metric.value

theorem raw_sealed {metric : RawMetric V K} (own : metric.HasOwnId) :
    metric.sealed.raw = metric := by
  have id_eq : metric.sealed.id = metric.id := own.symm
  obtain ⟨name, value, tags, id, timestamp⟩ := metric
  simp only [Metric.raw, id_eq]
  rfl

theorem sealed_raw (metric : Metric V K) : metric.raw.sealed = metric :=
  metric.ofContext_context

/-- `Metric::new`; the clock is read for a missing timestamp, and again for the bucket. -/
def new (now clock : Int) (name : String) (value : MetricValue V K) (tags : Option SortedTags)
    (timestamp : Option Int) : RawMetric V K :=
  let parsedTimestamp := Metric.timestampToBucket clock (timestamp.getD now)
  ⟨name, value, tags, metricId name tags parsedTimestamp, parsedTimestamp⟩

/-- `prepend_namespace`, with its assignments. -/
def prependNamespace (ns : String) (metric : RawMetric V K) : RawMetric V K :=
  let newName := ns ++ "." ++ metric.name
  let metric := { metric with name := newName }
  { metric with id := metricId metric.name metric.tags metric.timestamp }

end RawMetric

/-! ## The parser -/

section Parse

variable [DoubleText V]

def firstValue (values : String) : Except ParseError V :=
  match (splitAtChar ':' values).head? with
  | some v =>
    match DoubleText.parse v with
    | .ok v => .ok v
    | .error e => .error (.raw s!"Invalid value {e}")
  | none => .error (.raw "Missing value")

def valueOfType [DDSketch V K] (metricType : String) (val : V) :
    Except ParseError (MetricValue V K) :=
  if metricType = "c" then .ok (.count val)
  else if metricType = "g" then .ok (.gauge val)
  else if metricType = "d" then .ok (.distribution (DDSketch.insert DDSketch.default val))
  else if metricType = "h" ∨ metricType = "s" ∨ metricType = "ms" then
    .error (.unsupportedType metricType)
  else .error (.raw s!"Invalid metric type: {metricType}")

/-- What the optional fields set; a later field overrides an earlier one. -/
structure OptionalFields where
  tags : Option SortedTags
  timestamp : Option Int

variable (V) in
/-- One turn of the loop over the optional fields. -/
def parseField (fields : OptionalFields) (field : String) : Except ParseError OptionalFields :=
  if field.isEmpty then .ok fields
  else
    match stripPrefix "#" field with
    | some tagsStr => (SortedTags.parse tagsStr).map fun tags => { fields with tags := some tags }
    | none =>
    match stripPrefix "T" field with
    | some tsStr =>
      if tsStr.isEmpty then .error (.raw "Empty timestamp field: T")
      else
        match (DoubleText.parse tsStr : Except String V) with
        | .ok sec => .ok { fields with timestamp := some (DoubleText.roundToI64 sec) }
        | .error _ => .error (.raw s!"Invalid timestamp: T{tsStr}")
    | none =>
    match stripPrefix "@" field with
    | some srStr =>
      match (DoubleText.parse srStr : Except String V) with
      | .ok _ => .ok fields
      | .error _ => .error (.raw s!"Invalid sample rate: @{srStr}")
    -- a container ID is read and not kept, and unknown fields are ignored
    | none => .ok fields

/-- The fields after the type, each up to the next pipe. -/
def optionalFields : Option String → List String
  | none => []
  | some remaining => splitAtChar '|' remaining

/-- `parse`, with the reading of the clock for a missing timestamp and that for the bucket. -/
def parse [DDSketch V K] (now clock : Int) (input : String) :
    Except ParseError (RawMetric V K) :=
  let invalid : ParseError := .raw s!"Invalid metric format {input}"
  let (nameAndValue, remaining) := nextField input
  match SortedTags.splitOnce nameAndValue with
  | none => .error invalid
  | some (name, values) =>
    if name.isEmpty || values.isEmpty then .error invalid
    else
      match remaining with
      | none => .error invalid
      | some remaining =>
        let (metricType, remaining) := nextField remaining
        if metricType.isEmpty then .error invalid
        else do
          let val ← firstValue (V := V) values
          let value ← valueOfType metricType val
          let fields ← (optionalFields remaining).foldlM (parseField V) ⟨none, none⟩
          let parsedTimestamp := Metric.timestampToBucket clock (fields.timestamp.getD now)
          let id := metricId name fields.tags parsedTimestamp
          return ⟨name, value, fields.tags, id, parsedTimestamp⟩

/-- What is parsed has a name and the ID of its context. -/
theorem parse_ok [DDSketch V K] {now clock : Int} {input : String} {metric : RawMetric V K}
    (h : parse now clock input = .ok metric) : metric.name.isEmpty = false ∧ metric.HasOwnId := by
  unfold parse at h
  simp only at h
  split at h
  · cases h
  · split at h
    · cases h
    · rename_i named
      split at h
      · cases h
      · split at h
        · cases h
        · obtain ⟨val, -, h⟩ := exists_of_bind_eq_ok h
          obtain ⟨value, -, h⟩ := exists_of_bind_eq_ok h
          obtain ⟨fields, -, h⟩ := exists_of_bind_eq_ok h
          cases h
          refine ⟨?_, rfl⟩
          grind

end Parse

end ServerlessComponents.Dogstatsd
