import ServerlessComponents.Library.Grouping
import ServerlessComponents.Library.Packing
import ServerlessComponents.Dogstatsd.Metric

/-!
# The metrics aggregator

`Aggregator` (`aggregator/core.rs`) folds the metrics of one context into one entry of a hash table
and packs the entries into batches when it is flushed. `B` is the encoded body of a sketch.
-/
namespace ServerlessComponents.Dogstatsd

def MAX_CONTEXTS : Nat := 65536
def MAX_ENTRIES_SINGLE_METRIC : Nat := 1000
def MAX_SIZE_BYTES_SINGLE_METRIC : Nat := 5 * (1024 * 1024)
def MAX_ENTRIES_SKETCH_METRIC : Nat := 1000
def MAX_SIZE_SKETCH_METRIC : Nat := 62 * (1024 * 1024)

/-- `merge_to_dogsketch` into an empty protobuf sketch. -/
class ToDogsketch (K B : Type) where
  body : K → B

/-- The sizes the third-party encoders give: that of a JSON point, `none` when it cannot be
serialised, and that of a protobuf sketch. -/
structure Sizes (V B : Type) where
  json : MetricToShip V → Option Nat
  protobuf : Sketch B → Nat

/-- Every point can be serialised, and takes some bytes. -/
def Sizes.JsonSucceeds {V B : Type} (sizes : Sizes V B) : Prop :=
  ∀ point, ∃ n, sizes.json point = some (n + 1)

/-- The order in which a hash table hands out its entries. -/
def TableOrder (M : Type) : Type := { order : List M → List M // ∀ l, (order l).Perm l }

variable [MetricHasher] {V K B : Type}

section Aggregation

variable [Zero V] [Add V] [DDSketch V K]

/-- A value of another type counts as 0, or not at all in a distribution. -/
def MetricValue.aggregate (self : MetricValue V K) (metric : Metric V K) : MetricValue V K :=
  match self with
  | .count v => .count (v + (metric.value.getValue).getD 0)
  | .gauge _ => .gauge ((metric.value.getValue).getD 0)
  | .distribution sketch =>
    match metric.value.getSketch with
    | some value => .distribution (DDSketch.merge sketch value)
    | none => .distribution sketch

/-- The entry of a context after a metric: the metric itself, or the old entry with it folded in. -/
def aggregateInto (entry : Option (Metric V K)) (metric : Metric V K) : Metric V K :=
  match entry with
  | none => metric
  | some entry => { entry with value := entry.value.aggregate metric }

end Aggregation

/-! ## What is shipped for an entry -/

def SortedTags.withEntryTags (base : SortedTags) (entryTags : Option SortedTags) : SortedTags :=
  match entryTags with
  | some tags => base.extend tags
  | none => base

def buildSketch [ToDogsketch K B] (baseTagVec : SortedTags) (entry : Metric V K) :
    Option (Sketch B) :=
  entry.value.getSketch.map fun sketch =>
    let tagVec := baseTagVec.withEntryTags entry.tags
    { metric := entry.name
      dogsketches := [⟨entry.timestamp, ToDogsketch.body sketch⟩]
      tags := tagVec.toChars
      metadata := findOrigin entry.name tagVec }

def kindOf : MetricValue V K → Option DdMetricKind
  | .count _ => some .count
  | .gauge _ => some .gauge
  | .distribution _ => none

/-- `entry.timestamp as u64` wraps around. -/
def timestampAsU64 (timestamp : Int) : Nat := (timestamp % 2 ^ 64).toNat

omit [MetricHasher] in
/-- A timestamp that is not negative is kept by the cast. -/
theorem timestampAsU64_of_nonneg {t : Int} (nonneg : 0 ≤ t) (small : t < 2 ^ 64) :
    (timestampAsU64 t : Int) = t := by
  rw [timestampAsU64, Int.emod_eq_of_lt nonneg small, Int.toNat_of_nonneg nonneg]

/-- Never called with a distribution. -/
def buildMetric (baseTagVec : SortedTags) (entry : Metric V K) : Option (MetricToShip V) :=
  match kindOf entry.value, entry.value.getValue with
  | some kind, some value =>
    let resources := match entry.tags with
      | some tags => tags.toResources
      | none => []
    let tagVec := baseTagVec.withEntryTags entry.tags
    let metadata := (findOrigin entry.name tagVec).map fun o =>
      (⟨some ⟨o.originProduct, o.originCategory, o.originService⟩⟩ : Metadata)
    some ⟨entry.name, ⟨timestampAsU64 entry.timestamp, value⟩, resources, kind, tagVec.toStrings,
      metadata⟩
  | _, _ => none

/-! ## The aggregator -/

structure Aggregator (V K : Type) where
  tags : SortedTags
  map : AList fun _ : UInt64 => Metric V K
  maxBatchEntriesSingleMetric : Nat
  maxBatchBytesSingleMetric : Nat
  maxBatchEntriesSketchMetric : Nat
  maxBatchBytesSketchMetric : Nat
  maxContext : Nat

/-- `errors::Creation` -/
inductive CreationError where
  | contexts
  deriving DecidableEq, Repr

/-- `errors::Insert` -/
inductive InsertError where
  | overflow
  deriving DecidableEq, Repr

namespace Aggregator

def new (tags : SortedTags) (maxContext : Nat) : Except CreationError (Aggregator V K) :=
  if MAX_CONTEXTS < maxContext then .error .contexts
  else
    .ok {
      tags
      map := ∅
      maxBatchEntriesSingleMetric := MAX_ENTRIES_SINGLE_METRIC
      maxBatchBytesSingleMetric := MAX_SIZE_BYTES_SINGLE_METRIC
      maxBatchEntriesSketchMetric := MAX_ENTRIES_SKETCH_METRIC
      maxBatchBytesSketchMetric := MAX_SIZE_SKETCH_METRIC
      maxContext }

/-- Insert a metric; the table finds an entry by its stored ID. -/
def insert [Zero V] [Add V] [DDSketch V K] (s : Aggregator V K) (metric : Metric V K) :
    Except InsertError (Aggregator V K) :=
  let id := metricId metric.name metric.tags metric.timestamp
  match s.map.lookup id with
  | none =>
    if s.maxContext ≤ s.map.entries.length then .error .overflow
    else .ok { s with map := s.map.insert id metric }
  | some entry =>
    .ok { s with map := s.map.insert id { entry with value := entry.value.aggregate metric } }

def isDistribution (metric : Metric V K) : Bool :=
  match metric.value with
  | .distribution _ => true
  | _ => false

/-- `extract_if`, in the order of the table. -/
def extractIf (s : Aggregator V K) (order : TableOrder (Metric V K)) (p : Metric V K → Bool) :
    List (Metric V K) × Aggregator V K :=
  (order.1 (s.map.values.filter p), { s with map := s.map.filterValues fun m => !p m })

def consumeDistributions [ToDogsketch K B] (s : Aggregator V K) (order : TableOrder (Metric V K))
    (sizes : Sizes V B) : List (SketchPayload B) × Aggregator V K :=
  let (extracted, rest) := s.extractIf order isDistribution
  let sketches := extracted.filterMap (buildSketch s.tags)
  ((Packing.pack s.maxBatchEntriesSketchMetric s.maxBatchBytesSketchMetric sizes.protobuf
    sketches).map SketchPayload.mk, rest)

/-- One turn of the loop of `consume_metrics`: a point that cannot be serialised is left out. -/
def packMetric (s : Aggregator V K) (sizes : Sizes V B) (p : Packing.Packer (MetricToShip V))
    (metric : MetricToShip V) : Packing.Packer (MetricToShip V) :=
  let serializedMetricSize := (sizes.json metric).getD 0
  if 0 < serializedMetricSize then
    p.push s.maxBatchEntriesSingleMetric s.maxBatchBytesSingleMetric serializedMetricSize metric
  else p

def consumeMetrics (s : Aggregator V K) (order : TableOrder (Metric V K)) (sizes : Sizes V B) :
    List (Series V) × Aggregator V K :=
  let (extracted, rest) := s.extractIf order fun m => !isDistribution m
  let metrics := extracted.filterMap (buildMetric s.tags)
  ((metrics.foldl (s.packMetric sizes) Packing.Packer.empty).finish.map Series.mk, rest)

def getEntryById (s : Aggregator V K) (name : String) (tags : Option SortedTags)
    (timestamp : Int) : Option (Metric V K) :=
  s.map.lookup (metricId name tags timestamp)

/-! ## What the operations do to the table -/

section Insert

variable [Zero V] [Add V] [DDSketch V K] {s : Aggregator V K} {metric entry : Metric V K}

theorem insert_of_none (vacant : s.map.lookup metric.id = none)
    (room : s.map.entries.length < s.maxContext) :
    s.insert metric = .ok { s with map := s.map.insert metric.id metric } := by
  unfold insert
  rw [← metric.id_eq]
  simp only [vacant]
  exact if_neg (Nat.not_le.2 room)

theorem insert_of_full (vacant : s.map.lookup metric.id = none)
    (full : s.maxContext ≤ s.map.entries.length) : s.insert metric = .error .overflow := by
  unfold insert
  rw [← metric.id_eq]
  simp only [vacant]
  exact if_pos full

theorem insert_of_some (occupied : s.map.lookup metric.id = some entry) :
    s.insert metric = .ok { s with
      map := s.map.insert metric.id { entry with value := entry.value.aggregate metric } } := by
  unfold insert
  rw [← metric.id_eq]
  simp only [occupied]

end Insert

/-- An accepted metric is absorbed into the entry of its ID. -/
theorem insert_eq_ok [Zero V] [Add V] [DDSketch V K] {s s' : Aggregator V K} {metric : Metric V K}
    (h : s.insert metric = .ok s') :
    s' = { s with map := Grouping.absorb Metric.id aggregateInto s.map metric } := by
  unfold insert at h
  rw [← metric.id_eq] at h
  simp only at h
  split at h
  · rename_i vacant
    split at h <;> cases h
    rw [Grouping.absorb, vacant]
    rfl
  · rename_i entry occupied
    cases h
    rw [Grouping.absorb, occupied]
    rfl

theorem buildMetric_eq_none_iff (base : SortedTags) (entry : Metric V K) :
    buildMetric base entry = none ↔ isDistribution entry = true := by
  unfold buildMetric isDistribution
  cases entry.value <;> simp [kindOf, MetricValue.getValue]

theorem buildSketch_eq_none_iff [ToDogsketch K B] (base : SortedTags) (entry : Metric V K) :
    (buildSketch base entry : Option (Sketch B)) = none ↔ isDistribution entry = false := by
  unfold buildSketch isDistribution
  cases entry.value <;> simp [MetricValue.getSketch]

omit [MetricHasher] in
theorem filterMap_filter_of_none {α β : Type} {f : α → Option β} {p : α → Bool} {l : List α}
    (h : ∀ a, p a = false → f a = none) : (l.filter p).filterMap f = l.filterMap f := by
  rw [List.filterMap_filter]
  apply List.filterMap_congr
  intro a _
  cases keep : p a <;> simp [h a, keep]

theorem items_foldl_packMetric {sizes : Sizes V B} (json : sizes.JsonSucceeds)
    (s : Aggregator V K) (metrics : List (MetricToShip V)) (p : Packing.Packer (MetricToShip V)) :
    (metrics.foldl (s.packMetric sizes) p).items = p.items ++ metrics := by
  induction metrics generalizing p with
  | nil => simp
  | cons metric rest ih =>
    obtain ⟨n, size⟩ := json metric
    rw [List.foldl_cons, ih, packMetric]
    simp [size]

/-- The points of a flush are those of the entries that are no distributions. -/
theorem points_consumeMetrics {sizes : Sizes V B} (json : sizes.JsonSucceeds)
    (s : Aggregator V K) (order : TableOrder (Metric V K)) :
    ((s.consumeMetrics order sizes).1.flatMap (·.series)).Perm
      (s.map.values.filterMap (buildMetric s.tags)) := by
  have packed : (s.consumeMetrics order sizes).1.flatMap (·.series) =
      (order.1 (s.map.values.filter fun m => !isDistribution m)).filterMap
        (buildMetric s.tags) := by
    simp only [consumeMetrics, extractIf, List.flatMap_def, List.map_map, Function.comp_def,
      List.map_id', Packing.Packer.flatten_finish, items_foldl_packMetric json]
    rfl
  rw [packed]
  refine ((order.2 _).filterMap _).trans (.of_eq (filterMap_filter_of_none ?_))
  intro m hm
  exact (buildMetric_eq_none_iff ..).2 (by simpa using hm)

theorem consumeMetrics_snd (sizes : Sizes V B) (s : Aggregator V K)
    (order : TableOrder (Metric V K)) :
    (s.consumeMetrics order sizes).2 =
      { s with map := s.map.filterValues isDistribution } := by
  simp [consumeMetrics, extractIf]

/-- The sketches of a flush are those of the distributions. -/
theorem sketches_consumeDistributions [ToDogsketch K B] (sizes : Sizes V B) (s : Aggregator V K)
    (order : TableOrder (Metric V K)) :
    ((s.consumeDistributions order sizes).1.flatMap (·.sketches)).Perm
      (s.map.values.filterMap (buildSketch s.tags)) := by
  have packed : (s.consumeDistributions order sizes).1.flatMap (·.sketches) =
      (order.1 (s.map.values.filter isDistribution)).filterMap (buildSketch s.tags) := by
    simp only [consumeDistributions, extractIf, List.flatMap_def, List.map_map, Function.comp_def,
      List.map_id', Packing.flatten_pack]
  rw [packed]
  refine ((order.2 _).filterMap _).trans (.of_eq (filterMap_filter_of_none ?_))
  intro m hm
  exact (buildSketch_eq_none_iff ..).2 hm

theorem consumeDistributions_snd [ToDogsketch K B] (sizes : Sizes V B) (s : Aggregator V K)
    (order : TableOrder (Metric V K)) :
    (s.consumeDistributions order sizes).2 =
      { s with map := s.map.filterValues fun m => !isDistribution m } := rfl

end Aggregator

end ServerlessComponents.Dogstatsd
