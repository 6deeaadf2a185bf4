import ServerlessComponents.Dogstatsd.AggregatorService

/-!
# Types that share a context

A context is a name, tags and a bucket; the type of a metric is no part of it, nor of the ID. What
a flush of mixed types should ship is one entry for each context and type. It does so exactly
when no two accepted metrics share an ID without sharing their context and their type.
-/
namespace ServerlessComponents.Dogstatsd

variable {V K B : Type}

/-- Combine from left to right. -/
def inOrder {α : Type} (op : α → α → α) : List α → Option α
  | [] => none
  | first :: rest => some (rest.foldl op first)

theorem inOrder_append {α : Type} (op : α → α → α) (l : List α) (a : α) :
    inOrder op (l ++ [a]) = some (match inOrder op l with
      | none => a
      | some acc => op acc a) := by
  cases l with
  | nil => rfl
  | cons first rest => simp [inOrder]

/-- The value that stands for the values of one type: their sum, the last or their merge. -/
def typedValue [Add V] [DDSketch V K] (kind : Option DdMetricKind)
    (values : List (MetricValue V K)) : Option (MetricValue V K) :=
  match kind with
  | some .count => (inOrder (· + ·) (values.filterMap MetricValue.getValue)).map .count
  | some .gauge => (values.filterMap MetricValue.getValue).getLast?.map .gauge
  | none => (inOrder DDSketch.merge (values.filterMap MetricValue.getSketch)).map .distribution

section Entries

variable [MetricHasher]

/-- The context of a metric with its type. -/
def seriesKey (metric : Metric V K) : (String × Option SortedTags × Int) × Option DdMetricKind :=
  (metric.context, kindOf metric.value)

/-- The ID depends on the context alone. -/
def seriesId (key : (String × Option SortedTags × Int) × Option DdMetricKind) : UInt64 :=
  metricId key.1.1 key.1.2.1 key.1.2.2

theorem id_eq_seriesId : (Metric.id : Metric V K → UInt64) = seriesId ∘ seriesKey :=
  funext Metric.id_eq

/-- Metrics with the same ID have the same context and the same type. -/
def IdsSeparate (metrics : List (Metric V K)) : Prop :=
  ∀ m ∈ metrics, ∀ m' ∈ metrics, m.id = m'.id →
    m.context = m'.context ∧ kindOf m.value = kindOf m'.value

instance (metrics : List (Metric V K)) : Decidable (IdsSeparate metrics) :=
  inferInstanceAs (Decidable (∀ m ∈ metrics, ∀ m' ∈ metrics, m.id = m'.id →
    m.context = m'.context ∧ kindOf m.value = kindOf m'.value))

theorem idsSeparate_iff {metrics : List (Metric V K)} :
    IdsSeparate metrics ↔ Grouping.Separates seriesId seriesKey metrics := by
  unfold IdsSeparate Grouping.Separates
  simp only [seriesKey, Prod.mk.injEq, Metric.id_eq, seriesId, Metric.context]

variable [Add V] [DDSketch V K]

/-- One entry for each context and type among the metrics, with the value of that type's metrics. -/
def typedEntries (metrics : List (Metric V K)) : List (Metric V K) :=
  (metrics.map seriesKey).dedup.filterMap fun key =>
    (typedValue key.2 ((Grouping.group seriesKey metrics key).map (·.value))).map
      (Metric.ofContext key.1)

/-- What is shipped are the entries of each context and type, each once. -/
structure SeparatesTypes [ToDogsketch K B] (tags : SortedTags) (accepted : List (Metric V K))
    (points : List (MetricToShip V)) (sketches : List (Sketch B)) : Prop where
  points : points.Perm ((typedEntries accepted).filterMap (buildMetric tags))
  sketches : sketches.Perm ((typedEntries accepted).filterMap (buildSketch tags))

/-! ## Metrics of one type -/

variable [Zero V]

/-- One more value of the type. -/
theorem typedValue_append {kind : Option DdMetricKind} {values : List (MetricValue V K)}
    (same : ∀ v ∈ values, kindOf v = kind) {metric : Metric V K}
    (hm : kindOf metric.value = kind) :
    typedValue kind (values ++ [metric.value]) = some (match typedValue kind values with
      | none => metric.value
      | some value => value.aggregate metric) := by
  cases hv : metric.value with
  | count v =>
    obtain rfl : some DdMetricKind.count = kind := by rw [← hm, hv]; rfl
    simp only [typedValue, List.filterMap_append, List.filterMap_cons, List.filterMap_nil,
      MetricValue.getValue, inOrder_append, Option.map_some]
    cases inOrder (· + ·) (values.filterMap MetricValue.getValue) with
    | none => rfl
    | some sum => simp [MetricValue.aggregate, hv, MetricValue.getValue]
  | gauge v =>
    obtain rfl : some DdMetricKind.gauge = kind := by rw [← hm, hv]; rfl
    simp only [typedValue, List.filterMap_append, List.filterMap_cons, List.filterMap_nil,
      MetricValue.getValue, List.getLast?_concat, Option.map_some]
    cases (values.filterMap MetricValue.getValue).getLast? with
    | none => rfl
    | some last => simp [MetricValue.aggregate, hv, MetricValue.getValue]
  | distribution sketch =>
    obtain rfl : none = kind := by rw [← hm, hv]; rfl
    simp only [typedValue, List.filterMap_append, List.filterMap_cons, List.filterMap_nil,
      MetricValue.getSketch, inOrder_append, Option.map_some]
    cases inOrder DDSketch.merge (values.filterMap MetricValue.getSketch) with
    | none => rfl
    | some merged => simp [MetricValue.aggregate, hv, MetricValue.getSketch]

/-- Metrics of one context and type are folded into the entry with their value. -/
theorem fold_eq_typedValue {metrics : List (Metric V K)}
    {key : (String × Option SortedTags × Int) × Option DdMetricKind}
    (same : ∀ m ∈ metrics, seriesKey m = key) :
    Grouping.fold aggregateInto metrics =
      (typedValue key.2 (metrics.map (·.value))).map (Metric.ofContext key.1) := by
  induction metrics using List.reverseRecOn with
  | nil => rcases key with ⟨context, _ | _ | _⟩ <;> rfl
  | append_singleton metrics metric ih =>
    have before : ∀ m ∈ metrics, seriesKey m = key := by
      intro m hm
      exact same m (List.mem_append_left _ hm)
    have last : seriesKey metric = key := same metric (by simp)
    have kinds : ∀ v ∈ metrics.map (·.value), kindOf v = key.2 := by
      intro v hv
      obtain ⟨m, hm, rfl⟩ := List.mem_map.1 hv
      rw [← before m hm]
      rfl
    rw [Grouping.fold_append, ih before, List.map_append, List.map_singleton,
      typedValue_append kinds (congrArg Prod.snd last)]
    cases typedValue key.2 (metrics.map (·.value)) with
    | none =>
      rw [← last]
      exact congrArg some (Metric.ofContext_context metric).symm
    | some value => rfl

theorem typedEntries_eq (metrics : List (Metric V K)) :
    typedEntries metrics = Grouping.folds seriesKey aggregateInto metrics := by
  apply List.filterMap_congr
  intro key _
  refine (fold_eq_typedValue ?_).symm
  intro m hm
  simpa using (List.mem_filter.1 hm).2

/-- The entries by ID are those by context and type exactly when the IDs separate them. -/
theorem folds_perm_typedEntries {metrics : List (Metric V K)} (separate : IdsSeparate metrics) :
    (Grouping.folds Metric.id aggregateInto metrics).Perm (typedEntries metrics) := by
  rw [typedEntries_eq, id_eq_seriesId]
  exact Grouping.folds_comp_perm (idsSeparate_iff.1 separate)

theorem length_folds_iff (metrics : List (Metric V K)) :
    (Grouping.folds Metric.id aggregateInto metrics).length = (typedEntries metrics).length ↔
      IdsSeparate metrics := by
  rw [typedEntries_eq, id_eq_seriesId, idsSeparate_iff]
  exact Grouping.length_folds_comp_iff metrics

end Entries

/-! ## A flush -/

namespace Aggregator

variable [MetricHasher] [Zero V] [Add V] [DDSketch V K]

/-- Insert one metric after the other, collecting those whose insert succeeded. -/
def insertAll (s : Aggregator V K) : List (Metric V K) → Aggregator V K × List (Metric V K)
  | [] => (s, [])
  | metric :: rest =>
    match s.insert metric with
    | .ok s' => ((s'.insertAll rest).1, metric :: (s'.insertAll rest).2)
    | .error .overflow => s.insertAll rest

/-- All the points and all the sketches of a flush. -/
def flush [ToDogsketch K B] (s : Aggregator V K) (sizes : Sizes V B)
    (metricsOrder distributionsOrder : TableOrder (Metric V K)) :
    List (MetricToShip V) × List (Sketch B) :=
  let (series, s') := s.consumeMetrics metricsOrder sizes
  let (distributions, _) := s'.consumeDistributions distributionsOrder sizes
  (series.flatMap (·.series), distributions.flatMap (·.sketches))

theorem insertAll_fst (s : Aggregator V K) (metrics : List (Metric V K)) :
    (s.insertAll metrics).1 = { s with
      map := (s.insertAll metrics).2.foldl (Grouping.absorb Metric.id aggregateInto) s.map } := by
  induction metrics generalizing s with
  | nil => rfl
  | cons metric rest ih =>
    rw [insertAll]
    cases inserted : s.insert metric with
    | error e =>
      cases e
      exact ih s
    | ok s' =>
      obtain rfl := insert_eq_ok inserted
      exact ih _

variable [ToDogsketch K B]

omit [Zero V] [Add V] [DDSketch V K] in
/-- A flush ships the entries of the table. -/
theorem flush_perm {sizes : Sizes V B} (json : sizes.JsonSucceeds) (s : Aggregator V K)
    (metricsOrder distributionsOrder : TableOrder (Metric V K)) :
    (s.flush sizes metricsOrder distributionsOrder).1.Perm
        (s.map.values.filterMap (buildMetric s.tags)) ∧
      (s.flush sizes metricsOrder distributionsOrder).2.Perm
        (s.map.values.filterMap (buildSketch s.tags)) := by
  refine ⟨points_consumeMetrics json s metricsOrder, ?_⟩
  have sketches := sketches_consumeDistributions sizes (s.consumeMetrics metricsOrder sizes).2
    distributionsOrder
  rw [consumeMetrics_snd, AList.values_filterValues,
    filterMap_filter_of_none fun m hm => (buildSketch_eq_none_iff ..).2 hm] at sketches
  simp only [flush, consumeMetrics_snd]
  exact sketches

omit [Zero V] [Add V] [DDSketch V K] in
/-- Each entry is shipped once, as a point or as a sketch. -/
theorem length_shipped (tags : SortedTags) (entries : List (Metric V K)) :
    (entries.filterMap (buildMetric tags)).length +
      (entries.filterMap (buildSketch tags : Metric V K → Option (Sketch B))).length =
        entries.length := by
  induction entries with
  | nil => rfl
  | cons entry rest ih =>
    have either := AggregatorService.buildSketch_isSome_eq (B := B) tags entry
    cases hp : buildMetric tags entry with
    | some point =>
      have no_sketch : (buildSketch tags entry : Option (Sketch B)) = none := by
        simpa [hp] using either
      rw [List.filterMap_cons_some hp, List.filterMap_cons_none no_sketch, List.length_cons,
        List.length_cons]
      omega
    | none =>
      obtain ⟨sketch, hs⟩ := Option.isSome_iff_exists.1 (by simpa [hp] using either)
      rw [List.filterMap_cons_none hp, List.filterMap_cons_some hs, List.length_cons,
        List.length_cons]
      omega

theorem separatesTypes_iff {sizes : Sizes V B} (json : sizes.JsonSucceeds)
    (metricsOrder distributionsOrder : TableOrder (Metric V K)) {tags : SortedTags}
    {maxContext : Nat} {start : Aggregator V K} (created : new tags maxContext = .ok start)
    (metrics : List (Metric V K)) :
    SeparatesTypes tags (start.insertAll metrics).2
        ((start.insertAll metrics).1.flush sizes metricsOrder distributionsOrder).1
        ((start.insertAll metrics).1.flush sizes metricsOrder distributionsOrder).2 ↔
      IdsSeparate (start.insertAll metrics).2 := by
  have last := insertAll_fst start metrics
  have shipped := flush_perm json (start.insertAll metrics).1 metricsOrder distributionsOrder
  have empty : start.tags = tags ∧ start.map = ∅ := by
    unfold new at created
    split at created <;> cases created
    exact ⟨rfl, rfl⟩
  generalize (start.insertAll metrics).2 = accepted at last ⊢
  have entries : (start.insertAll metrics).1.map.values.Perm
      (Grouping.folds Metric.id aggregateInto accepted) := by
    rw [last, empty.2]
    exact Grouping.values_table accepted
  have tags_eq : (start.insertAll metrics).1.tags = tags := by rw [last, empty.1]
  rw [tags_eq] at shipped
  obtain ⟨points, sketches⟩ := shipped
  have points := points.trans (entries.filterMap _)
  have sketches := sketches.trans (entries.filterMap _)
  constructor
  · -- as many entries are shipped as there are IDs, and as many as contexts and types
    rintro ⟨typedPoints, typedSketches⟩
    have counted := (points.symm.trans typedPoints).length_eq
    have counted' := (sketches.symm.trans typedSketches).length_eq
    rw [← length_folds_iff, ← length_shipped (B := B) tags, counted, counted', length_shipped]
  · intro separate
    have same := folds_perm_typedEntries separate
    exact ⟨points.trans (same.filterMap _), sketches.trans (same.filterMap _)⟩

/-- After any inserts, a flush ships for each context the sum of its counts, its last gauge and the
merge of its distributions, and nothing else, if and only if accepted metrics with the same ID have
the same context and the same type. -/
theorem flush_separatesTypes_iff (sizes : Sizes V B) (json : sizes.JsonSucceeds)
    (metricsOrder distributionsOrder : TableOrder (Metric V K)) (tags : SortedTags)
    (maxContext : Nat) (start : Aggregator V K) (created : new tags maxContext = .ok start)
    (metrics : List (Metric V K)) :
    SeparatesTypes tags (start.insertAll metrics).2
        ((start.insertAll metrics).1.flush sizes metricsOrder distributionsOrder).1
        ((start.insertAll metrics).1.flush sizes metricsOrder distributionsOrder).2 ↔
      IdsSeparate (start.insertAll metrics).2 :=
  separatesTypes_iff json metricsOrder distributionsOrder created metrics

end Aggregator

/-! ## A counter and a gauge of one name -/

/-- Two metrics of one ID meet in one entry. -/
theorem Aggregator.insertAll_pair [MetricHasher] [Zero V] [Add V] [DDSketch V K]
    {s : Aggregator V K} (empty : s.map = ∅) (room : 0 < s.maxContext) (m m' : Metric V K)
    (same : m.id = m'.id) :
    s.insertAll [m, m'] =
      ({ s with map := AList.insert m.id { m with value := m.value.aggregate m' } ∅ },
        [m, m']) := by
  let one : Aggregator V K := { s with map := AList.insert m.id m ∅ }
  have first : s.insert m = .ok one := by
    rw [insert_of_none (by rw [empty]; rfl) (by rw [empty]; exact room), empty]
  have found : one.map.lookup m'.id = some m := by
    rw [← same]
    exact AList.lookup_insert ∅
  have second : one.insert m' = .ok { s with
      map := AList.insert m.id { m with value := m.value.aggregate m' } ∅ } := by
    rw [insert_of_some found, ← same]
    simp only [one, AList.insert_insert]
  rw [insertAll, first]
  simp only [insertAll, second]

namespace Example

/-- A fresh aggregator with room for ten contexts. -/
def aggregator : @Aggregator fnvHasher Int (List Int) :=
  let := fnvHasher
  ⟨⟨[]⟩, ∅, MAX_ENTRIES_SINGLE_METRIC, MAX_SIZE_BYTES_SINGLE_METRIC, MAX_ENTRIES_SKETCH_METRIC,
    MAX_SIZE_SKETCH_METRIC, 10⟩

/-- Encoders that take any point and any sketch. -/
def sizes : Sizes Int (List Int) := ⟨fun _ => some 100, fun _ => 10⟩

def tableOrder : TableOrder (@Metric fnvHasher Int (List Int)) := ⟨id, fun _ => .refl _⟩

def requests (value : MetricValue Int (List Int)) : @Metric fnvHasher Int (List Int) :=
  @Metric.new fnvHasher _ _ 100 "requests" value none none

end Example

/-- Two counts of one context, and a gauge and a distribution under other names, are shipped as they
should be. -/
theorem Aggregator.flush_separatesTypes_counts :
    letI := fnvHasher
    letI := listSketch
    letI : ToDogsketch (List Int) (List Int) := ⟨id⟩
    let inserted := Example.aggregator.insertAll [Example.requests (.count 2),
      .new 100 "load" (.gauge 7) none none, .new 100 "latency" (.distribution [5]) none none,
      Example.requests (.count 3)]
    let shipped := inserted.1.flush Example.sizes Example.tableOrder Example.tableOrder
    inserted.2.map (·.name) = ["requests", "load", "latency", "requests"] ∧
      shipped.1.map (fun point => (point.metric, point.kind, point.point.value)) =
        [("requests", .count, 5), ("load", .gauge, 7)] ∧
      SeparatesTypes ⟨[]⟩ inserted.2 shipped.1 shipped.2 := by
  let _ := fnvHasher
  let _ := listSketch
  let _ : ToDogsketch (List Int) (List Int) := ⟨id⟩
  intro inserted shipped
  have separate : IdsSeparate inserted.2 := by decide +kernel
  exact ⟨by decide +kernel, by decide +kernel,
    (flush_separatesTypes_iff Example.sizes (fun _ => ⟨99, rfl⟩) Example.tableOrder
      Example.tableOrder ⟨[]⟩ 10 Example.aggregator rfl _).2 separate⟩

/-- A count of 2 and a gauge of 7 under one name, in one bucket, are shipped as a count of 9. -/
theorem Aggregator.not_separatesTypes_of_gauge :
    letI := fnvHasher
    letI := listSketch
    letI : ToDogsketch (List Int) (List Int) := ⟨id⟩
    let inserted :=
      Example.aggregator.insertAll [Example.requests (.count 2), Example.requests (.gauge 7)]
    let shipped := inserted.1.flush Example.sizes Example.tableOrder Example.tableOrder
    inserted.2 = [Example.requests (.count 2), Example.requests (.gauge 7)] ∧
    shipped.1.map (fun point => (point.metric, point.kind, point.point.value)) =
      [("requests", .count, 9)] ∧
    ¬ SeparatesTypes ⟨[]⟩ inserted.2 shipped.1 shipped.2 := by
  let _ := fnvHasher
  let _ := listSketch
  let _ : ToDogsketch (List Int) (List Int) := ⟨id⟩
  have inserted : Example.aggregator.insertAll _ = _ :=
    insertAll_pair rfl (by decide) (Example.requests (.count 2)) (Example.requests (.gauge 7)) rfl
  refine ⟨?_, ?_, ?_⟩
  · rw [inserted]
  · rw [inserted]
    rfl
  · intro separates
    have created : new ⟨[]⟩ 10 = .ok Example.aggregator := rfl
    have separate := (separatesTypes_iff (fun _ => ⟨99, rfl⟩) Example.tableOrder
      Example.tableOrder created _).1 separates
    rw [inserted] at separate
    have kinds := (separate (Example.requests (.count 2)) (by simp)
      (Example.requests (.gauge 7)) (by simp) rfl).2
    cases kinds

end ServerlessComponents.Dogstatsd
