import ServerlessComponents.Dogstatsd.AggregatorService
import ServerlessComponents.Dogstatsd.Shipping

/-!
# The batches of a flush

`consume_metrics` and `consume_distributions` pack what they extract, greedily and in the order of
extraction. The sizes that are packed are those of the single points and sketches.
-/
namespace ServerlessComponents.Dogstatsd

variable {V K B : Type}

/-- A sketch with content takes some bytes. -/
def Sizes.SketchesTakeSpace (sizes : Sizes V B) : Prop :=
  ∀ sketch : Sketch B, sketch.dogsketches ≠ [] → 0 < sizes.protobuf sketch

/-- The size a point is counted with, 0 when it cannot be serialised. -/
def Sizes.pointSize (sizes : Sizes V B) (point : MetricToShip V) : Nat := (sizes.json point).getD 0

/-! ## The sizes of bodies -/

/-- The number of bytes of a varint, seven bits each. -/
def varintSize (n : Nat) : Nat := Nat.log2 n / 7 + 1

namespace Sizes

/-- The size of a field of a message: its tag, its length and its content. -/
def fieldSize (sizes : Sizes V B) (sketch : Sketch B) : Nat :=
  1 + varintSize (sizes.protobuf sketch) + sizes.protobuf sketch

/-- The size of the JSON object of a series, with the commas between its points. -/
def seriesSize (sizes : Sizes V B) (points : List (MetricToShip V)) : Nat :=
  Packing.bytes sizes.pointSize points + (points.length - 1) + 13

/-- The size of a payload of sketches, each in a field of its own. -/
def payloadSize (sizes : Sizes V B) (sketches : List (Sketch B)) : Nat :=
  Packing.bytes sizes.fieldSize sketches

/-- How the encoders put points and sketches together: JSON as the object with the one key `series`
around an array, and protobuf as one repeated field. -/
structure Framing (sizes : Sizes V B) (enc : Encoders V B) : Prop where
  json : ∀ points, (∀ point ∈ points, (sizes.json point).isSome) →
    ∃ body, enc.seriesToVec ⟨points⟩ = .ok body ∧ body.length = sizes.seriesSize points
  protobuf : ∀ sketches,
    ∃ body, enc.sketchesToBytes ⟨sketches⟩ = .ok body ∧ body.length = sizes.payloadSize sketches

variable {sizes : Sizes V B}

theorem seriesSize_le_of_prefix {points more : List (MetricToShip V)} (before : points <+: more) :
    sizes.seriesSize points ≤ sizes.seriesSize more := by
  have counted : Packing.bytes sizes.pointSize points ≤ Packing.bytes sizes.pointSize more :=
    Packing.bytes_le_of_prefix before
  have separated := before.length_le
  unfold seriesSize
  omega

theorem seriesSize_eq_of_perm {points other : List (MetricToShip V)} (same : points.Perm other) :
    sizes.seriesSize points = sizes.seriesSize other := by
  rw [seriesSize, Packing.bytes_eq_of_perm same, same.length_eq, seriesSize]

end Sizes

section Flush

variable [MetricHasher]

/-! ## What a flush packs -/

theorem dogsketches_of_buildSketch [ToDogsketch K B] {base : SortedTags} {entry : Metric V K}
    {sketch : Sketch B} (built : buildSketch base entry = some sketch) :
    sketch.dogsketches ≠ [] := by
  obtain ⟨body, -, rfl⟩ := Option.map_eq_some_iff.1 built
  simp

omit [MetricHasher] in
theorem map_some_filterMap {α β : Type} {f : α → Option β} {l : List α}
    (total : ∀ a ∈ l, f a ≠ none) : (l.filterMap f).map some = l.map f := by
  induction l with
  | nil => rfl
  | cons a rest ih =>
    obtain ⟨b, image⟩ := Option.ne_none_iff_exists'.1 (total a List.mem_cons_self)
    simp [image, ih fun a mem => total a (List.mem_cons_of_mem _ mem)]

namespace Aggregator

/-- The points `consume_metrics` extracts, in the order of the table. -/
def extractedPoints (s : Aggregator V K) (order : TableOrder (Metric V K)) :
    List (MetricToShip V) :=
  (s.extractIf order fun m => !isDistribution m).1.filterMap (buildMetric s.tags)

/-- The sketches `consume_distributions` extracts, in the order of the table. -/
def extractedSketches [ToDogsketch K B] (s : Aggregator V K) (order : TableOrder (Metric V K)) :
    List (Sketch B) :=
  (s.extractIf order isDistribution).1.filterMap (buildSketch s.tags)

theorem packMetric_eq (s : Aggregator V K) (sizes : Sizes V B)
    (p : Packing.Packer (MetricToShip V)) (point : MetricToShip V) :
    s.packMetric sizes p point =
      if 0 < sizes.pointSize point then
        p.push s.maxBatchEntriesSingleMetric s.maxBatchBytesSingleMetric (sizes.pointSize point)
          point
      else p := rfl

/-- What is extracted are the entries of the table with the property, each once. -/
theorem extractIf_perm (s : Aggregator V K) (order : TableOrder (Metric V K))
    (p : Metric V K → Bool) : (s.extractIf order p).1.Perm (s.map.values.filter p) :=
  order.2 _

theorem mem_extractIf {s : Aggregator V K} {order : TableOrder (Metric V K)}
    {p : Metric V K → Bool} {entry : Metric V K} :
    entry ∈ (s.extractIf order p).1 ↔ entry ∈ s.map.values ∧ p entry = true := by
  rw [(s.extractIf_perm order p).mem_iff, List.mem_filter]

/-- Every entry that is no distribution gives a point. -/
theorem map_some_extractedPoints (s : Aggregator V K) (order : TableOrder (Metric V K)) :
    (s.extractedPoints order).map some =
      (s.extractIf order fun m => !isDistribution m).1.map (buildMetric s.tags) := by
  refine map_some_filterMap fun entry mem none => ?_
  have plain := (mem_extractIf.1 mem).2
  rw [(buildMetric_eq_none_iff ..).1 none] at plain
  cases plain

/-- Every distribution gives a sketch. -/
theorem map_some_extractedSketches [ToDogsketch K B] (s : Aggregator V K)
    (order : TableOrder (Metric V K)) :
    (s.extractedSketches order : List (Sketch B)).map some =
      (s.extractIf order isDistribution).1.map (buildSketch s.tags) := by
  refine map_some_filterMap fun entry mem none => ?_
  have distribution := (mem_extractIf.1 mem).2
  rw [(buildSketch_eq_none_iff ..).1 none] at distribution
  cases distribution

/-- The loop of `consume_metrics` packs the points that can be serialised. -/
theorem foldl_packMetric (s : Aggregator V K) (sizes : Sizes V B) (points : List (MetricToShip V))
    (p : Packing.Packer (MetricToShip V)) :
    points.foldl (s.packMetric sizes) p =
      (points.filter fun point => 0 < sizes.pointSize point).foldl (fun p point =>
        p.push s.maxBatchEntriesSingleMetric s.maxBatchBytesSingleMetric (sizes.pointSize point)
          point) p := by
  induction points generalizing p with
  | nil => rfl
  | cons point rest ih =>
    rw [List.foldl_cons, ih, packMetric_eq, List.filter_cons]
    by_cases serialised : 0 < sizes.pointSize point <;> simp [serialised]

theorem series_consumeMetrics (s : Aggregator V K) (order : TableOrder (Metric V K))
    (sizes : Sizes V B) :
    (s.consumeMetrics order sizes).1.map (·.series) =
      Packing.pack s.maxBatchEntriesSingleMetric s.maxBatchBytesSingleMetric sizes.pointSize
        ((s.extractedPoints order).filter fun point => 0 < sizes.pointSize point) := by
  rw [Packing.pack, ← foldl_packMetric, consumeMetrics]
  simp [extractedPoints, Function.comp_def]

theorem sketches_consumeDistributions_map [ToDogsketch K B] (s : Aggregator V K)
    (order : TableOrder (Metric V K)) (sizes : Sizes V B) :
    (s.consumeDistributions order sizes).1.map (·.sketches) =
      Packing.pack s.maxBatchEntriesSketchMetric s.maxBatchBytesSketchMetric sizes.protobuf
        (s.extractedSketches order) := by
  simp [consumeDistributions, extractedSketches, Function.comp_def]

theorem protobuf_pos_of_mem_extracted [ToDogsketch K B] {sizes : Sizes V B}
    (space : sizes.SketchesTakeSpace) {s : Aggregator V K} {order : TableOrder (Metric V K)}
    {sketch : Sketch B} (mem : sketch ∈ s.extractedSketches order) :
    0 < sizes.protobuf sketch := by
  obtain ⟨entry, -, built⟩ := List.mem_filterMap.1 mem
  exact space sketch (dogsketches_of_buildSketch built)

/-- A flush extracts the distributions of the table and what else it has, each entry once, and packs
what they give, in order, as greedily as the limits permit. -/
theorem consume_packed [ToDogsketch K B] {sizes : Sizes V B} (json : sizes.JsonSucceeds)
    (space : sizes.SketchesTakeSpace) (s : Aggregator V K) (order : TableOrder (Metric V K)) :
    (let entries := (s.extractIf order fun m => !isDistribution m).1
     entries.Perm (s.map.values.filter fun m => !isDistribution m) ∧
      (s.extractedPoints order).map some = entries.map (buildMetric s.tags) ∧
      (1 ≤ s.maxBatchEntriesSingleMetric →
        Packing.Packed s.maxBatchEntriesSingleMetric s.maxBatchBytesSingleMetric sizes.pointSize
          (s.extractedPoints order) ((s.consumeMetrics order sizes).1.map (·.series)))) ∧
    (let entries := (s.extractIf order isDistribution).1
     entries.Perm (s.map.values.filter isDistribution) ∧
      (s.extractedSketches order : List (Sketch B)).map some = entries.map (buildSketch s.tags) ∧
      (1 ≤ s.maxBatchEntriesSketchMetric →
        Packing.Packed s.maxBatchEntriesSketchMetric s.maxBatchBytesSketchMetric sizes.protobuf
          (s.extractedSketches order)
          ((s.consumeDistributions order sizes).1.map (·.sketches)))) := by
  have serialised (point : MetricToShip V) : 0 < sizes.pointSize point := by
    obtain ⟨n, size⟩ := json point
    simp [Sizes.pointSize, size]
  refine ⟨⟨extractIf_perm .., map_some_extractedPoints s order, fun room => ?_⟩,
    ⟨extractIf_perm .., map_some_extractedSketches s order, fun room => ?_⟩⟩
  · rw [series_consumeMetrics, List.filter_eq_self.2 fun point _ => by simpa using serialised point]
    exact Packing.packed_pack room fun point _ => serialised point
  · rw [sketches_consumeDistributions_map]
    exact Packing.packed_pack room fun sketch mem => protobuf_pos_of_mem_extracted space mem

omit [MetricHasher] in
/-- Two counts and a distribution, sized by their names and packed two to a batch. -/
theorem consume_packed_three :
    letI := fnvHasher
    letI := listSketch
    letI : ToDogsketch (List Int) (List Int) := ⟨id⟩
    let sizes : Sizes Int (List Int) :=
      ⟨fun point => some (point.metric.length + 103), fun sketch => sketch.metric.length + 51⟩
    let inOrder : TableOrder (Metric Int (List Int)) := ⟨id, fun _ => .refl _⟩
    let requests : Metric Int (List Int) := .new 10 "requests" (.count 2) none none
    let hits : Metric Int (List Int) := .new 10 "hits" (.count 1) none none
    let latency : Metric Int (List Int) := .new 10 "latency" (.distribution [7]) none none
    let s : Aggregator Int (List Int) :=
      ⟨⟨[]⟩, ((AList.singleton requests.id requests).insert hits.id hits).insert latency.id latency,
        2, 230, 2, 500, 10⟩
    Packing.Packed 2 230 sizes.pointSize (s.extractedPoints inOrder)
        ((s.consumeMetrics inOrder sizes).1.map (·.series)) ∧
      Packing.Packed 2 500 sizes.protobuf (s.extractedSketches inOrder)
        ((s.consumeDistributions inOrder sizes).1.map (·.sketches)) := by
  let _ := fnvHasher
  let _ := listSketch
  let _ : ToDogsketch (List Int) (List Int) := ⟨id⟩
  intro sizes inOrder requests hits latency s
  have json : sizes.JsonSucceeds := fun point => ⟨point.metric.length + 102, rfl⟩
  have space : sizes.SketchesTakeSpace := fun sketch _ => Nat.succ_pos (sketch.metric.length + 50)
  have packed := consume_packed json space s inOrder
  exact ⟨packed.1.2.2 (by decide), packed.2.2.2 (by decide)⟩

/-! ## The bodies of a flush -/

/-- The points of the table that can be serialised. -/
def points (s : Aggregator V K) (sizes : Sizes V B) : List (MetricToShip V) :=
  (s.map.values.filterMap (buildMetric s.tags)).filter fun point => 0 < sizes.pointSize point

/-- The sketches of the table. -/
def sketches [ToDogsketch K B] (s : Aggregator V K) : List (Sketch B) :=
  s.map.values.filterMap (buildSketch s.tags)

/-- A flush ships no body of several points or sketches above the limit, whatever the order of the
table. -/
def BodiesBounded [ToDogsketch K B] (s : Aggregator V K) (sizes : Sizes V B)
    (enc : Encoders V B) : Prop :=
  ∀ order, (∀ batch ∈ (s.consumeMetrics order sizes).1, 1 < batch.series.length →
      ∀ body, enc.seriesToVec batch = .ok body → body.length ≤ s.maxBatchBytesSingleMetric) ∧
    ∀ batch ∈ (s.consumeDistributions order sizes).1, 1 < batch.sketches.length →
      ∀ body, enc.sketchesToBytes batch = .ok body → body.length ≤ s.maxBatchBytesSketchMetric

omit [MetricHasher] in
/-- A selection of what a table gives comes first in some order of the table. -/
theorem exists_order_prefix {M α : Type} {extracted : List M} {f : M → Option α}
    {selection : List α} (sublist : selection.Sublist (extracted.filterMap f)) :
    ∃ order : TableOrder M, selection <+: (order.1 extracted).filterMap f := by
  classical
  obtain ⟨entries, entries_sublist, rfl⟩ := List.sublist_filterMap_iff.1 sublist
  obtain ⟨rest, same⟩ := entries_sublist.exists_perm_append
  refine ⟨⟨fun l => if l = extracted then entries ++ rest else l, ?_⟩, ?_⟩
  · intro l
    by_cases eq : l = extracted
    · simpa [eq] using same.symm
    · simp [eq]
  · simp only [if_true, List.filterMap_append]
    exact List.prefix_append ..

/-- What is shipped of the points of one order. -/
def serialisable (s : Aggregator V K) (sizes : Sizes V B) (order : TableOrder (Metric V K)) :
    List (MetricToShip V) :=
  (s.extractedPoints order).filter fun point => 0 < sizes.pointSize point

theorem serialisable_perm (s : Aggregator V K) (sizes : Sizes V B)
    (order : TableOrder (Metric V K)) : (s.serialisable sizes order).Perm (s.points sizes) := by
  refine List.Perm.filter _ (((order.2 _).filterMap _).trans (.of_eq ?_))
  refine filterMap_filter_of_none fun m distribution => ?_
  exact (buildMetric_eq_none_iff ..).2 (by simpa using distribution)

theorem extractedSketches_perm [ToDogsketch K B] (s : Aggregator V K)
    (order : TableOrder (Metric V K)) :
    (s.extractedSketches order : List (Sketch B)).Perm s.sketches := by
  refine ((order.2 _).filterMap _).trans (.of_eq ?_)
  exact filterMap_filter_of_none fun m plain => (buildSketch_eq_none_iff ..).2 plain

theorem exists_serialisable_prefix {s : Aggregator V K} {sizes : Sizes V B}
    {selection : List (MetricToShip V)} (sublist : selection.Sublist (s.points sizes)) :
    ∃ order, selection <+: s.serialisable sizes order := by
  have same : s.points sizes = (s.map.values.filter fun m => !isDistribution m).filterMap fun m =>
      (buildMetric s.tags m).filter fun point => 0 < sizes.pointSize point := by
    rw [points, List.filter_filterMap]
    refine (filterMap_filter_of_none fun m distribution => ?_).symm
    rw [(buildMetric_eq_none_iff ..).2 (by simpa using distribution)]
    rfl
  rw [same] at sublist
  obtain ⟨order, before⟩ := exists_order_prefix sublist
  refine ⟨order, ?_⟩
  rwa [serialisable, extractedPoints, List.filter_filterMap]

theorem exists_extractedSketches_prefix [ToDogsketch K B] {s : Aggregator V K}
    {selection : List (Sketch B)} (sublist : selection.Sublist s.sketches) :
    ∃ order, selection <+: s.extractedSketches order := by
  have same : (s.sketches : List (Sketch B)) =
      (s.map.values.filter isDistribution).filterMap (buildSketch s.tags) :=
    (filterMap_filter_of_none fun m plain => (buildSketch_eq_none_iff ..).2 plain).symm
  rw [same] at sublist
  exact exists_order_prefix sublist

section Framing

variable {sizes : Sizes V B} {enc : Encoders V B} (framing : sizes.Framing enc)

include framing

/-- A body of points has the size of its series. -/
theorem series_body_le_iff {s : Aggregator V K} {order : TableOrder (Metric V K)} {limit : Nat} :
    (∀ batch ∈ (s.consumeMetrics order sizes).1, 1 < batch.series.length →
      ∀ body, enc.seriesToVec batch = .ok body → body.length ≤ limit) ↔
    ∀ batch ∈ Packing.pack s.maxBatchEntriesSingleMetric s.maxBatchBytesSingleMetric
      sizes.pointSize (s.serialisable sizes order), 1 < batch.length →
        sizes.seriesSize batch ≤ limit := by
  rw [serialisable, ← series_consumeMetrics, List.forall_mem_map]
  refine forall₂_congr fun batch mem => imp_congr_right fun _ => ?_
  have serialised : ∀ point ∈ batch.series, (sizes.json point).isSome := by
    intro point mem_batch
    have packed : batch.series ∈ (s.consumeMetrics order sizes).1.map (·.series) :=
      List.mem_map_of_mem mem
    rw [series_consumeMetrics] at packed
    have positive := (List.mem_filter.1 ((Packing.sublist_of_mem_pack packed).subset mem_batch)).2
    unfold Sizes.pointSize at positive
    cases size : sizes.json point with
    | none => simp [size] at positive
    | some n => rfl
  obtain ⟨body, encoded, length⟩ := framing.json batch.series serialised
  have encoded : enc.seriesToVec batch = .ok body := encoded
  constructor
  · intro bounded
    exact length ▸ bounded body encoded
  · intro within other other_encoded
    obtain rfl : body = other := by simpa [encoded] using other_encoded
    exact length ▸ within

/-- A body of sketches has the size of its payload. -/
theorem payload_body_le_iff [ToDogsketch K B] {s : Aggregator V K}
    {order : TableOrder (Metric V K)} {limit : Nat} :
    (∀ batch ∈ (s.consumeDistributions order sizes).1, 1 < batch.sketches.length →
      ∀ body, enc.sketchesToBytes batch = .ok body → body.length ≤ limit) ↔
    ∀ batch ∈ Packing.pack s.maxBatchEntriesSketchMetric s.maxBatchBytesSketchMetric
      sizes.protobuf (s.extractedSketches order), 1 < batch.length →
        sizes.payloadSize batch ≤ limit := by
  rw [← sketches_consumeDistributions_map, List.forall_mem_map]
  refine forall₂_congr fun batch _ => imp_congr_right fun _ => ?_
  obtain ⟨body, encoded, length⟩ := framing.protobuf batch.sketches
  have encoded : enc.sketchesToBytes batch = .ok body := encoded
  constructor
  · intro bounded
    exact length ▸ bounded body encoded
  · intro within other other_encoded
    obtain rfl : body = other := by simpa [encoded] using other_encoded
    exact length ▸ within

/-- The bodies of points are bounded in every order exactly if the framing fits. -/
theorem series_bounded_iff (s : Aggregator V K) :
    (∀ order, ∀ batch ∈ (s.consumeMetrics order sizes).1, 1 < batch.series.length →
      ∀ body, enc.seriesToVec batch = .ok body → body.length ≤ s.maxBatchBytesSingleMetric) ↔
    Packing.FramingFits s.maxBatchEntriesSingleMetric s.maxBatchBytesSingleMetric sizes.pointSize
      sizes.seriesSize (s.points sizes) := by
  simp only [series_body_le_iff framing]
  rw [← Packing.forall_pack_iff ?_ sizes.seriesSize
    (fun l => ∃ order, l = s.serialisable sizes order) Sizes.seriesSize_le_of_prefix
    Sizes.seriesSize_eq_of_perm]
  · simp
  · rintro l ⟨order, rfl⟩
    exact serialisable_perm s sizes order
  · intro selection sublist
    obtain ⟨order, before⟩ := exists_serialisable_prefix sublist
    exact ⟨_, ⟨order, rfl⟩, before⟩
  · intro point mem
    simpa using (List.mem_filter.1 mem).2

/-- The bodies of sketches are bounded in every order exactly if the framing fits. -/
theorem payload_bounded_iff [ToDogsketch K B] (space : sizes.SketchesTakeSpace)
    (s : Aggregator V K) :
    (∀ order, ∀ batch ∈ (s.consumeDistributions order sizes).1, 1 < batch.sketches.length →
      ∀ body, enc.sketchesToBytes batch = .ok body → body.length ≤ s.maxBatchBytesSketchMetric) ↔
    Packing.FramingFits s.maxBatchEntriesSketchMetric s.maxBatchBytesSketchMetric sizes.protobuf
      sizes.payloadSize s.sketches := by
  simp only [payload_body_le_iff framing]
  rw [← Packing.forall_pack_iff ?_ sizes.payloadSize
    (fun l => ∃ order, l = s.extractedSketches order) Packing.bytes_le_of_prefix
    Packing.bytes_eq_of_perm]
  · simp
  · rintro l ⟨order, rfl⟩
    exact extractedSketches_perm s order
  · intro selection sublist
    obtain ⟨order, before⟩ := exists_extractedSketches_prefix sublist
    exact ⟨_, ⟨order, rfl⟩, before⟩
  · intro sketch mem
    obtain ⟨entry, -, built⟩ := List.mem_filterMap.1 mem
    exact space sketch (dogsketches_of_buildSketch built)

/-- The bodies of a flush are bounded exactly if no points or sketches that are within the limits
one by one exceed the limit on bytes with what frames them. -/
theorem bodiesBounded_iff [ToDogsketch K B] (space : sizes.SketchesTakeSpace)
    (s : Aggregator V K) :
    s.BodiesBounded sizes enc ↔
      Packing.FramingFits s.maxBatchEntriesSingleMetric s.maxBatchBytesSingleMetric
        sizes.pointSize sizes.seriesSize (s.points sizes) ∧
      Packing.FramingFits s.maxBatchEntriesSketchMetric s.maxBatchBytesSketchMetric
        sizes.protobuf sizes.payloadSize s.sketches := by
  unfold BodiesBounded
  rw [forall_and, series_bounded_iff framing, payload_bounded_iff framing space]

end Framing

end Aggregator

end Flush

/-! ## A full table of long names -/

section FullTable

/-- The hasher of a table whose contexts differ in their buckets only. -/
@[reducible]
def bucketHasher : MetricHasher where
  finish writes :=
    match writes with
    | [_, .i64 timestamp] => UInt64.ofNat timestamp.toNat
    | _ => 0

/-- The JSON of a count without tags whose name and value need no escapes. -/
def plainJson (point : MetricToShip Int) : List Char :=
  "\x7b\"metric\":\"".toList ++ point.metric.toList ++
    "\",\"points\":[\x7b\"timestamp\":".toList ++ Nat.toDigits 10 point.point.timestamp ++
    ",\"value\":".toList ++ (toString point.point.value).toList ++
    ".0\x7d],\"resources\":[],\"type\":0,\"tags\":[],\"metadata\":null\x7d".toList

/-- Points in plain JSON; there are no sketches, and twelve zeros stand for one. -/
def plainSizes : Sizes Int (List Int) :=
  ⟨fun point => some (plainJson point).length, fun _ => 12⟩

def plainEncoders : Encoders Int (List Int) where
  seriesToVec batch := .ok (("\x7b\"series\":[".toList ++
    [','].intercalate (batch.series.map plainJson) ++ "]\x7d".toList).map fun c =>
      UInt8.ofNat c.toNat)
  sketchesToBytes batch := .ok (batch.sketches.flatMap fun _ => [10, 12] ++ List.replicate 12 0)
  zstd _ _ := none

theorem length_intercalate_singleton {α : Type} (sep : α) (l : List (List α)) :
    ([sep].intercalate l).length = (l.map List.length).sum + (l.length - 1) := by
  induction l with
  | nil => rfl
  | cons a rest ih =>
    cases rest with
    | nil => simp [List.intercalate]
    | cons b rest =>
      rw [List.intercalate_cons_cons]
      simp at ih ⊢
      omega

theorem plainSizes_framing : plainSizes.Framing plainEncoders where
  json points _ := by
    have opening : "\x7b\"series\":[".toList.length = 11 := by decide
    have closing : "]\x7d".toList.length = 2 := by decide
    have counted : plainSizes.pointSize = fun point => (plainJson point).length := rfl
    refine ⟨_, rfl, ?_⟩
    rw [List.length_map, List.length_append, List.length_append, length_intercalate_singleton,
      opening, closing, Sizes.seriesSize, counted, Packing.bytes, List.map_map, List.length_map]
    simp only [Function.comp_def]
    omega
  protobuf sketches := by
    refine ⟨_, rfl, ?_⟩
    rw [List.length_flatMap, Sizes.payloadSize, Packing.bytes]
    refine congrArg _ (List.map_congr_left fun sketch _ => ?_)
    have framed : plainSizes.fieldSize sketch = 14 :=
      show 1 + varintSize 12 + 12 = 14 by decide
    simp [framed]

attribute [local instance] bucketHasher

/-- A count of a name in one of a thousand buckets. -/
def bucketCount (name : String) (i : Nat) : Metric Int (List Int) :=
  Metric.new 20000 name (.count 1) none (some (10000 + 10 * i))

section Buckets

variable {name : String} {i : Nat} (low : i < 1000)

/-- What is shipped for a bucket. -/
def bucketPoint (name : String) (i : Nat) : MetricToShip Int :=
  ⟨name, ⟨10000 + 10 * i, 1⟩, [], .count, [], none⟩

include low

theorem bucketCount_timestamp :
    (bucketCount name i).timestamp = 10000 + 10 * i := by
  show Metric.timestampToBucket 20000 (10000 + 10 * i) = 10000 + 10 * i
  rw [Metric.timestampToBucket, if_neg (by omega), Int.tdiv_eq_ediv_of_nonneg (by omega)]
  omega

theorem bucketCount_id :
    (bucketCount name i).id = UInt64.ofNat (10000 + 10 * i) := by
  rw [(bucketCount name i).id_eq, bucketCount_timestamp low]
  rfl

theorem buildMetric_bucketCount :
    buildMetric ⟨[]⟩ (bucketCount name i) = some (bucketPoint name i) := by
  have origin : findOrigin name ⟨[]⟩ = none := by
    have category : Origin.category ⟨[]⟩ = none := by decide
    simp [findOrigin, category]
  have timestamp : timestampAsU64 (bucketCount name i).timestamp = 10000 + 10 * i := by
    have wrapped := timestampAsU64_of_nonneg (t := 10000 + 10 * i) (by omega) (by omega)
    rw [bucketCount_timestamp low]
    omega
  show some (⟨name, ⟨timestampAsU64 (bucketCount name i).timestamp, 1⟩, [], .count, [],
    (findOrigin name ⟨[]⟩).map _⟩ : MetricToShip Int) = _
  rw [origin, timestamp]
  rfl

omit low in
/-- The JSON of a bucket is its name and its digits in a fixed frame. -/
theorem length_plainJson_bucketPoint :
    (plainJson (bucketPoint name i)).length =
      101 + (Nat.toDigits 10 (10000 + 10 * i)).length + name.length := by
  have opening : "\x7b\"metric\":\"".length = 11 := by decide
  have points : "\",\"points\":[\x7b\"timestamp\":".length = 25 := by decide
  have value : ",\"value\":".length = 9 ∧ (toString (1 : Int)).length = 1 := by decide
  have closing :
      ".0\x7d],\"resources\":[],\"type\":0,\"tags\":[],\"metadata\":null\x7d".length = 55 := by
    decide
  unfold plainJson bucketPoint
  simp only [List.length_append, String.length_toList, opening, points, value, closing]
  omega

theorem pointSize_bucketPoint (length : name.length = 5136) :
    plainSizes.pointSize (bucketPoint name i) = 5242 := by
  have digits : ∀ i < 1000, (Nat.toDigits 10 (10000 + 10 * i)).length = 5 := by decide +kernel
  have counted : plainSizes.pointSize (bucketPoint name i) =
      (plainJson (bucketPoint name i)).length := rfl
  rw [counted, length_plainJson_bucketPoint, digits i low, length]

end Buckets

theorem nodup_bucketCount_id (name : String) :
    ((List.range 1000).map fun i => (bucketCount name i).id).Nodup := by
  refine List.Nodup.map_on ?_ List.nodup_range
  intro i low j low' same
  rw [List.mem_range] at low low'
  rw [bucketCount_id low, bucketCount_id low'] at same
  have small {k : Nat} (low : k < 1000) : 10000 + 10 * k < 2 ^ 64 := by omega
  have same := congrArg UInt64.toNat same
  rw [UInt64.toNat_ofNat_of_lt' (small low), UInt64.toNat_ofNat_of_lt' (small low')] at same
  omega

/-- An aggregator with the limits of `new` whose table has a count in each of the buckets. -/
def fullAggregator (name : String) : Aggregator Int (List Int) where
  tags := ⟨[]⟩
  map := {
    entries := (List.range 1000).map fun i =>
      ⟨(bucketCount name i).id, bucketCount name i⟩
    nodupKeys := by
      rw [List.NodupKeys, List.keys, List.map_map]
      exact nodup_bucketCount_id name }
  maxBatchEntriesSingleMetric := MAX_ENTRIES_SINGLE_METRIC
  maxBatchBytesSingleMetric := MAX_SIZE_BYTES_SINGLE_METRIC
  maxBatchEntriesSketchMetric := MAX_ENTRIES_SKETCH_METRIC
  maxBatchBytesSketchMetric := MAX_SIZE_SKETCH_METRIC
  maxContext := 10240

theorem points_fullAggregator {name : String} (length : name.length = 5136) :
    (fullAggregator name).points plainSizes = (List.range 1000).map (bucketPoint name) := by
  have values : (fullAggregator name).map.values = (List.range 1000).map (bucketCount name) := by
    rw [fullAggregator, AList.values, List.map_map]
    rfl
  have built : ((List.range 1000).map (bucketCount name)).filterMap (buildMetric ⟨[]⟩) =
      (List.range 1000).map (bucketPoint name) := by
    rw [List.filterMap_map, ← List.filterMap_eq_map]
    exact List.filterMap_congr fun i low => buildMetric_bucketCount (List.mem_range.1 low)
  have untagged : (fullAggregator name).tags = ⟨[]⟩ := rfl
  rw [Aggregator.points, values, untagged, built]
  refine List.filter_eq_self.2 fun point mem => ?_
  obtain ⟨i, low, rfl⟩ := List.mem_map.1 mem
  rw [pointSize_bucketPoint (List.mem_range.1 low) length]
  rfl

theorem not_framingFits_fullAggregator {name : String} (length : name.length = 5136) :
    ¬Packing.FramingFits (fullAggregator name).maxBatchEntriesSingleMetric
      (fullAggregator name).maxBatchBytesSingleMetric plainSizes.pointSize plainSizes.seriesSize
      ((fullAggregator name).points plainSizes) := by
  intro fits
  rw [points_fullAggregator length] at fits
  have bytes : Packing.bytes plainSizes.pointSize ((List.range 1000).map (bucketPoint name)) =
      5242000 := by
    have sizes : ∀ i ∈ List.range 1000, (plainSizes.pointSize ∘ bucketPoint name) i = 5242 :=
      fun i low => pointSize_bucketPoint (List.mem_range.1 low) length
    rw [Packing.bytes, List.map_map, List.map_congr_left sizes, List.map_const',
      List.sum_replicate_nat, List.length_range]
  have entries : (fullAggregator name).maxBatchEntriesSingleMetric = 1000 := rfl
  have limit : (fullAggregator name).maxBatchBytesSingleMetric = 5242880 := rfl
  have framed := fits _ (.refl _) (by simp) (by simp [entries]) (by simp [bytes, limit])
  simp [Sizes.seriesSize, bytes, limit] at framed

/-- A thousand points of 5242 bytes each are shipped in one body above the limit. -/
theorem bodies_not_bounded :
    letI : ToDogsketch (List Int) (List Int) := ⟨id⟩
    ¬(fullAggregator (.ofList (List.replicate 5136 'a'))).BodiesBounded plainSizes
      plainEncoders := by
  let _ : ToDogsketch (List Int) (List Int) := ⟨id⟩
  intro bounded
  have fits := (Aggregator.series_bounded_iff plainSizes_framing _).1 fun order => (bounded order).1
  refine not_framingFits_fullAggregator ?_ fits
  rw [← String.length_toList, String.toList_ofList, List.length_replicate]

/-- Two counts that fit into one body. -/
theorem bodiesBounded_two :
    letI : ToDogsketch (List Int) (List Int) := ⟨id⟩
    let counts := (AList.singleton (bucketCount "requests" 0).id (bucketCount "requests" 0)).insert
      (bucketCount "requests" 1).id (bucketCount "requests" 1)
    ({ fullAggregator "requests" with map := counts } : Aggregator Int (List Int)).BodiesBounded
      plainSizes plainEncoders := by
  let _ : ToDogsketch (List Int) (List Int) := ⟨id⟩
  intro counts
  have space : plainSizes.SketchesTakeSpace := fun _ _ => Nat.succ_pos 11
  refine (Aggregator.bodiesBounded_iff plainSizes_framing space _).2 ⟨?_, ?_⟩
  · intro selection sublist several _ _
    rw [sublist.eq_of_length_le several]
    decide +kernel
  · intro selection sublist several _ _
    exact absurd (several.trans_le sublist.length_le) (Nat.not_lt_zero 1)

end FullTable

end ServerlessComponents.Dogstatsd
