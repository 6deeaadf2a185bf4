import Mathlib.Algebra.BigOperators.Group.List.Basic
import ServerlessComponents.Dogstatsd.Aggregator

/-!
# The entries that stand for a list of metrics

What aggregation is for: the metrics of a context are summed (counts), overwritten by the last
(gauges) or merged (distributions). The entry the aggregator folds them into says just that, when
the metrics of the context have one type and their IDs tell the contexts apart.
-/
namespace ServerlessComponents.Dogstatsd

variable {V K : Type}

section Reference

variable [Zero V] [Add V] [DDSketch V K]

/-- The value that stands for values of one type. -/
def reference (values : List (MetricValue V K)) : Option (MetricValue V K) :=
  match values.head? with
  | none => none
  | some (.count _) => some (.count (values.filterMap MetricValue.getValue).sum)
  | some (.gauge _) => (values.filterMap MetricValue.getValue).getLast?.map .gauge
  | some (.distribution _) =>
    match values.filterMap MetricValue.getSketch with
    | [] => none
    | sketch :: rest => some (.distribution (rest.foldl DDSketch.merge sketch))

end Reference

/-- The values are of one type. -/
def SameType (values : List (MetricValue V K)) : Prop :=
  ∀ v ∈ values, ∀ w ∈ values, kindOf v = kindOf w

variable [MetricHasher]

section Entries

variable [Zero V] [Add V] [DDSketch V K]

/-- The entry that metrics of one context are folded into. -/
def entryOf (metrics : List (Metric V K)) : Option (Metric V K) :=
  Grouping.fold aggregateInto metrics

/-- The entries that stand for a list of metrics, one for each ID. -/
def entriesOf (metrics : List (Metric V K)) : List (Metric V K) :=
  Grouping.folds Metric.id aggregateInto metrics

theorem entryOf_append (metrics : List (Metric V K)) (metric : Metric V K) :
    entryOf (metrics ++ [metric]) = some (aggregateInto (entryOf metrics) metric) :=
  Grouping.fold_append ..

/-- Folding changes the value of the first metric and nothing else. -/
theorem exists_entryOf {metrics : List (Metric V K)} {first : Metric V K}
    (h : metrics.head? = some first) :
    ∃ entry, entryOf metrics = some entry ∧ entry.context = first.context ∧
      entry.id = first.id := by
  induction metrics using List.reverseRecOn with
  | nil => cases h
  | append_singleton metrics metric ih =>
    rw [entryOf_append]
    rcases metrics with _ | ⟨a, rest⟩
    · cases h
      exact ⟨_, rfl, rfl, rfl⟩
    · obtain ⟨entry, he, context, id⟩ := ih h
      rw [he]
      exact ⟨_, rfl, context, id⟩

end Entries

section Exact

variable [AddMonoid V] [DDSketch V K]

/-- One more value of the same type. -/
theorem reference_append {values : List (MetricValue V K)} {value : MetricValue V K}
    (h : reference values = some value) {metric : Metric V K}
    (same : SameType (values ++ [metric.value])) :
    reference (values ++ [metric.value]) = some (value.aggregate metric) := by
  rcases values with _ | ⟨first, rest⟩
  · cases h
  have kind : kindOf first = kindOf metric.value := same _ (by simp) _ (by simp)
  cases first with
  | count v =>
    cases hm : metric.value with
    | count w =>
      simp only [reference, List.head?_cons, Option.some.injEq] at h
      subst h
      simp [reference, MetricValue.aggregate, MetricValue.getValue, hm, add_assoc]
    | gauge w => simp [hm, kindOf] at kind
    | distribution k => simp [hm, kindOf] at kind
  | gauge v =>
    cases hm : metric.value with
    | count w => simp [hm, kindOf] at kind
    | gauge w =>
      obtain ⟨last, -, rfl⟩ : ∃ last, _ ∧ MetricValue.gauge last = value := by
        simpa [reference] using h
      have last : (v :: rest.filterMap MetricValue.getValue ++ [w]).getLast? = some w :=
        List.getLast?_concat
      simp only [reference, List.cons_append, List.head?_cons, List.filterMap_cons,
        List.filterMap_append, List.filterMap_nil, MetricValue.getValue]
      simp only [List.cons_append] at last
      simp [last, MetricValue.aggregate, MetricValue.getValue, hm]
    | distribution k => simp [hm, kindOf] at kind
  | distribution k =>
    cases hm : metric.value with
    | count w => simp [hm, kindOf] at kind
    | gauge w => simp [hm, kindOf] at kind
    | distribution k' =>
      simp only [reference, List.head?_cons, List.filterMap_cons, MetricValue.getSketch,
        Option.some.injEq] at h
      subst h
      simp [reference, MetricValue.aggregate, MetricValue.getSketch, hm]

/-- The entry's value is the reference value of the metrics folded into it. -/
theorem reference_of_entryOf {metrics : List (Metric V K)}
    (same : SameType (metrics.map (·.value))) {entry : Metric V K}
    (h : entryOf metrics = some entry) :
    reference (metrics.map (·.value)) = some entry.value := by
  induction metrics using List.reverseRecOn generalizing entry with
  | nil => cases h
  | append_singleton metrics metric ih =>
    rw [entryOf_append] at h
    cases h
    rw [List.map_append] at same ⊢
    cases he : entryOf metrics with
    | none =>
      rw [Grouping.fold_eq_none_iff.1 he]
      cases hm : metric.value <;>
        simp [reference, aggregateInto, hm, MetricValue.getValue, MetricValue.getSketch]
    | some entry =>
      have before : SameType (metrics.map (·.value)) := fun v hv w hw =>
        same v (List.mem_append_left _ hv) w (List.mem_append_left _ hw)
      exact reference_append (ih before he) same

end Exact

/-! ## Entries and contexts -/

/-- The IDs of the metrics tell their contexts apart. -/
def IdsInjective (metrics : List (Metric V K)) : Prop :=
  ∀ m ∈ metrics, ∀ m' ∈ metrics, m.id = m'.id → m.context = m'.context

instance (metrics : List (Metric V K)) : Decidable (IdsInjective metrics) :=
  inferInstanceAs (Decidable (∀ m ∈ metrics, ∀ m' ∈ metrics, m.id = m'.id → m.context = m'.context))

/-- The metrics of a context. -/
def ofContext (metrics : List (Metric V K)) (context : String × Option SortedTags × Int) :
    List (Metric V K) :=
  metrics.filter fun m => m.context = context

theorem group_eq_ofContext {metrics : List (Metric V K)} (injective : IdsInjective metrics)
    {metric : Metric V K} (mem : metric ∈ metrics) :
    Grouping.group Metric.id metrics metric.id = ofContext metrics metric.context := by
  apply List.filter_congr
  intro m hm
  have same : m.id = metric.id ↔ m.context = metric.context :=
    ⟨injective m hm metric mem, Metric.id_eq_of_context_eq⟩
  simp only [same]

theorem mem_entriesOf_iff [Zero V] [Add V] [DDSketch V K] {metrics : List (Metric V K)}
    {entry : Metric V K} :
    entry ∈ entriesOf metrics ↔
      entryOf (Grouping.group Metric.id metrics entry.id) = some entry := by
  unfold entriesOf Grouping.folds
  rw [List.mem_filterMap]
  constructor
  · rintro ⟨id, -, h⟩
    change entryOf _ = _ at h
    -- the group has a first metric, whose ID the entry keeps
    cases hg : (Grouping.group Metric.id metrics id).head? with
    | none =>
      rw [List.head?_eq_none_iff.1 hg] at h
      cases h
    | some first =>
      obtain ⟨entry', he, -, hid⟩ := exists_entryOf hg
      obtain rfl : entry' = entry := Option.some.inj (he.symm.trans h)
      have : first.id = id := by
        simpa using (List.mem_filter.1 (List.mem_of_head? hg)).2
      rwa [hid, this]
  · intro h
    refine ⟨entry.id, ?_, h⟩
    apply List.mem_dedup.2
    apply (Grouping.mem_table_iff aggregateInto).1
    rw [← AList.lookup_isSome, Grouping.lookup_table]
    exact Option.isSome_iff_exists.2 ⟨entry, h⟩

/-- One entry stands for each context, with the reference value of its metrics. -/
theorem exists_unique_entry [AddMonoid V] [DDSketch V K] {metrics : List (Metric V K)}
    (injective : IdsInjective metrics) {metric : Metric V K} (mem : metric ∈ metrics) :
    ∃ entry ∈ entriesOf metrics, entry.context = metric.context ∧
      (∀ other ∈ entriesOf metrics, other.context = metric.context → other = entry) ∧
      (SameType ((ofContext metrics metric.context).map (·.value)) →
        reference ((ofContext metrics metric.context).map (·.value)) = some entry.value) := by
  rw [← group_eq_ofContext injective mem]
  have member : metric ∈ Grouping.group Metric.id metrics metric.id :=
    List.mem_filter.2 ⟨mem, by simp⟩
  obtain ⟨first, hfirst⟩ : ∃ first,
      (Grouping.group Metric.id metrics metric.id).head? = some first := by
    cases hg : (Grouping.group Metric.id metrics metric.id).head? with
    | none => rw [List.head?_eq_none_iff.1 hg] at member; cases member
    | some first => exact ⟨first, rfl⟩
  obtain ⟨entry, he, context, id⟩ := exists_entryOf hfirst
  have hfirst := List.mem_filter.1 (List.mem_of_head? hfirst)
  have first_id : first.id = metric.id := by simpa using hfirst.2
  refine ⟨entry, ?_, ?_, ?_, ?_⟩
  · rwa [mem_entriesOf_iff, id, first_id]
  · rw [context]
    exact injective first hfirst.1 metric mem first_id
  · intro other hother same
    rw [mem_entriesOf_iff, Metric.id_eq_of_context_eq same, he] at hother
    exact (Option.some.inj hother).symm
  · intro same
    exact reference_of_entryOf same he

end ServerlessComponents.Dogstatsd
