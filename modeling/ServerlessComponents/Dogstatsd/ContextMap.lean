import ServerlessComponents.Library.HashTable
import ServerlessComponents.Library.Runs
import ServerlessComponents.Dogstatsd.AggregatorService
import ServerlessComponents.Dogstatsd.Parse

/-!
# The context map

The aggregator's entries lie in a low-level hash table: `insert` gives it the ID of the incoming
metric as hash, compares the IDs the entries store, and files the entries of a growing table under
IDs computed anew. These three agree in every run on metrics that were parsed, built or renamed, so
the table is the map from IDs to entries that `Aggregator` is.
-/
namespace ServerlessComponents.Dogstatsd

section Map

variable [MetricHasher] {V K : Type}

/-- What the source makes of a metric before it is inserted. -/
inductive Built [DoubleText V] [DDSketch V K] : RawMetric V K → Prop
  | parsed {now clock input metric} (h : parse now clock input = .ok metric) : Built metric
  | new (now clock name value tags timestamp) :
      Built (RawMetric.new now clock name value tags timestamp)
  | renamed {metric} (ns : String) (h : Built metric) : Built (metric.prependNamespace ns)

/-- However a metric was made, it stores the ID of its context. -/
theorem Built.hasOwnId [DoubleText V] [DDSketch V K] {metric : RawMetric V K} (h : Built metric) :
    metric.HasOwnId := by
  cases h with
  | parsed h => exact (parse_ok h).2
  | new => rfl
  | renamed => rfl

/-- The hash table of an aggregator and its limit. -/
structure ContextMap (V K : Type) where
  table : List (HashTable.Slot (RawMetric V K))
  maxContext : Nat

/-- How the table lies in memory during one call: what a probe meets, and whether it grows. -/
structure Layout where
  probe : HashTable.Probe
  grows : Bool

namespace ContextMap

def new (maxContext : Nat) : Except CreationError (ContextMap V K) :=
  if MAX_CONTEXTS < maxContext then .error .contexts else .ok ⟨[], maxContext⟩

/-- The entries. -/
def entries (s : ContextMap V K) : List (RawMetric V K) := HashTable.items s.table

/-- The closures `|m| m.id == id` and `|m| metric::id(m.name, &m.tags, m.timestamp)`. -/
def sameId (id : UInt64) (m : RawMetric V K) : Bool := m.id == id

section Insert

variable [Zero V] [Add V] [DDSketch V K]

/-- `entry.get_mut().value.aggregate(metric)` -/
def aggregateEntry (metric entry : RawMetric V K) : RawMetric V K :=
  { entry with value := entry.value.aggregate metric.sealed }

/-- `Aggregator::insert`, on the table. The table makes room before the limit is looked at. -/
def insert (s : ContextMap V K) (layout : Layout) (metric : RawMetric V K) :
    Except InsertError Unit × ContextMap V K :=
  let id := metric.contextId
  let len := s.table.length
  let table := HashTable.reserve layout.grows RawMetric.contextId s.table
  match HashTable.find layout.probe id (sameId id) table with
  | none =>
    if s.maxContext ≤ len then (.error .overflow, { s with table })
    else (.ok (), { s with table := table ++ [⟨id, metric⟩] })
  | some _ =>
    (.ok (), { s with
      table := HashTable.modify layout.probe id (sameId id) (aggregateEntry metric) table })

end Insert

def isDistribution (metric : RawMetric V K) : Bool := Aggregator.isDistribution metric.sealed

/-- `extract_if`, which leaves the other entries where they are. -/
def extractIf (s : ContextMap V K) (p : RawMetric V K → Bool) :
    List (RawMetric V K) × ContextMap V K :=
  (s.entries.filter p, { s with table := s.table.filter fun slot => !p slot.item })

/-- The calls a run is made of. -/
inductive Call (V K : Type) where
  | insert (layout : Layout) (metric : RawMetric V K)
  | consumeMetrics
  | consumeDistributions
  | clear

/-- The map after a call; every call is allowed. -/
def step [Zero V] [Add V] [DDSketch V K] (s : ContextMap V K) : Call V K → Option (ContextMap V K)
  | .insert layout metric => some (s.insert layout metric).2
  | .consumeMetrics => some (s.extractIf fun m => !isDistribution m).2
  | .consumeDistributions => some (s.extractIf isDistribution).2
  | .clear => some { s with table := [] }

/-! ## The invariant -/

/-- Entries store the IDs of their contexts and are filed under them, each once, within the
limit. -/
structure Consistent (s : ContextMap V K) : Prop where
  own : ∀ m ∈ s.entries, m.HasOwnId
  keyed : HashTable.KeyedBy RawMetric.id s.table
  bounded : s.table.length ≤ s.maxContext

theorem consistent_new {maxContext : Nat} {s : ContextMap V K} (h : new maxContext = .ok s) :
    s.Consistent ∧ s.maxContext = maxContext ∧ maxContext ≤ MAX_CONTEXTS := by
  unfold new at h
  split at h
  · cases h
  · rename_i within
    cases h
    exact ⟨⟨nofun, .nil, Nat.zero_le _⟩, rfl, Nat.not_lt.1 within⟩

/-- The table files entries anew under the hashes they have. -/
theorem reserve_eq {s : ContextMap V K} (h : s.Consistent) (grows : Bool) :
    HashTable.reserve grows RawMetric.contextId s.table = s.table :=
  HashTable.reserve_eq h.keyed (fun m hm => (h.own m hm).symm) grows

/-- The entry of an ID, found however the table lies in memory. -/
theorem find_eq {s : ContextMap V K} (h : s.Consistent) (probe : HashTable.Probe) (id : UInt64) :
    HashTable.find probe id (sameId id) s.table = s.entries.find? (sameId id) :=
  HashTable.find_eq h.keyed probe id

theorem consistent_extractIf {s : ContextMap V K} (h : s.Consistent) (p : RawMetric V K → Bool) :
    (s.extractIf p).2.Consistent := by
  refine ⟨?_, h.keyed.filter fun m => !p m, ?_⟩
  · intro m hm
    obtain ⟨slot, hslot, rfl⟩ := List.mem_map.1 hm
    exact h.own _ (List.mem_map_of_mem (List.mem_of_mem_filter hslot))
  · exact (List.length_filter_le _ _).trans h.bounded

section Insert

variable [Zero V] [Add V] [DDSketch V K] {s : ContextMap V K} {metric : RawMetric V K}

/-- Everything an insert can do. -/
theorem insert_cases (h : s.Consistent) (layout : Layout) (metric : RawMetric V K) :
    (s.entries.find? (sameId metric.contextId) = none ∧ s.maxContext ≤ s.table.length ∧
      s.insert layout metric = (.error .overflow, s)) ∨
    (s.entries.find? (sameId metric.contextId) = none ∧ s.table.length < s.maxContext ∧
      s.insert layout metric =
        (.ok (), { s with table := s.table ++ [⟨metric.contextId, metric⟩] })) ∨
    (∃ entry, s.entries.find? (sameId metric.contextId) = some entry ∧
      s.insert layout metric = (.ok (), { s with
        table := HashTable.modify layout.probe metric.contextId (sameId metric.contextId)
          (aggregateEntry metric) s.table })) := by
  unfold insert
  simp only [reserve_eq h, find_eq h]
  cases found : s.entries.find? (sameId metric.contextId) with
  | some entry => exact .inr (.inr ⟨entry, rfl, rfl⟩)
  | none =>
    by_cases full : s.maxContext ≤ s.table.length
    · exact .inl ⟨rfl, full, if_pos full⟩
    · exact .inr (.inl ⟨rfl, Nat.not_le.1 full, if_neg full⟩)

/-- An insert of a metric with its own ID keeps the invariant. -/
theorem consistent_insert (h : s.Consistent) (layout : Layout) (own : metric.HasOwnId) :
    (s.insert layout metric).2.Consistent := by
  rcases insert_cases h layout metric with ⟨_, _, result⟩ | ⟨vacant, room, result⟩ |
    ⟨entry, _, result⟩ <;> rw [result]
  · exact h
  · refine ⟨?_, ?_, by simpa using Nat.succ_le_of_lt room⟩
    · intro m hm
      simp only [entries, HashTable.items, List.map_append, List.map_singleton, List.mem_append,
        List.mem_singleton] at hm
      rcases hm with hm | rfl
      · exact h.own m hm
      · exact own
    · rw [← own]
      apply h.keyed.push
      intro m hm same
      rw [← own] at vacant
      simpa [sameId, same] using List.find?_eq_none.1 vacant m hm
  · refine ⟨?_, h.keyed.modify fun _ => rfl, by simpa [HashTable.length_modify] using h.bounded⟩
    intro m hm
    obtain ⟨slot, hslot, rfl⟩ := List.mem_map.1 hm
    rcases HashTable.mem_modify hslot with hold | ⟨old, hold, rfl⟩
    · exact h.own _ (List.mem_map_of_mem hold)
    · have own_old : old.item.HasOwnId := h.own _ (List.mem_map_of_mem hold)
      exact own_old

theorem insert_error (h : s.Consistent) {layout : Layout} {e : InsertError}
    (failed : (s.insert layout metric).1 = .error e) : (s.insert layout metric).2 = s := by
  rcases insert_cases h layout metric with ⟨_, _, result⟩ | ⟨_, _, result⟩ | ⟨_, _, result⟩
  · rw [result]
  · rw [result] at failed
    cases failed
  · rw [result] at failed
    cases failed

/-- A context that is present is updated in place, also in a full map. -/
theorem insert_present (h : s.Consistent) (layout : Layout) {entry : RawMetric V K}
    (mem : entry ∈ s.entries) (same : entry.contextId = metric.contextId) :
    (s.insert layout metric).1 = .ok () ∧ ∃ before after, s.entries = before ++ entry :: after ∧
      (s.insert layout metric).2.entries = before ++ aggregateEntry metric entry :: after := by
  have id : entry.id = metric.contextId := (h.own entry mem).trans same
  have hit : sameId metric.contextId entry = true := by
    rw [sameId, id, beq_self_eq_true]
  rcases insert_cases h layout metric with ⟨vacant, _⟩ | ⟨vacant, _⟩ | ⟨other, found, result⟩
  · exact absurd hit (List.find?_eq_none.1 vacant entry mem)
  · exact absurd hit (List.find?_eq_none.1 vacant entry mem)
  · have other_id : other.id = metric.contextId := by simpa [sameId] using List.find?_some found
    obtain rfl : other = entry := List.inj_on_of_nodup_map h.keyed.nodup
      (List.mem_of_find?_eq_some found) mem (other_id.trans id.symm)
    rw [← find_eq h layout.probe] at found
    rw [result]
    exact ⟨rfl, HashTable.exists_modify_of_find found (aggregateEntry metric)⟩

/-- A new context becomes an entry while there is room, and is refused in a full map. -/
theorem insert_absent (h : s.Consistent) (layout : Layout)
    (absent : ∀ entry ∈ s.entries, entry.id ≠ metric.contextId) :
    if s.entries.length < s.maxContext then
      (s.insert layout metric).1 = .ok () ∧
        (s.insert layout metric).2.entries = s.entries ++ [metric]
    else s.insert layout metric = (.error .overflow, s) := by
  have length : s.entries.length = s.table.length := List.length_map _
  rcases insert_cases h layout metric with ⟨_, full, result⟩ | ⟨_, room, result⟩ |
    ⟨entry, found, _⟩
  · rw [if_neg (by omega), result]
  · rw [if_pos (by omega), result]
    exact ⟨rfl, by simp [entries, HashTable.items]⟩
  · have same : entry.id = metric.contextId := by simpa [sameId] using List.find?_some found
    exact absurd same (absent entry (List.mem_of_find?_eq_some found))

end Insert

/-! ## The map it stands for -/

/-- The aggregator's map has the entries of the table. -/
structure Represents (s : ContextMap V K) (agg : Aggregator V K) : Prop where
  consistent : s.Consistent
  maxContext : agg.maxContext = s.maxContext
  entries : s.entries.Perm (agg.map.values.map Metric.raw)
  keyed : ∀ id entry, agg.map.lookup id = some entry → entry.id = id

theorem Represents.lookup {s : ContextMap V K} {agg : Aggregator V K} (h : Represents s agg)
    (id : UInt64) : s.entries.find? (sameId id) = (agg.map.lookup id).map Metric.raw := by
  cases found : s.entries.find? (sameId id) with
  | some m =>
    have mem := h.entries.mem_iff.1 (List.mem_of_find?_eq_some found)
    obtain ⟨entry, hentry, rfl⟩ := List.mem_map.1 mem
    obtain ⟨e, he, rfl⟩ := List.mem_map.1 hentry
    have looked := AList.lookup_of_mem_entries he
    have same : e.2.raw.id = id := by simpa [sameId] using List.find?_some found
    rw [h.keyed _ _ looked |>.symm.trans same] at looked
    rw [looked]
    rfl
  | none =>
    cases looked : agg.map.lookup id with
    | none => rfl
    | some entry =>
      have mem : entry.raw ∈ s.entries := by
        refine h.entries.mem_iff.2 (List.mem_map_of_mem ?_)
        exact List.mem_map.2 ⟨⟨id, entry⟩, AList.mem_lookup_iff.1 looked, rfl⟩
      have other : entry.raw.id ≠ id := by simpa [sameId] using List.find?_eq_none.1 found _ mem
      exact absurd (h.keyed id entry looked) other

theorem represents_new {maxContext : Nat} (tags : SortedTags) {s : ContextMap V K}
    (h : new maxContext = .ok s) :
    ∃ agg, Aggregator.new tags maxContext = .ok agg ∧ Represents s agg := by
  obtain ⟨consistent, limit, within⟩ := consistent_new h
  have empty : s.table = [] := by
    unfold new at h
    split at h <;> cases h
    rfl
  refine ⟨_, if_neg (Nat.not_lt.2 within), consistent, limit.symm, ?_, ?_⟩
  · simp [entries, HashTable.items, empty, AList.values]
  · intro id entry looked
    cases looked

variable [Zero V] [Add V] [DDSketch V K] {s : ContextMap V K} {agg : Aggregator V K}

omit [Zero V] [Add V] [DDSketch V K] in
theorem keyed_insert {map : AList fun _ : UInt64 => Metric V K}
    (keyed : ∀ id entry, map.lookup id = some entry → entry.id = id) {key : UInt64}
    {entry : Metric V K} (same : entry.id = key) :
    ∀ id e, (map.insert key entry).lookup id = some e → e.id = id := by
  intro id e looked
  by_cases h : id = key
  · subst h
    rw [AList.lookup_insert] at looked
    rw [← Option.some.inj looked, same]
  · rw [AList.lookup_insert_ne h] at looked
    exact keyed id e looked

omit [Zero V] [Add V] [DDSketch V K] in
/-- A new context, filed in the table and in the map. -/
theorem Represents.push (h : Represents s agg) {metric : RawMetric V K}
    (own : metric.HasOwnId) (absent : agg.map.lookup metric.sealed.id = none)
    (consistent : Consistent { s with table := s.table ++ [⟨metric.contextId, metric⟩] }) :
    Represents { s with table := s.table ++ [⟨metric.contextId, metric⟩] }
      { agg with map := agg.map.insert metric.sealed.id metric.sealed } := by
  refine ⟨consistent, h.maxContext, ?_, keyed_insert h.keyed rfl⟩
  rw [AList.values_insert_of_lookup_eq_none absent, List.map_cons, RawMetric.raw_sealed own]
  simp only [ContextMap.entries, HashTable.items, List.map_append, List.map_singleton]
  exact (List.perm_append_singleton metric _).trans (h.entries.cons metric)

/-- A context that is present, updated in the table and in the map. -/
theorem Represents.update (h : Represents s agg) (probe : HashTable.Probe)
    {metric : RawMetric V K} {e : Metric V K} (present : agg.map.lookup metric.sealed.id = some e)
    {table : List (HashTable.Slot (RawMetric V K))}
    (modified : table = HashTable.modify probe metric.contextId (sameId metric.contextId)
      (aggregateEntry metric) s.table) (consistent : Consistent { s with table }) :
    Represents { s with table } { agg with
      map := agg.map.insert metric.sealed.id
        { e with value := e.value.aggregate metric.sealed } } := by
  have same_id : e.id = metric.sealed.id := h.keyed _ _ present
  refine ⟨consistent, h.maxContext, ?_, keyed_insert h.keyed same_id⟩
  obtain ⟨rest, values, inserted⟩ := AList.values_insert_of_lookup present
  have hit : HashTable.find probe metric.contextId (sameId metric.contextId) s.table =
      some e.raw := by
    rw [find_eq h.consistent, h.lookup]
    exact congrArg (Option.map Metric.raw) present
  obtain ⟨before, after, split, changed⟩ :=
    HashTable.exists_modify_of_find hit (aggregateEntry metric)
  have others : (before ++ after).Perm (rest.map Metric.raw) := by
    have entries : (before ++ e.raw :: after).Perm (agg.map.values.map Metric.raw) := by
      rw [← split]
      exact h.entries
    exact (List.perm_middle.symm.trans (entries.trans (values.map Metric.raw))).cons_inv
  rw [inserted, List.map_cons, ContextMap.entries, modified, changed]
  exact List.perm_middle.trans (others.cons _)

/-- The table and the map take or refuse the same metrics, and end up alike. -/
theorem Represents.insert (h : Represents s agg) (layout : Layout) {metric : RawMetric V K}
    (own : metric.HasOwnId) :
    match agg.insert metric.sealed with
    | .ok agg' => (s.insert layout metric).1 = .ok () ∧ Represents (s.insert layout metric).2 agg'
    | .error e => s.insert layout metric = (.error e, s) := by
  have looked := h.lookup metric.contextId
  have size : s.table.length = agg.map.entries.length := by
    simpa [ContextMap.entries, HashTable.items, AList.values] using h.entries.length_eq
  have consistent := consistent_insert h.consistent layout own
  have absent_of (vacant : s.entries.find? (sameId metric.contextId) = none) :
      agg.map.lookup metric.sealed.id = none := by
    rw [vacant] at looked
    exact Option.map_eq_none_iff.1 looked.symm
  rcases insert_cases h.consistent layout metric with ⟨vacant, full, result⟩ |
    ⟨vacant, room, result⟩ | ⟨entry, found, result⟩
  · rw [size, ← h.maxContext] at full
    rw [Aggregator.insert_of_full (absent_of vacant) full]
    exact result
  · rw [size, ← h.maxContext] at room
    rw [Aggregator.insert_of_none (absent_of vacant) room]
    rw [result] at consistent ⊢
    exact ⟨rfl, h.push own (absent_of vacant) consistent⟩
  · rw [found] at looked
    obtain ⟨e, present, rfl⟩ := Option.map_eq_some_iff.1 looked.symm
    have present : agg.map.lookup metric.sealed.id = some e := present
    rw [Aggregator.insert_of_some present]
    rw [result] at consistent ⊢
    exact ⟨rfl, h.update layout.probe present rfl consistent⟩

omit [Zero V] [Add V] [DDSketch V K] in
/-- Both give out the same entries, and keep the same. -/
theorem Represents.extractIf (h : Represents s agg) (order : TableOrder (Metric V K))
    (p : Metric V K → Bool) :
    (s.extractIf fun m => p m.sealed).1.Perm ((agg.extractIf order p).1.map Metric.raw) ∧
      Represents (s.extractIf fun m => p m.sealed).2 (agg.extractIf order p).2 := by
  have filtered (q : Metric V K → Bool) : (s.entries.filter fun m => q m.sealed).Perm
      ((agg.map.values.filter q).map Metric.raw) := by
    refine (h.entries.filter _).trans (.of_eq ?_)
    rw [List.filter_map]
    congr 1
    apply List.filter_congr
    intro m _
    rw [Function.comp_apply, RawMetric.sealed_raw]
  refine ⟨(filtered p).trans ((order.2 _).map Metric.raw).symm, ?_, h.maxContext, ?_, ?_⟩
  · exact consistent_extractIf h.consistent _
  · have kept := filtered fun m => !p m
    simp only [ContextMap.entries, HashTable.items, List.filter_map] at kept
    simp only [ContextMap.extractIf, ContextMap.entries, HashTable.items,
      Aggregator.extractIf, AList.values_filterValues]
    exact kept
  · intro id entry looked
    exact h.keyed id entry (AList.lookup_of_lookup_filterValues looked)

/-! ## Runs -/

/-- The call inserts a metric only if the source made it. -/
def Call.Made [DoubleText V] : Call V K → Prop
  | .insert _ metric => Built metric
  | _ => True

theorem consistent_step [DoubleText V] {s s' : ContextMap V K} {call : Call V K}
    (h : s.Consistent) (made : call.Made) (hs : s.step call = some s') :
    s'.Consistent ∧ s'.maxContext = s.maxContext := by
  cases call with
  | insert layout metric =>
    cases hs
    refine ⟨consistent_insert h layout made.hasOwnId, ?_⟩
    rcases insert_cases h layout metric with ⟨_, _, result⟩ | ⟨_, _, result⟩ | ⟨_, _, result⟩ <;>
      rw [result]
  | consumeMetrics =>
    cases hs
    exact ⟨consistent_extractIf h _, rfl⟩
  | consumeDistributions =>
    cases hs
    exact ⟨consistent_extractIf h _, rfl⟩
  | clear =>
    cases hs
    exact ⟨⟨nofun, .nil, Nat.zero_le _⟩, rfl⟩

theorem consistent_run [DoubleText V] {maxContext : Nat} {start s : ContextMap V K}
    (created : new maxContext = .ok start) {calls : List (Call V K)}
    (made : ∀ call ∈ calls, call.Made) (run : Runs.exec step start calls = some s) :
    s.Consistent ∧ s.maxContext = maxContext := by
  obtain ⟨consistent, limit, -⟩ := consistent_new created
  refine Runs.invariant_along (P := fun s => s.Consistent ∧ s.maxContext = maxContext) ?_
    ⟨consistent, limit⟩ (Runs.along_of_forall made start) run
  rintro s call s' ⟨consistent, limit⟩ made hs
  obtain ⟨consistent', same⟩ := consistent_step consistent made hs
  exact ⟨consistent', same.trans limit⟩

/-- The same call on the aggregator's map, which a refused metric leaves as it is. -/
def aggregatorStep (order : TableOrder (Metric V K)) (agg : Aggregator V K) :
    Call V K → Option (Aggregator V K)
  | .insert _ metric =>
    match agg.insert metric.sealed with
    | .ok agg' => some agg'
    | .error _ => some agg
  | .consumeMetrics => some (agg.extractIf order fun m => !Aggregator.isDistribution m).2
  | .consumeDistributions => some (agg.extractIf order Aggregator.isDistribution).2
  | .clear => some { agg with map := ∅ }

theorem Represents.step [DoubleText V] (order : TableOrder (Metric V K)) {s' : ContextMap V K}
    {call : Call V K} (h : Represents s agg) (made : call.Made) (hs : s.step call = some s') :
    ∃ agg', aggregatorStep order agg call = some agg' ∧ Represents s' agg' := by
  cases call with
  | insert layout metric =>
    cases hs
    have inserted := h.insert layout made.hasOwnId
    simp only [aggregatorStep]
    split at inserted
    next agg' _ => exact ⟨agg', rfl, inserted.2⟩
    next =>
      rw [inserted]
      exact ⟨agg, rfl, h⟩
  | consumeMetrics =>
    cases hs
    exact ⟨_, rfl, (h.extractIf order fun m => !Aggregator.isDistribution m).2⟩
  | consumeDistributions =>
    cases hs
    exact ⟨_, rfl, (h.extractIf order Aggregator.isDistribution).2⟩
  | clear =>
    cases hs
    refine ⟨_, rfl, ⟨nofun, .nil, Nat.zero_le _⟩, h.maxContext, .refl _, ?_⟩
    intro id entry looked
    cases looked

/-- After every run the table is the map of an aggregator that took the same calls. -/
theorem represents_run [DoubleText V] (order : TableOrder (Metric V K)) (tags : SortedTags)
    {maxContext : Nat} {start s : ContextMap V K} (created : new maxContext = .ok start)
    {calls : List (Call V K)} (made : ∀ call ∈ calls, call.Made)
    (run : Runs.exec step start calls = some s) :
    ∃ agg agg', Aggregator.new tags maxContext = .ok agg ∧
      Runs.exec (aggregatorStep order) agg calls = some agg' ∧ Represents s agg' := by
  obtain ⟨agg, created', represents⟩ := represents_new tags created
  have simulates (s : ContextMap V K) (agg : Aggregator V K) (call : Call V K)
      (s' : ContextMap V K) (h : Represents s agg) (made : call.Made) (hs : s.step call = some s') :
      ∃ agg', aggregatorStep order agg call = some agg' ∧ Represents s' agg' := h.step order made hs
  obtain ⟨agg', run', represents'⟩ :=
    Runs.simulation simulates represents (Runs.along_of_forall made start) run
  exact ⟨agg, agg', created', run', represents'⟩

/-- However a metric was made it stores the ID of its context; and after any inserts of such metrics
and any flushes, so do the entries; no two entries have the same ID; there are no more of them than
the limit, itself at most `MAX_CONTEXTS`; a refused insert changes nothing; a metric of a context
that is present is added to its entry and to no other, even where the map is full; and one of a new
context is taken as it is while there is room, and refused in a full map. -/
theorem run_consistent [DoubleText V] (maxContext : Nat) (start s : ContextMap V K)
    (created : new maxContext = .ok start) (calls : List (Call V K))
    (made : ∀ call ∈ calls, call.Made) (run : Runs.exec step start calls = some s) :
    (∀ metric : RawMetric V K, Built metric →
      metric.id = metricId metric.name metric.tags metric.timestamp) ∧
    (∀ entry ∈ s.entries, entry.id = metricId entry.name entry.tags entry.timestamp) ∧
    (s.entries.map RawMetric.id).Nodup ∧
    s.entries.length ≤ maxContext ∧ maxContext ≤ MAX_CONTEXTS ∧
    (∀ layout metric e, (s.insert layout metric).1 = .error e →
      (s.insert layout metric).2 = s) ∧
    (∀ layout metric, ∀ entry ∈ s.entries, entry.name = metric.name → entry.tags = metric.tags →
      entry.timestamp = metric.timestamp → (s.insert layout metric).1 = .ok () ∧
        ∃ before after, s.entries = before ++ entry :: after ∧
          (s.insert layout metric).2.entries =
            before ++ { entry with value := entry.value.aggregate metric.sealed } :: after) ∧
    (∀ layout metric,
      (∀ entry ∈ s.entries, entry.id ≠ metricId metric.name metric.tags metric.timestamp) →
        if s.entries.length < maxContext then
          (s.insert layout metric).1 = .ok () ∧
            (s.insert layout metric).2.entries = s.entries ++ [metric]
        else s.insert layout metric = (.error .overflow, s)) := by
  obtain ⟨consistent, limit⟩ := consistent_run created made run
  refine ⟨fun _ => Built.hasOwnId, consistent.own, consistent.keyed.nodup, ?_,
    (consistent_new created).2.2, ?_, ?_, ?_⟩
  · have bounded := consistent.bounded
    rw [limit] at bounded
    rwa [entries, HashTable.items, List.length_map]
  · intro layout metric e failed
    exact insert_error consistent failed
  · intro layout metric entry mem name tags timestamp
    apply insert_present consistent layout mem
    rw [RawMetric.contextId, RawMetric.contextId, name, tags, timestamp]
  · intro layout metric absent
    rw [← limit]
    exact insert_absent consistent layout absent

end ContextMap

end Map

/-- Integers as text. -/
@[reducible]
def intText : DoubleText Int where
  parse s := match s.toInt? with
    | some n => .ok n
    | none => .error "invalid float literal"
  roundToI64 n := n

namespace ContextMap

/-- Two contexts and a map with room for one, whose probes meet everything and whose table grows at
every call: the first is counted on, the second is refused. -/
theorem run_consistent_two :
    letI := fnvHasher
    letI := listSketch
    letI := intText
    let layout : Layout := ⟨⟨fun _ _ => true, fun _ => rfl⟩, true⟩
    let requests : RawMetric Int (List Int) := .new 100 100 "requests" (.count 2) none none
    ∃ start s, new 1 = .ok start ∧ Runs.exec step start [.insert layout requests] = some s ∧
      (s.entries.map RawMetric.id).Nodup ∧ s.entries.length ≤ 1 ∧
      (s.insert layout requests).2.entries = [{ requests with value := .count 4 }] ∧
      s.insert layout (requests.prependNamespace "app") = (.error .overflow, s) := by
  let _ := fnvHasher
  let _ := listSketch
  let _ := intText
  intro layout requests
  have made : ∀ call ∈ [Call.insert layout requests], call.Made := by
    rw [List.forall_mem_singleton]
    exact .new ..
  obtain ⟨-, -, nodup, few, -, -, present, absent⟩ := run_consistent 1 _ _ rfl _ made rfl
  obtain ⟨-, before, after, split, updated⟩ :=
    present layout requests requests (List.mem_singleton_self _) rfl rfl rfl
  have other : ∀ entry ∈ [requests],
      entry.id ≠ (requests.prependNamespace "app").contextId := by decide +kernel
  have refused := absent layout (requests.prependNamespace "app") other
  have alone : [requests] = before ++ requests :: after := split
  rw [eq_comm, List.append_eq_singleton_iff] at alone
  obtain ⟨rfl, same⟩ : before = [] ∧ after = [] := by simpa using alone
  subst same
  exact ⟨_, _, rfl, rfl, nodup, few, updated, refused⟩

end ContextMap

end ServerlessComponents.Dogstatsd
