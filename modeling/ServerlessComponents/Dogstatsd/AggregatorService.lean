import Mathlib.Algebra.Ring.Int.Defs
import ServerlessComponents.Library.Runs
import ServerlessComponents.Dogstatsd.Contexts

/-!
# The aggregator service

`AggregatorService::run` (`aggregator/service.rs`) serves the commands of any number of handles, in
the order they reach its queue. Over every run, each accepted metric is accounted for exactly once:
in the entries the table still holds, or in one answer to a flush.
-/
namespace ServerlessComponents.Dogstatsd

section Service

variable [MetricHasher] {V K B : Type}

/-- What the handles send; whether the requester still waits is known when the answer is sent. -/
inductive AggregatorCommand (V K : Type) where
  | insertBatch (metrics : List (Metric V K))
  | flush (waiting : Bool)
  | getEntryById (name : String) (tags : Option SortedTags) (timestamp : Int) (waiting : Bool)
  | shutdown

structure FlushResponse (V B : Type) where
  series : List (Series V)
  distributions : List (SketchPayload B)

/-- What the service has done, seen from outside. -/
inductive ServiceEvent (V K B : Type) where
  | accepted (metric : Metric V K)
  | overflow (metric : Metric V K)
  | flushed (response : FlushResponse V B) (delivered : Bool)
  | entry (response : Option (Metric V K)) (delivered : Bool)

/-- The service, with the number of flushes so far and the history of its events. -/
structure AggregatorService (V K B : Type) where
  aggregator : Aggregator V K
  running : Bool
  flushes : Nat
  log : List (ServiceEvent V K B)

namespace AggregatorService

def new (tags : SortedTags) (maxContext : Nat) :
    Except CreationError (AggregatorService V K B) :=
  (Aggregator.new tags maxContext).map fun aggregator => ⟨aggregator, true, 0, []⟩

section Steps

variable [Zero V] [Add V] [DDSketch V K] [ToDogsketch K B]

/-- One turn of the loop over a batch; an overflow is logged and the batch goes on. -/
def insertOne (s : AggregatorService V K B) (metric : Metric V K) : AggregatorService V K B :=
  match s.aggregator.insert metric with
  | .ok aggregator => { s with aggregator, log := s.log ++ [.accepted metric] }
  | .error .overflow => { s with log := s.log ++ [.overflow metric] }

def flush (sizes : Sizes V B) (metricsOrder distributionsOrder : TableOrder (Metric V K))
    (s : AggregatorService V K B) (waiting : Bool) : AggregatorService V K B :=
  let (series, aggregator) := s.aggregator.consumeMetrics metricsOrder sizes
  let (distributions, aggregator) := aggregator.consumeDistributions distributionsOrder sizes
  { s with
    aggregator
    flushes := s.flushes + 1
    log := s.log ++ [.flushed ⟨series, distributions⟩ waiting] }

/-- One command of the loop of `run`, `none` when the service has stopped. The table's orders at
the `n`-th flush are `orders n`. -/
def step (sizes : Sizes V B)
    (orders : Nat → TableOrder (Metric V K) × TableOrder (Metric V K))
    (s : AggregatorService V K B) (command : AggregatorCommand V K) :
    Option (AggregatorService V K B) :=
  if s.running then
    match command with
    | .insertBatch metrics => some (metrics.foldl insertOne s)
    | .flush waiting => some (s.flush sizes (orders s.flushes).1 (orders s.flushes).2 waiting)
    | .getEntryById name tags timestamp waiting =>
      some { s with
        log := s.log ++ [.entry (s.aggregator.getEntryById name tags timestamp) waiting] }
    | .shutdown => some { s with running := false }
  else none

end Steps

/-! ## Reading the history -/

/-- The metrics whose insert succeeded. -/
def acceptedOf (log : List (ServiceEvent V K B)) : List (Metric V K) :=
  log.filterMap fun
    | .accepted metric => some metric
    | _ => none

/-- The flushes, each with the metrics accepted since the one before, `waiting` being those
accepted since the last flush before the history. -/
def epochs (waiting : List (Metric V K)) :
    List (ServiceEvent V K B) → List (List (Metric V K) × FlushResponse V B)
  | [] => []
  | .accepted metric :: rest => epochs (waiting ++ [metric]) rest
  | .flushed response _ :: rest => (waiting, response) :: epochs [] rest
  | .overflow _ :: rest => epochs waiting rest
  | .entry _ _ :: rest => epochs waiting rest

/-- The metrics accepted since the last flush. -/
def pending (waiting : List (Metric V K)) : List (ServiceEvent V K B) → List (Metric V K)
  | [] => waiting
  | .accepted metric :: rest => pending (waiting ++ [metric]) rest
  | .flushed _ _ :: rest => pending [] rest
  | .overflow _ :: rest => pending waiting rest
  | .entry _ _ :: rest => pending waiting rest

/-- What the history has of a command: what became of each metric of a batch, or the answer. -/
def Recorded : AggregatorCommand V K → List (ServiceEvent V K B) → Prop
  | .insertBatch metrics, events =>
    List.Forall₂ (fun metric event => event = .accepted metric ∨ event = .overflow metric)
      metrics events
  | .flush waiting, events => ∃ response, events = [.flushed response waiting]
  | .getEntryById _ _ _ waiting, events => ∃ response, events = [.entry response waiting]
  | .shutdown, events => events = []

theorem acceptedOf_eq (waiting : List (Metric V K)) (log : List (ServiceEvent V K B)) :
    waiting ++ acceptedOf log = (epochs waiting log).flatMap (·.1) ++ pending waiting log := by
  induction log generalizing waiting with
  | nil => simp [acceptedOf, epochs, pending]
  | cons event rest ih =>
    cases event with
    | accepted metric =>
      rw [epochs, pending, ← ih]
      simp [acceptedOf]
    | flushed response delivered =>
      rw [epochs, pending, List.flatMap_cons, List.append_assoc, ← ih]
      simp [acceptedOf]
    | overflow metric =>
      rw [epochs, pending, ← ih]
      simp [acceptedOf]
    | entry response delivered =>
      rw [epochs, pending, ← ih]
      simp [acceptedOf]

/-- The history of a flush extends the epochs, any other event does not. -/
theorem epochs_append (waiting : List (Metric V K)) (log : List (ServiceEvent V K B))
    (event : ServiceEvent V K B) :
    epochs waiting (log ++ [event]) = epochs waiting log ++
      match event with
      | .flushed response _ => [(pending waiting log, response)]
      | _ => [] := by
  induction log generalizing waiting with
  | nil => cases event <;> rfl
  | cons first rest ih => cases first <;> simp [epochs, pending, ih]

theorem pending_append (waiting : List (Metric V K)) (log : List (ServiceEvent V K B))
    (event : ServiceEvent V K B) :
    pending waiting (log ++ [event]) =
      match event with
      | .accepted metric => pending waiting log ++ [metric]
      | .flushed _ _ => []
      | _ => pending waiting log := by
  induction log generalizing waiting with
  | nil => cases event <;> rfl
  | cons first rest ih => cases first <;> simp [pending, ih]

/-! ## What a run preserves -/

/-- All the points of a flush. -/
def points (response : FlushResponse V B) : List (MetricToShip V) :=
  response.series.flatMap (·.series)

/-- All the sketches of a flush. -/
def sketches (response : FlushResponse V B) : List (Sketch B) :=
  response.distributions.flatMap (·.sketches)

theorem log_new {tags : SortedTags} {maxContext : Nat} {s : AggregatorService V K B}
    (h : new tags maxContext = .ok s) : s.log = [] := by
  unfold new Aggregator.new at h
  split at h <;> cases h
  rfl

section Log

variable [Zero V] [Add V] [DDSketch V K]

theorem log_insertOne (s : AggregatorService V K B) (metric : Metric V K) :
    ∃ event, (event = .accepted metric ∨ event = .overflow metric) ∧
      (s.insertOne metric).log = s.log ++ [event] := by
  unfold insertOne
  split
  · exact ⟨_, .inl rfl, rfl⟩
  · exact ⟨_, .inr rfl, rfl⟩

theorem log_insertBatch (s : AggregatorService V K B) (metrics : List (Metric V K)) :
    ∃ events, Recorded (.insertBatch metrics) events ∧
      (metrics.foldl insertOne s).log = s.log ++ events := by
  induction metrics generalizing s with
  | nil => exact ⟨[], .nil, (List.append_nil _).symm⟩
  | cons metric rest ih =>
    obtain ⟨event, fate, first⟩ := s.log_insertOne metric
    obtain ⟨events, fates, later⟩ := ih (s.insertOne metric)
    refine ⟨event :: events, .cons fate fates, ?_⟩
    rw [List.foldl_cons, later, first, List.append_assoc, List.singleton_append]

variable [ToDogsketch K B]

theorem log_step {sizes : Sizes V B}
    {orders : Nat → TableOrder (Metric V K) × TableOrder (Metric V K)}
    {s s' : AggregatorService V K B} {command : AggregatorCommand V K}
    (hs : step sizes orders s command = some s') :
    ∃ events, Recorded command events ∧ s'.log = s.log ++ events := by
  unfold step at hs
  split at hs
  · cases command with
    | insertBatch metrics =>
      cases hs
      exact s.log_insertBatch metrics
    | flush waiting =>
      cases hs
      exact ⟨_, ⟨_, rfl⟩, rfl⟩
    | getEntryById name tags timestamp waiting =>
      cases hs
      exact ⟨_, ⟨_, rfl⟩, rfl⟩
    | shutdown =>
      cases hs
      exact ⟨[], rfl, (List.append_nil _).symm⟩
  · cases hs

theorem log_run {sizes : Sizes V B}
    {orders : Nat → TableOrder (Metric V K) × TableOrder (Metric V K)}
    {s s' : AggregatorService V K B} {commands : List (AggregatorCommand V K)}
    (run : Runs.exec (step sizes orders) s commands = some s') :
    ∃ records, List.Forall₂ Recorded commands records ∧ s'.log = s.log ++ records.flatten := by
  induction commands generalizing s with
  | nil =>
    cases run
    exact ⟨[], .nil, (List.append_nil _).symm⟩
  | cons command rest ih =>
    obtain ⟨next, first, later⟩ := Runs.exec_cons_eq_some.1 run
    obtain ⟨events, recorded, log⟩ := log_step first
    obtain ⟨records, others, log'⟩ := ih later
    refine ⟨events :: records, .cons recorded others, ?_⟩
    rw [log', log, List.flatten_cons, List.append_assoc]

end Log

variable [ToDogsketch K B]

theorem map_flush (sizes : Sizes V B) (metricsOrder distributionsOrder : TableOrder (Metric V K))
    (s : AggregatorService V K B) (waiting : Bool) :
    (s.flush sizes metricsOrder distributionsOrder waiting).aggregator.map = ∅ := by
  apply AList.eq_empty_of_values_eq_nil
  simp [flush, Aggregator.consumeDistributions_snd, Aggregator.consumeMetrics_snd]

section Accounts

variable [Zero V] [Add V] [DDSketch V K]

/-- The answer to a flush ships the entries that stand for the metrics, each once. -/
structure Ships (tags : SortedTags) (metrics : List (Metric V K)) (response : FlushResponse V B) :
    Prop where
  points : (points response).Perm ((entriesOf metrics).filterMap (buildMetric tags))
  sketches : (sketches response).Perm ((entriesOf metrics).filterMap (buildSketch tags))

/-- The table holds the entries of the pending metrics, and every flush shipped those of its
epoch. -/
structure Accounted (tags : SortedTags) (s : AggregatorService V K B) : Prop where
  baseTags : s.aggregator.tags = tags
  table : s.aggregator.map = Grouping.table Metric.id aggregateInto (pending [] s.log)
  shipped : ∀ epoch ∈ epochs [] s.log, Ships tags epoch.1 epoch.2

theorem accounted_new {tags : SortedTags} {maxContext : Nat} {s : AggregatorService V K B}
    (h : new tags maxContext = .ok s) : Accounted tags s := by
  unfold new Aggregator.new at h
  split at h <;> cases h
  refine ⟨rfl, rfl, ?_⟩
  intro epoch h
  cases h

/-- An event that neither accepts nor flushes leaves the accounts as they are. -/
theorem Accounted.log {tags : SortedTags} {s : AggregatorService V K B} (h : Accounted tags s)
    {event : ServiceEvent V K B} (quiet : pending [] (s.log ++ [event]) = pending [] s.log)
    (same : epochs [] (s.log ++ [event]) = epochs [] s.log) :
    Accounted tags { s with log := s.log ++ [event] } :=
  ⟨h.baseTags, by simpa only [quiet] using h.table, by simpa only [same] using h.shipped⟩

theorem accounted_insertOne {tags : SortedTags} {s : AggregatorService V K B}
    (h : Accounted tags s) (metric : Metric V K) : Accounted tags (s.insertOne metric) := by
  unfold insertOne
  cases inserted : s.aggregator.insert metric with
  | error e =>
    cases e
    exact h.log (pending_append ..) (by rw [epochs_append, List.append_nil])
  | ok aggregator =>
    rw [Aggregator.insert_eq_ok inserted]
    refine ⟨h.baseTags, ?_, ?_⟩
    · simp only [pending_append, Grouping.table_append, h.table]
    · intro epoch hepoch
      rw [epochs_append, List.append_nil] at hepoch
      exact h.shipped epoch hepoch

theorem accounted_insertBatch {tags : SortedTags} {s : AggregatorService V K B}
    (h : Accounted tags s) (metrics : List (Metric V K)) :
    Accounted tags (metrics.foldl insertOne s) := by
  induction metrics generalizing s with
  | nil => exact h
  | cons metric rest ih => exact ih (accounted_insertOne h metric)

theorem ships_flush {sizes : Sizes V B} (json : sizes.JsonSucceeds)
    (metricsOrder distributionsOrder : TableOrder (Metric V K)) {a : Aggregator V K}
    {metrics : List (Metric V K)}
    (table : a.map = Grouping.table Metric.id aggregateInto metrics) :
    Ships a.tags metrics
      ⟨(a.consumeMetrics metricsOrder sizes).1,
        ((a.consumeMetrics metricsOrder sizes).2.consumeDistributions distributionsOrder
          sizes).1⟩ := by
  have entries : a.map.values.Perm (entriesOf metrics) := by
    rw [table]
    exact Grouping.values_table metrics
  constructor
  · exact (Aggregator.points_consumeMetrics json a metricsOrder).trans (entries.filterMap _)
  · have h := Aggregator.sketches_consumeDistributions sizes
      (a.consumeMetrics metricsOrder sizes).2 distributionsOrder
    rw [Aggregator.consumeMetrics_snd, AList.values_filterValues,
      Aggregator.filterMap_filter_of_none fun m hm =>
        (Aggregator.buildSketch_eq_none_iff ..).2 hm] at h
    simp only [sketches, Aggregator.consumeMetrics_snd]
    exact h.trans (entries.filterMap _)

theorem accounted_flush {sizes : Sizes V B} (json : sizes.JsonSucceeds) {tags : SortedTags}
    {s : AggregatorService V K B} (h : Accounted tags s)
    (metricsOrder distributionsOrder : TableOrder (Metric V K)) (waiting : Bool) :
    Accounted tags (s.flush sizes metricsOrder distributionsOrder waiting) := by
  refine ⟨?_, ?_, ?_⟩
  · simp [flush, Aggregator.consumeDistributions_snd, Aggregator.consumeMetrics_snd, h.baseTags]
  · rw [map_flush]
    simp only [flush, pending_append]
    rfl
  · intro epoch hepoch
    simp only [flush, epochs_append, List.mem_append, List.mem_singleton] at hepoch
    rcases hepoch with hepoch | rfl
    · exact h.shipped epoch hepoch
    · rw [← h.baseTags]
      exact ships_flush json metricsOrder distributionsOrder h.table

theorem accounted_step {sizes : Sizes V B} (json : sizes.JsonSucceeds)
    {orders : Nat → TableOrder (Metric V K) × TableOrder (Metric V K)} {tags : SortedTags}
    {s s' : AggregatorService V K B} {command : AggregatorCommand V K} (h : Accounted tags s)
    (hs : step sizes orders s command = some s') : Accounted tags s' := by
  unfold step at hs
  split at hs
  · cases command with
    | insertBatch metrics =>
      cases hs
      exact accounted_insertBatch h metrics
    | flush waiting =>
      cases hs
      exact accounted_flush json h ..
    | getEntryById name tags timestamp waiting =>
      cases hs
      exact h.log (pending_append ..) (by rw [epochs_append, List.append_nil])
    | shutdown =>
      cases hs
      exact ⟨h.baseTags, h.table, h.shipped⟩
  · cases hs

theorem accounted_run {sizes : Sizes V B} (json : sizes.JsonSucceeds)
    {orders : Nat → TableOrder (Metric V K) × TableOrder (Metric V K)} {tags : SortedTags}
    {maxContext : Nat} {start s : AggregatorService V K B}
    (created : new tags maxContext = .ok start) {commands : List (AggregatorCommand V K)}
    (run : Runs.exec (step sizes orders) start commands = some s) : Accounted tags s :=
  Runs.invariant (fun _ _ _ => accounted_step json) (accounted_new created) run

/-- For the metrics of one epoch, the contexts' values are the reference values: each context has
one entry, which is shipped as one point or as one sketch. -/
def ExactValues (tags : SortedTags) (metrics : List (Metric V K))
    (response : FlushResponse V B) : Prop :=
  ∀ metric ∈ metrics, ∃ entry ∈ entriesOf metrics, entry.context = metric.context ∧
    (∀ other ∈ entriesOf metrics, other.context = metric.context → other = entry) ∧
    ((∃ point ∈ points response, buildMetric tags entry = some point) ∨
      (∃ sketch ∈ sketches response, buildSketch tags entry = some sketch)) ∧
    (SameType ((ofContext metrics metric.context).map (·.value)) →
      reference ((ofContext metrics metric.context).map (·.value)) = some entry.value)

end Accounts

/-- An entry is shipped either as a point or as a sketch. -/
theorem buildSketch_isSome_eq (tags : SortedTags) (entry : Metric V K) :
    (buildSketch tags entry : Option (Sketch B)).isSome = !(buildMetric tags entry).isSome := by
  have sketch := Aggregator.buildSketch_eq_none_iff (B := B) tags entry
  have point := Aggregator.buildMetric_eq_none_iff tags entry
  cases hs : (buildSketch tags entry : Option (Sketch B)) <;> cases hp : buildMetric tags entry <;>
    grind

variable [AddMonoid V] [DDSketch V K]

theorem exactValues_of_ships {tags : SortedTags} {metrics : List (Metric V K)}
    {response : FlushResponse V B} (ships : Ships tags metrics response)
    (injective : IdsInjective metrics) : ExactValues tags metrics response := by
  intro metric mem
  obtain ⟨entry, hentry, context, unique, value⟩ := exists_unique_entry injective mem
  refine ⟨entry, hentry, context, unique, ?_, value⟩
  have either := buildSketch_isSome_eq (B := B) tags entry
  cases hp : buildMetric tags entry with
  | some point =>
    exact .inl ⟨point, ships.points.mem_iff.2 (List.mem_filterMap.2 ⟨entry, hentry, hp⟩), rfl⟩
  | none =>
    rw [hp] at either
    obtain ⟨sketch, hs⟩ := Option.isSome_iff_exists.1 either
    exact .inr ⟨sketch, ships.sketches.mem_iff.2 (List.mem_filterMap.2 ⟨entry, hentry, hs⟩), hs⟩

/-- In every run, whatever the order of commands and of the table: the history has the commands in
order and every metric of their batches, accepted or not; the accepted metrics are those of the
epochs and the pending ones; each flush ships the entries that stand for its epoch, each once; the
table holds the entries that stand for the pending metrics; a flush empties it and a look-up changes
nothing; and where IDs tell contexts apart, the values are the reference values. -/
theorem run_accounts (sizes : Sizes V B) (json : sizes.JsonSucceeds)
    (orders : Nat → TableOrder (Metric V K) × TableOrder (Metric V K)) (tags : SortedTags)
    (maxContext : Nat) (start s : AggregatorService V K B)
    (created : new tags maxContext = .ok start) (commands : List (AggregatorCommand V K))
    (run : Runs.exec (step sizes orders) start commands = some s) :
    (∃ records, List.Forall₂ Recorded commands records ∧ s.log = records.flatten) ∧
    acceptedOf s.log = (epochs [] s.log).flatMap (·.1) ++ pending [] s.log ∧
    (∀ epoch ∈ epochs [] s.log, Ships tags epoch.1 epoch.2 ∧
      (IdsInjective epoch.1 → ExactValues tags epoch.1 epoch.2)) ∧
    s.aggregator.map.values.Perm (entriesOf (pending [] s.log)) ∧
    (∀ waiting s', step sizes orders s (.flush waiting) = some s' → s'.aggregator.map = ∅) ∧
    (∀ name entryTags timestamp waiting s',
      step sizes orders s (.getEntryById name entryTags timestamp waiting) = some s' →
        s' = { s with log := s.log ++
          [.entry (s.aggregator.getEntryById name entryTags timestamp) waiting] }) := by
  have accounted := accounted_run json created run
  refine ⟨?_, acceptedOf_eq [] s.log, ?_, ?_, ?_, ?_⟩
  · obtain ⟨records, recorded, log⟩ := log_run run
    exact ⟨records, recorded, by rw [log, log_new created, List.nil_append]⟩
  · intro epoch hepoch
    have ships := accounted.shipped epoch hepoch
    exact ⟨ships, exactValues_of_ships ships⟩
  · rw [accounted.table]
    exact Grouping.values_table _
  · intro waiting s' hs
    unfold step at hs
    split at hs <;> cases hs
    exact map_flush ..
  · intro name entryTags timestamp waiting s' hs
    unfold step at hs
    split at hs <;> cases hs
    rfl

end AggregatorService

end Service

/-- FNV-1a over the bytes of everything written. -/
@[reducible]
def fnvHasher : MetricHasher where
  finish writes :=
    let bytes := writes.flatMap fun
      | .ustr s => s.toUTF8.toList
      | .i64 n => (List.range 8).map fun k => UInt8.ofNat ((n / 2 ^ (8 * k)) % 256).toNat
      | .bytes s => UInt8.ofNat s.utf8ByteSize :: s.toUTF8.toList
    bytes.foldl (fun hash byte => (hash ^^^ byte.toUInt64) * 1099511628211) 14695981039346656037

/-- Sketches that list their values. -/
@[reducible]
def listSketch : DDSketch Int (List Int) := ⟨[], fun sketch v => v :: sketch, (· ++ ·)⟩

namespace AggregatorService

/-- Two counts of one counter and a gauge are inserted and flushed, and then another gauge is
inserted. -/
theorem run_accounts_two :
    letI := fnvHasher
    letI := listSketch
    letI : ToDogsketch (List Int) (List Int) := ⟨id⟩
    let sizes : Sizes Int (List Int) := ⟨fun _ => some 100, fun _ => 10⟩
    let inOrder : TableOrder (Metric Int (List Int)) := ⟨id, fun _ => .refl _⟩
    let metrics : List (Metric Int (List Int)) := [.new 100 "requests" (.count 2) none none,
      .new 100 "load" (.gauge 7) none none, .new 100 "requests" (.count 3) none none]
    let commands := [.insertBatch metrics, .flush true,
      .insertBatch [Metric.new 100 "load" (.gauge 8) none none]]
    ∃ start s, new ⟨[]⟩ 10 = .ok start ∧
      Runs.exec (step sizes fun _ => (inOrder, inOrder)) start commands = some s ∧
      (∃ records, List.Forall₂ Recorded commands records ∧ s.log = records.flatten) ∧
      (epochs [] s.log).map (fun epoch => (epoch.1.map (·.name),
          (points epoch.2).map fun point => (point.metric, point.point.value))) =
        [(["requests", "load", "requests"], [("requests", 5), ("load", 7)])] ∧
      (∀ epoch ∈ epochs [] s.log, IdsInjective epoch.1 ∧ ExactValues ⟨[]⟩ epoch.1 epoch.2) ∧
      s.aggregator.map.values.Perm (entriesOf (pending [] s.log)) := by
  let _ := fnvHasher
  let _ := listSketch
  let _ : ToDogsketch (List Int) (List Int) := ⟨id⟩
  intro sizes inOrder metrics commands
  obtain ⟨start, created⟩ :
      ∃ start : AggregatorService Int (List Int) (List Int), new ⟨[]⟩ 10 = .ok start := ⟨_, rfl⟩
  have ends : ((Runs.exec (step sizes fun _ => (inOrder, inOrder)) start commands).map
        fun s : AggregatorService Int (List Int) (List Int) =>
      ((epochs [] s.log).map (fun epoch => (epoch.1.map (·.name),
          (points epoch.2).map fun point => (point.metric, point.point.value))),
        decide (∀ epoch ∈ epochs [] s.log, IdsInjective epoch.1))) =
      some ([(["requests", "load", "requests"], [("requests", 5), ("load", 7)])], true) := by
    cases created
    decide +kernel
  obtain ⟨s, run, ends⟩ := Option.map_eq_some_iff.1 ends
  obtain ⟨epoch, injective⟩ := Prod.mk.inj ends
  have injective := of_decide_eq_true injective
  obtain ⟨recorded, -, flushed, table, -⟩ := run_accounts sizes (fun _ => ⟨99, rfl⟩)
    (fun _ => (inOrder, inOrder)) ⟨[]⟩ 10 start s created commands run
  refine ⟨start, s, created, run, recorded, epoch, ?_, table⟩
  intro epoch mem
  exact ⟨injective epoch mem, (flushed epoch mem).2 (injective epoch mem)⟩

end AggregatorService

end ServerlessComponents.Dogstatsd
