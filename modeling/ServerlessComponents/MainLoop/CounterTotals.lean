import Mathlib.Tactic.Abel
import ServerlessComponents.Dogstatsd.AggregatorService
import ServerlessComponents.MainLoop.MetricsFlush

/-!
# Counters from the clients to the intake

DogStatsD inserts metrics into the aggregator while the ticks of the main loop flush it, each in a
task of its own that ships what it got. What is counted under a name is neither lost nor counted
twice on the way: it waits in the aggregator or with a task, the intake has taken it, or the task
was refused it and dropped it.

## Main results

* `counters_conserved` — the total of a counter over every run, in exact arithmetic.
-/
namespace ServerlessComponents.MainLoop

open Dogstatsd
open Dogstatsd.AggregatorService (acceptedOf epochs pending points)

variable {V K B : Type}

/-! ## What a task makes of its batches -/

/-- The batches of a list that the intake did not take: those it refused in the end and those the
task did not come to. -/
def notTaken {α : Type} (batches : List α) (shipped : List (α × ShipResult)) : List α :=
  withResult (fun result => !Accepted result) shipped ++ batches.drop shipped.length

theorem shipped_prefix {α : Type} (ship : α → Wire → ShipResult) (net : Nat → Wire) (i : Nat)
    (batches : List α) : (shipBatches ship net i batches).shipped.map Prod.fst <+: batches := by
  induction batches generalizing i with
  | nil => exact List.prefix_rfl
  | cons batch rest ih =>
    simp only [shipBatches, List.map_cons]
    split
    · exact (List.prefix_cons_inj batch).2 (ih (i + 1))
    · exact (List.prefix_cons_inj batch).2 (List.nil_prefix)

theorem taken_or_not {α : Type} {batches : List α} {shipped : List (α × ShipResult)}
    (front : shipped.map Prod.fst <+: batches) :
    batches.Perm (withResult Accepted shipped ++ notTaken batches shipped) := by
  obtain ⟨rest, rfl⟩ := front
  have left : (shipped.map Prod.fst ++ rest).drop shipped.length = rest := by
    rw [← List.length_map (f := Prod.fst), List.drop_left]
  rw [notTaken, left, ← List.append_assoc]
  refine List.Perm.append_right rest ?_
  simpa only [withResult, List.map_append] using
    ((List.filter_append_perm (fun x => Accepted x.2) shipped).map Prod.fst).symm

/-- The series a flush logs are the first ones of its list. -/
theorem seriesShipped_prefix (flusher : Flusher) (enc : Encoders V B) (tick : MetricsTick V B)
    {series : List (Series V)} {distributions : List (SketchPayload B)}
    (response : tick.response = some (series, distributions)) :
    (flush flusher enc tick).1.seriesShipped.map Prod.fst <+: series := by
  simp only [flush, response, Flusher.flushMetrics]
  split
  next => exact List.nil_prefix
  next =>
    simp only [flushMetrics]
    split
    next => exact List.nil_prefix
    next =>
      split
      next => exact List.nil_prefix
      next => exact shipped_prefix ..

/-! ## Totals -/

section Totals

variable [AddCommMonoid V] {name : String}

/-- What the points of a name add up to. -/
def total (name : String) (points : List (MetricToShip V)) : V :=
  ((points.filter fun p => p.metric = name).map fun p => p.point.value).sum

/-- What the points of a name in some batches add up to. -/
def totalOf (name : String) (batches : List (Series V)) : V :=
  total name (batches.flatMap (·.series))

theorem total_append (points points' : List (MetricToShip V)) :
    total name (points ++ points') = total name points + total name points' := by
  simp [total]

theorem total_perm {points points' : List (MetricToShip V)} (perm : points.Perm points') :
    total name points = total name points' :=
  ((perm.filter _).map _).sum_eq

theorem totalOf_append (batches batches' : List (Series V)) :
    totalOf name (batches ++ batches') = totalOf name batches + totalOf name batches' := by
  rw [totalOf, List.flatMap_append, total_append]
  rfl

theorem totalOf_perm {batches batches' : List (Series V)} (perm : batches.Perm batches') :
    totalOf name batches = totalOf name batches' :=
  total_perm (perm.flatMap_right _)

variable [MetricHasher]

/-- What a metric adds to the counter of a name. -/
def share (name : String) (metric : Metric V K) : V :=
  if metric.name = name then metric.value.getValue.getD 0 else 0

/-- The point shipped for an entry counts what the entry counts; a distribution has none. -/
theorem total_buildMetric (base : SortedTags) (entry : Metric V K) :
    total name (buildMetric base entry).toList = share name entry := by
  unfold buildMetric share total
  by_cases same : entry.name = name <;> cases entry.value <;>
    simp [kindOf, MetricValue.getValue, same]

theorem total_filterMap_buildMetric (base : SortedTags) (entries : List (Metric V K)) :
    total name (entries.filterMap (buildMetric base)) = (entries.map (share name)).sum := by
  induction entries with
  | nil => rfl
  | cons entry rest ih =>
    have split : (entry :: rest).filterMap (buildMetric base) =
        (buildMetric base entry).toList ++ rest.filterMap (buildMetric base) := by
      rw [List.filterMap_cons]
      cases buildMetric base entry <;> rfl
    rw [split, total_append, total_buildMetric, ih, List.map_cons, List.sum_cons]

/-- The ids tell the metrics of the name apart from the others, and the metrics of the name are
counters. -/
structure CountedApart (name : String) (metrics : List (Metric V K)) : Prop where
  apart : ∀ m ∈ metrics, ∀ m' ∈ metrics, m.id = m'.id → m.name = name → m'.name = name
  counters : ∀ m ∈ metrics, m.name = name → ∃ v, m.value = .count v

omit [AddCommMonoid V] in
theorem CountedApart.mono {metrics metrics' : List (Metric V K)}
    (counted : CountedApart name metrics) (subset : metrics' ⊆ metrics) :
    CountedApart name metrics' :=
  ⟨fun m mem m' mem' => counted.apart m (subset mem) m' (subset mem'),
    fun m mem => counted.counters m (subset mem)⟩

/-- The entries of a name count what its metrics count. -/
theorem sum_share_entriesOf [DDSketch V K] {metrics : List (Metric V K)}
    (counted : CountedApart name metrics) :
    ((entriesOf metrics).map (share name)).sum = (metrics.map (share name)).sum := by
  rw [entriesOf, ← ((Grouping.values_table metrics).map (share name)).sum_eq]
  -- an entry has the name of the first metric with its id, and its value is that of a counter
  let known (id : UInt64) (entry : Metric V K) : Prop :=
    (∃ m ∈ metrics, m.id = id ∧ entry.name = m.name) ∧
      (entry.name = name → ∃ v, entry.value = .count v)
  refine Grouping.sum_table known ?_ ?_
  · intro m mem
    exact ⟨⟨⟨m, mem, rfl, rfl⟩, counted.counters m mem⟩, rfl⟩
  · rintro m mem entry ⟨⟨first, mem', id, named⟩, counter⟩
    by_cases same : m.name = name
    · have here : entry.name = name := named.trans (counted.apart m mem first mem' id.symm same)
      obtain ⟨v, value⟩ := counter here
      refine ⟨⟨⟨first, mem', id, named⟩, fun _ => ⟨v + m.value.getValue.getD 0, ?_⟩⟩, ?_⟩
      · simp [aggregateInto, value, MetricValue.aggregate]
      · simp [share, aggregateInto, here, same, value, MetricValue.aggregate, MetricValue.getValue]
    · have elsewhere : entry.name ≠ name := by
        intro here
        exact same (counted.apart first mem' m mem id (named.symm.trans here))
      refine ⟨⟨⟨first, mem', id, named⟩, fun here => absurd here elsewhere⟩, ?_⟩
      simp [share, aggregateInto, elsewhere, same]

end Totals

/-! ## The pipeline -/

variable [MetricHasher]

/-- The aggregator service with the flush tasks that have its answer and have not shipped it, what
was inserted, and what has become of the series: those the intake took and those it did not. -/
structure MetricsPipeline (V K B : Type) where
  service : AggregatorService V K B
  inserted : List (Metric V K) := []
  flushing : List (FlushResponse V B) := []
  taken : List (Series V) := []
  dropped : List (Series V) := []

inductive MetricsAction (V K : Type) where
  | insertBatch (metrics : List (Metric V K))
  /-- A task is spawned, and the service answers its flush. -/
  | tick
  /-- A task ships what it was answered. -/
  | ship (task : Nat) (resolution : Resolution) (seriesNet sketchNet : Nat → Wire)

namespace MetricsPipeline

variable [AddCommMonoid V] [DDSketch V K] [ToDogsketch K B] (sizes : Sizes V B)
  (orders : Nat → TableOrder (Metric V K) × TableOrder (Metric V K)) (metricsFlusher : Flusher)
  (enc : Encoders V B)

/-- The answer to the last command of the service, when it is one to a flush. -/
def lastFlush (service : AggregatorService V K B) : Option (FlushResponse V B) :=
  match service.log.getLast? with
  | some (.flushed response _) => some response
  | _ => none

def step (s : MetricsPipeline V K B) : MetricsAction V K → Option (MetricsPipeline V K B)
  | .insertBatch metrics =>
    (s.service.step sizes orders (.insertBatch metrics)).map fun service =>
      { s with service, inserted := s.inserted ++ metrics }
  | .tick =>
    (s.service.step sizes orders (.flush true)).map fun service =>
      { s with service, flushing := s.flushing ++ (lastFlush service).toList }
  | .ship task resolution seriesNet sketchNet =>
    (s.flushing[task]?).map fun response =>
      -- the result of the task is dropped, and the batches it returned with it
      let (run, _) := flush metricsFlusher enc
        ⟨some (response.series, response.distributions), resolution, seriesNet, sketchNet⟩
      { s with
        flushing := s.flushing.eraseIdx task
        taken := s.taken ++ withResult Accepted run.seriesShipped
        dropped := s.dropped ++ notTaken response.series run.seriesShipped }

/-- The metrics that found the table full. -/
def overflowedOf (log : List (ServiceEvent V K B)) : List (Metric V K) :=
  log.filterMap fun
    | .overflow metric => some metric
    | _ => none

/-- The metrics the service tried to insert. -/
def attemptedOf (log : List (ServiceEvent V K B)) : List (Metric V K) :=
  log.filterMap fun
    | .accepted metric | .overflow metric => some metric
    | _ => none

/-- What the flushes answered is with a task, taken or dropped. -/
structure Tracked (tags : SortedTags) (s : MetricsPipeline V K B) : Prop where
  accounted : s.service.Accounted tags
  inserted : s.inserted = attemptedOf s.service.log
  flushed : ∀ name, total name ((epochs [] s.service.log).flatMap fun epoch => points epoch.2) =
    total name (s.flushing.flatMap points) + (totalOf name s.taken + totalOf name s.dropped)

variable {sizes orders metricsFlusher enc} {tags : SortedTags} {s s' : MetricsPipeline V K B}

omit [ToDogsketch K B] in
theorem log_insertBatch (service : AggregatorService V K B) (metrics : List (Metric V K)) :
    epochs [] (metrics.foldl AggregatorService.insertOne service).log = epochs [] service.log ∧
      attemptedOf (metrics.foldl AggregatorService.insertOne service).log =
        attemptedOf service.log ++ metrics := by
  induction metrics generalizing service with
  | nil => simp
  | cons metric rest ih =>
    obtain ⟨same, attempted⟩ := ih (service.insertOne metric)
    rw [List.foldl_cons, same, attempted]
    unfold AggregatorService.insertOne
    split
    · exact ⟨by simp [AggregatorService.epochs_append], by simp [attemptedOf]⟩
    · exact ⟨by simp [AggregatorService.epochs_append], by simp [attemptedOf]⟩

/-- The answer to a flush goes to the task that asked. -/
theorem tracked_tick (start : s.Tracked tags) {service : AggregatorService V K B}
    (accounted : service.Accounted tags)
    (h : s.service.step sizes orders (.flush true) = some service) :
    { s with service, flushing := s.flushing ++ (lastFlush service).toList }.Tracked tags := by
  unfold AggregatorService.step at h
  split at h <;> cases h
  obtain ⟨-, inserted, flushed⟩ := start
  refine ⟨accounted, ?_, ?_⟩
  · simpa [AggregatorService.flush, attemptedOf] using inserted
  · intro name
    have answered := flushed name
    simp only [AggregatorService.flush, AggregatorService.epochs_append, List.flatMap_append,
      total_append, lastFlush, List.getLast?_append, answered]
    simp [add_right_comm]

theorem tracked_ship (start : s.Tracked tags) {task : Nat} {resolution : Resolution}
    {seriesNet sketchNet : Nat → Wire} {response : FlushResponse V B}
    (found : s.flushing[task]? = some response) {run : FlushRun V B}
    (flushes : run = (flush metricsFlusher enc
      ⟨some (response.series, response.distributions), resolution, seriesNet, sketchNet⟩).1) :
    { s with
      flushing := s.flushing.eraseIdx task
      taken := s.taken ++ withResult Accepted run.seriesShipped
      dropped := s.dropped ++ notTaken response.series run.seriesShipped }.Tracked tags := by
  refine ⟨start.accounted, start.inserted, ?_⟩
  intro name
  have front := flushes ▸ seriesShipped_prefix metricsFlusher enc
    ⟨some (response.series, response.distributions), resolution, seriesNet, sketchNet⟩ rfl
  have fates : total name (points response) = totalOf name (withResult Accepted run.seriesShipped) +
      totalOf name (notTaken response.series run.seriesShipped) :=
    (totalOf_perm (taken_or_not front)).trans (totalOf_append ..)
  obtain ⟨lt, rfl⟩ := List.getElem?_eq_some_iff.1 found
  have waiting : total name (s.flushing.flatMap points) =
      total name (points s.flushing[task]) +
        total name ((s.flushing.eraseIdx task).flatMap points) := by
    rw [← total_append, ← List.flatMap_cons]
    exact total_perm ((List.getElem_cons_eraseIdx_perm lt).symm.flatMap_right _)
  rw [start.flushed name, waiting, fates, totalOf_append, totalOf_append]
  abel

theorem tracked_step (json : sizes.JsonSucceeds) {action : MetricsAction V K}
    (start : s.Tracked tags)
    (h : s.step sizes orders metricsFlusher enc action = some s') : s'.Tracked tags := by
  cases action with
  | insertBatch metrics =>
    obtain ⟨service, ran, rfl⟩ := Option.map_eq_some_iff.1 h
    have accounted := AggregatorService.accounted_step json start.accounted ran
    unfold AggregatorService.step at ran
    split at ran <;> cases ran
    obtain ⟨same, attempted⟩ := log_insertBatch s.service metrics
    refine ⟨accounted, ?_, ?_⟩
    · simp only [attempted, start.inserted]
    · simpa only [same] using start.flushed
  | tick =>
    obtain ⟨service, ran, rfl⟩ := Option.map_eq_some_iff.1 h
    exact tracked_tick start (AggregatorService.accounted_step json start.accounted ran) ran
  | ship task resolution seriesNet sketchNet =>
    obtain ⟨response, found, rfl⟩ := Option.map_eq_some_iff.1 h
    exact tracked_ship start found rfl

/-! ## What has been counted -/

omit [AddCommMonoid V] [DDSketch V K] [ToDogsketch K B] in
theorem acceptedOf_subset (log : List (ServiceEvent V K B)) : acceptedOf log ⊆ attemptedOf log := by
  intro metric mem
  obtain ⟨event, mem, accepted⟩ := List.mem_filterMap.1 mem
  refine List.mem_filterMap.2 ⟨event, mem, ?_⟩
  cases event <;> first | exact accepted | cases accepted

omit [DDSketch V K] [ToDogsketch K B] in
theorem sum_attemptedOf (name : String) (log : List (ServiceEvent V K B)) :
    ((attemptedOf log).map (share name)).sum =
      ((acceptedOf log).map (share name)).sum + ((overflowedOf log).map (share name)).sum := by
  induction log with
  | nil => simp [attemptedOf, acceptedOf, overflowedOf]
  | cons event rest ih =>
    simp only [attemptedOf, acceptedOf, overflowedOf] at ih ⊢
    cases event <;> simp [ih, add_assoc, add_left_comm]

theorem sum_epochs {name : String} {tags : SortedTags}
    {flushes : List (List (Metric V K) × FlushResponse V B)}
    (ships : ∀ epoch ∈ flushes, AggregatorService.Ships tags epoch.1 epoch.2)
    (counted : ∀ epoch ∈ flushes, CountedApart name epoch.1) :
    ((flushes.flatMap (·.1)).map (share name)).sum =
      total name (flushes.flatMap fun epoch => points epoch.2) := by
  induction flushes with
  | nil => rfl
  | cons epoch rest ih =>
    have now : ((epoch.1).map (share name)).sum = total name (points epoch.2) := by
      rw [total_perm (ships epoch List.mem_cons_self).points, total_filterMap_buildMetric,
        sum_share_entriesOf (counted epoch List.mem_cons_self)]
    have later := ih (fun e mem => ships e (List.mem_cons_of_mem _ mem))
      (fun e mem => counted e (List.mem_cons_of_mem _ mem))
    rw [List.flatMap_cons, List.flatMap_cons, List.map_append, List.sum_append, total_append, now,
      later]

theorem tracked_new {maxContext : Nat} {service : AggregatorService V K B}
    (created : AggregatorService.new tags maxContext = .ok service) :
    Tracked tags ({ service } : MetricsPipeline V K B) := by
  have accounted := AggregatorService.accounted_new created
  unfold AggregatorService.new Aggregator.new at created
  split at created <;> cases created
  exact ⟨accounted, rfl, fun name => by simp [epochs, totalOf, total]⟩

/-- Where what was inserted for a name is. -/
theorem Tracked.conserved (tracked : s.Tracked tags) {name : String}
    (counted : CountedApart name s.inserted) :
    (s.inserted.map (share name)).sum =
      totalOf name s.taken + totalOf name s.dropped + total name (s.flushing.flatMap points) +
        (s.service.aggregator.map.values.map (share name)).sum +
        ((overflowedOf s.service.log).map (share name)).sum := by
  obtain ⟨⟨-, table, shipped⟩, inserted, flushed⟩ := tracked
  have accepted := AggregatorService.acceptedOf_eq [] s.service.log
  rw [List.nil_append] at accepted
  have within : acceptedOf s.service.log ⊆ s.inserted := inserted ▸ acceptedOf_subset _
  have epochsCounted : ∀ epoch ∈ epochs [] s.service.log, CountedApart name epoch.1 := by
    intro epoch mem
    refine counted.mono fun m here => within ?_
    rw [accepted]
    exact List.mem_append_left _ (List.mem_flatMap.2 ⟨epoch, mem, here⟩)
  have pendingCounted : CountedApart name (pending [] s.service.log) := by
    refine counted.mono fun m here => within ?_
    rw [accepted]
    exact List.mem_append_right _ here
  have held : (s.service.aggregator.map.values.map (share name)).sum =
      ((pending [] s.service.log).map (share name)).sum := by
    rw [table, ((Grouping.values_table _).map (share name)).sum_eq]
    exact sum_share_entriesOf pendingCounted
  rw [inserted, sum_attemptedOf, accepted, List.map_append, List.sum_append,
    sum_epochs shipped epochsCounted, flushed, held]
  abel

/-- In exact arithmetic, in every run, whatever the order of inserts, ticks and tasks and whatever
the network does: for a name whose metrics are counters and share no id with another name, what was
inserted is what the intake took, what the tasks were refused and dropped, what the tasks and the
aggregator still hold, and what found the table full. -/
theorem counters_conserved (sizes : Sizes V B) (json : sizes.JsonSucceeds)
    (orders : Nat → TableOrder (Metric V K) × TableOrder (Metric V K)) (metricsFlusher : Flusher)
    (enc : Encoders V B) (tags : SortedTags) (maxContext : Nat)
    (service : AggregatorService V K B)
    (created : AggregatorService.new tags maxContext = .ok service)
    (actions : List (MetricsAction V K)) (s : MetricsPipeline V K B)
    (run : Runs.exec (step sizes orders metricsFlusher enc) { service } actions = some s)
    (name : String) (counted : CountedApart name s.inserted) :
    (s.inserted.map (share name)).sum =
      totalOf name s.taken + totalOf name s.dropped + total name (s.flushing.flatMap points) +
        (s.service.aggregator.map.values.map (share name)).sum +
        ((overflowedOf s.service.log).map (share name)).sum := by
  have tracked : s.Tracked tags :=
    Runs.invariant (fun _ _ _ => tracked_step json) (tracked_new created) run
  exact tracked.conserved counted

omit [MetricHasher] in
/-- A counter is flushed and shipped while it is counted on. -/
theorem counters_conserved_two :
    letI := fnvHasher
    letI := listSketch
    letI : ToDogsketch (List Int) (List Int) := ⟨id⟩
    let sizes : Sizes Int (List Int) := ⟨fun _ => some 100, fun _ => 10⟩
    let inOrder : TableOrder (Metric Int (List Int)) := ⟨id, fun _ => .refl _⟩
    let flusher := Flusher.new (.new "key") "https://api.datadoghq.com" (.linearBackoff 3 1) 6
    let enc : Encoders Int (List Int) := ⟨fun _ => .ok [], fun _ => .ok [], fun _ _ => none⟩
    let accepts : Nat → Wire := fun _ => ⟨fun _ => true, fun _ => .ok ⟨.accepted⟩⟩
    let actions := [.insertBatch [Metric.new 100 "requests" (.count 2) none none], .tick,
      .insertBatch [Metric.new 100 "requests" (.count 3) none none],
      .ship 0 ⟨0, 0, none, 0⟩ accepts accepts]
    ∃ service s, AggregatorService.new ⟨[]⟩ 10 = .ok service ∧
      Runs.exec (step sizes (fun _ => (inOrder, inOrder)) flusher enc) { service } actions =
        some s ∧
      (s.inserted.map (share "requests")).sum =
        totalOf "requests" s.taken + totalOf "requests" s.dropped +
          total "requests" (s.flushing.flatMap points) +
          (s.service.aggregator.map.values.map (share "requests")).sum +
          ((overflowedOf s.service.log).map (share "requests")).sum := by
  let _ := fnvHasher
  let _ := listSketch
  let _ : ToDogsketch (List Int) (List Int) := ⟨id⟩
  intro sizes inOrder flusher enc accepts actions
  have counted : CountedApart "requests"
      ([Metric.new 100 "requests" (.count 2) none none] ++
        [Metric.new 100 "requests" (.count 3) none none] : List (Metric Int (List Int))) := by
    constructor
    · intro m _ m' mem _ _
      rcases List.mem_cons.1 mem with rfl | mem
      · rfl
      · rw [List.mem_singleton.1 mem]
        rfl
    · intro m mem _
      rcases List.mem_cons.1 mem with rfl | mem
      · exact ⟨2, rfl⟩
      · exact ⟨3, by rw [List.mem_singleton.1 mem]; rfl⟩
  exact ⟨_, _, rfl, rfl, counters_conserved sizes (fun _ => ⟨99, rfl⟩)
    (fun _ => (inOrder, inOrder)) flusher enc ⟨[]⟩ 10 _ rfl actions _ rfl "requests" counted⟩

end MetricsPipeline

end ServerlessComponents.MainLoop
