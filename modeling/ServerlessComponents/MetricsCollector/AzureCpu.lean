import Mathlib.Algebra.BigOperators.Ring.Finset
import Mathlib.Algebra.Order.Field.Rat
import Mathlib.Tactic.Linarith
import ServerlessComponents.Dogstatsd.Metric
import ServerlessComponents.Library.Consecutive

/-!
# CPU usage of Azure functions

`azure_cpu.rs` of the metrics collector: from each cumulative reading to the next one a rate is
submitted. Rates are rational, so that arithmetic is exact; instants are nanoseconds.

## Main results

* `usage_conserved` — the rates, over the time they cover, add up to the usage.
-/
namespace ServerlessComponents.MetricsCollector

open Consecutive (pairs)
open Dogstatsd (DDSketch Metric MetricHasher MetricValue SortedTags)

def CPU_USAGE_METRIC : String := "azure.functions.enhanced.cpu.usage"

structure CpuStats where
  total : UInt64
  deriving DecidableEq, Repr

/-- What a call of `collect_and_submit` finds: the answer of its reader, the instant, the seconds
since the epoch, if it is not ahead, and the clock that `Metric::new` reads. -/
structure Collection where
  cpuStats : Option CpuStats
  nowInstant : Nat
  sinceEpoch : Option Nat
  clock : Int
  deriving DecidableEq, Repr

section Collector

variable {K : Type} [MetricHasher]

/-- A metric given to `insert_batch`, with the rate in its sketch and the ends of its interval. -/
structure Submission (K : Type) where
  usageMetric : Metric ℚ K
  usageRateNc : ℚ
  since : Nat
  upTo : Nat

structure CpuMetricsCollector (K : Type) where
  tags : Option SortedTags
  lastUsageNs : Option UInt64 := none
  lastCollectionTime : Nat
  submitted : List (Submission K) := []

def seconds (nanos : Nat) : ℚ := nanos / 10 ^ 9

def computeUsageRateNc (currentUsageNs lastUsageNs : UInt64) (elapsedSecs : ℚ) : Option ℚ :=
  if currentUsageNs < lastUsageNs then none
  else if elapsedSecs ≤ 0 then none
  else
    let deltaNs : ℚ := (currentUsageNs - lastUsageNs).toNat
    some (deltaNs / elapsedSecs)

/-- The seconds since the epoch as an `i64`, 0 when they are not one. -/
def Collection.now (t : Collection) : Int :=
  match t.sinceEpoch with
  | some secs => if secs < 2 ^ 63 then secs else 0
  | none => 0

namespace CpuMetricsCollector

variable [DDSketch ℚ K]

/-- `new`, at the instant it is called. -/
def new (tags : Option SortedTags) (created : Nat) : CpuMetricsCollector K :=
  { tags, lastCollectionTime := created }

def collectAndSubmit (c : CpuMetricsCollector K) (t : Collection) : CpuMetricsCollector K :=
  match t.cpuStats with
  | none => c
  | some cpuStats =>
    let currentUsageNs := cpuStats.total
    let updated : CpuMetricsCollector K :=
      { c with lastUsageNs := some currentUsageNs, lastCollectionTime := t.nowInstant }
    match c.lastUsageNs with
    | none => updated
    | some lastUsageNs =>
      -- `duration_since` is zero for an instant that is later
      let elapsedSecs := seconds (t.nowInstant - c.lastCollectionTime)
      match computeUsageRateNc currentUsageNs lastUsageNs elapsedSecs with
      | none => updated
      | some usageRateNc =>
        let usageMetric : Metric ℚ K :=
          .new t.clock CPU_USAGE_METRIC (.ofDistribution usageRateNc) c.tags (some t.now)
        { updated with
          submitted := c.submitted ++
            [⟨usageMetric, usageRateNc, c.lastCollectionTime, t.nowInstant⟩] }

def run (tags : Option SortedTags) (created : Nat) (ts : List Collection) : CpuMetricsCollector K :=
  ts.foldl collectAndSubmit (new tags created)

end CpuMetricsCollector

/-! ## Readings -/

/-- A reading that did not fail. -/
structure Reading where
  usageNs : Nat
  instant : Nat
  deriving DecidableEq, Repr

def Collection.reading (t : Collection) : Option Reading :=
  t.cpuStats.map fun cpuStats => ⟨cpuStats.total.toNat, t.nowInstant⟩

def readings (ts : List Collection) : List Reading := ts.filterMap Collection.reading

/-- From a reading to the next one; nothing where the usage went down. -/
def increase (p : Reading × Reading) : Nat := p.2.usageNs - p.1.usageNs

def Grows (p : Reading × Reading) : Prop := p.1.usageNs ≤ p.2.usageNs

instance : DecidablePred Grows := fun p => inferInstanceAs (Decidable (p.1.usageNs ≤ p.2.usageNs))

namespace Submission

def elapsedSecs (s : Submission K) : ℚ := seconds (s.upTo - s.since)

def usage (s : Submission K) : ℚ := s.usageRateNc * s.elapsedSecs

end Submission

/-- What a collector has submitted after some readings, and what it compares the next one with. -/
structure Conserved [DDSketch ℚ K] (c : CpuMetricsCollector K) (rs : List Reading) : Prop where
  usage : (c.submitted.map Submission.usage).sum = (((pairs rs).map increase).sum : Nat)
  covered : c.submitted.map (fun s => (s.since, s.upTo)) =
    ((pairs rs).filter Grows).map fun p => (p.1.instant, p.2.instant)
  metrics : ∀ s ∈ c.submitted, s.usageMetric.name = CPU_USAGE_METRIC ∧
    s.usageMetric.value = .ofDistribution s.usageRateNc
  baseline : c.lastUsageNs.map UInt64.toNat = rs.getLast?.map Reading.usageNs
  since : ∀ r ∈ rs.getLast?, c.lastCollectionTime = r.instant

/-! ## One interval -/

section Rate

variable {current last : UInt64} {elapsedSecs : ℚ}

omit [MetricHasher] in
theorem computeUsageRateNc_of_lt (down : current.toNat < last.toNat) :
    computeUsageRateNc current last elapsedSecs = none :=
  if_pos (UInt64.lt_iff_toNat_lt.2 down)

omit [MetricHasher] in
/-- A rate over its interval is what was used in it. -/
theorem computeUsageRateNc_of_le (up : last.toNat ≤ current.toNat) (pos : 0 < elapsedSecs) :
    ∃ rate, computeUsageRateNc current last elapsedSecs = some rate ∧
      rate * elapsedSecs = (current.toNat - last.toNat : Nat) := by
  have le : last ≤ current := UInt64.le_iff_toNat_le.2 up
  refine ⟨(current - last).toNat / elapsedSecs, ?_, ?_⟩
  · rw [computeUsageRateNc, if_neg (UInt64.not_lt.2 le), if_neg (not_le.2 pos)]
  · rw [div_mul_cancel₀ _ pos.ne', UInt64.toNat_sub_of_le _ _ le]

omit [MetricHasher] in
theorem seconds_pos {nanos : Nat} (pos : 0 < nanos) : 0 < seconds nanos :=
  div_pos (Nat.cast_pos.2 pos) (by norm_num)

end Rate

/-! ## Calls -/

section Calls

variable [DDSketch ℚ K] {c : CpuMetricsCollector K} {rs : List Reading} {t : Collection}
  {cpuStats : CpuStats}

theorem collectAndSubmit_of_none (failed : t.cpuStats = none) : c.collectAndSubmit t = c := by
  rw [CpuMetricsCollector.collectAndSubmit, failed]

theorem conserved_new (tags : Option SortedTags) (created : Nat) :
    Conserved (CpuMetricsCollector.new tags created : CpuMetricsCollector K) [] :=
  ⟨rfl, rfl, nofun, rfl, nofun⟩

/-- The baseline moves with every reading. -/
theorem conserved_of_submitted (h : Conserved c rs) {submitted : List (Submission K)}
    (usage : (submitted.map Submission.usage).sum =
      (((pairs (rs ++ [⟨cpuStats.total.toNat, t.nowInstant⟩])).map increase).sum : Nat))
    (covered : submitted.map (fun s => (s.since, s.upTo)) =
      ((pairs (rs ++ [⟨cpuStats.total.toNat, t.nowInstant⟩])).filter Grows).map
        fun p => (p.1.instant, p.2.instant))
    (metrics : ∀ s ∈ submitted, s ∈ c.submitted ∨ s.usageMetric.name = CPU_USAGE_METRIC ∧
      s.usageMetric.value = .ofDistribution s.usageRateNc) :
    Conserved { c with
        lastUsageNs := some cpuStats.total, lastCollectionTime := t.nowInstant, submitted }
      (rs ++ [⟨cpuStats.total.toNat, t.nowInstant⟩]) where
  usage := usage
  covered := covered
  metrics s mem := (metrics s mem).elim (h.metrics s) id
  baseline := by
    rw [List.getLast?_concat]
    rfl
  since _ mem := by
    rw [List.getLast?_concat] at mem
    cases mem
    rfl

/-- The first reading that does not fail is only remembered. -/
theorem conserved_first (h : Conserved c rs) (read : t.cpuStats = some cpuStats)
    (first : c.lastUsageNs = none) :
    Conserved (c.collectAndSubmit t) (rs ++ [⟨cpuStats.total.toNat, t.nowInstant⟩]) := by
  have none_ : rs = [] := by
    have baseline := h.baseline
    rw [first] at baseline
    exact List.getLast?_eq_none_iff.1 (Option.map_eq_none_iff.1 baseline.symm)
  subst none_
  simp only [CpuMetricsCollector.collectAndSubmit, read, first]
  exact conserved_of_submitted h h.usage h.covered fun _ => .inl

/-- A later reading is compared with the last one. -/
theorem conserved_next {lastUsageNs : UInt64} (h : Conserved c rs)
    (read : t.cpuStats = some cpuStats) (next : c.lastUsageNs = some lastUsageNs)
    (later : ∀ r ∈ rs.getLast?, r.instant < t.nowInstant) :
    Conserved (c.collectAndSubmit t) (rs ++ [⟨cpuStats.total.toNat, t.nowInstant⟩]) := by
  obtain ⟨usage, covered, -, baseline, since⟩ := id h
  rw [next] at baseline
  obtain ⟨a, last, same⟩ := Option.map_eq_some_iff.1 baseline.symm
  obtain ⟨front, rfl⟩ := List.getLast?_eq_some_iff.1 last
  have at_ : c.lastCollectionTime = a.instant := since a last
  have pairs_ := Consecutive.pairs_concat_concat front a ⟨cpuStats.total.toNat, t.nowInstant⟩
  rcases Nat.lt_or_ge cpuStats.total.toNat lastUsageNs.toNat with down | up
  · have shrinks : ¬ Grows (a, ⟨cpuStats.total.toNat, t.nowInstant⟩) :=
      Nat.not_le.2 (same ▸ down)
    have nothing : increase (a, ⟨cpuStats.total.toNat, t.nowInstant⟩) = 0 :=
      Nat.sub_eq_zero_of_le (same ▸ down.le)
    simp only [CpuMetricsCollector.collectAndSubmit, read, next, computeUsageRateNc_of_lt down]
    refine conserved_of_submitted h ?_ ?_ fun _ => .inl
    · rw [pairs_, usage]
      simp [nothing]
    · rw [pairs_, covered]
      simp [shrinks]
  · have grows : Grows (a, ⟨cpuStats.total.toNat, t.nowInstant⟩) := same.le.trans up
    have elapsed : 0 < seconds (t.nowInstant - c.lastCollectionTime) :=
      seconds_pos (Nat.sub_pos_of_lt (at_ ▸ later a last))
    obtain ⟨rate, computed, used⟩ := computeUsageRateNc_of_le up elapsed
    simp only [CpuMetricsCollector.collectAndSubmit, read, next, computed]
    refine conserved_of_submitted h ?_ ?_ ?_
    · have more : rate * seconds (t.nowInstant - c.lastCollectionTime) =
          increase (a, ⟨cpuStats.total.toNat, t.nowInstant⟩) := by
        rw [used, increase, same]
      rw [pairs_, List.map_append, List.sum_append, usage]
      simp only [List.map_append, List.sum_append, List.map_cons, List.map_nil, List.sum_cons,
        List.sum_nil, add_zero, Nat.cast_add]
      exact congrArg _ more
    · rw [pairs_, List.map_append, covered]
      simp [grows, at_]
    · intro s mem
      rcases List.mem_append.1 mem with old | new
      · exact .inl old
      · rw [List.mem_singleton.1 new]
        exact .inr ⟨rfl, rfl⟩

theorem conserved_collect {ts : List Collection} (h : Conserved c (readings ts))
    (later : ∀ r ∈ (readings ts).getLast?, r.instant < t.nowInstant) :
    Conserved (c.collectAndSubmit t) (readings (ts ++ [t])) := by
  rw [readings, List.filterMap_append, ← readings]
  cases read : t.cpuStats with
  | none =>
    have none_ : t.reading = none := by rw [Collection.reading, read]; rfl
    rw [collectAndSubmit_of_none read, List.filterMap_cons_none none_, List.filterMap_nil,
      List.append_nil]
    exact h
  | some cpuStats =>
    have some_ : t.reading = some ⟨cpuStats.total.toNat, t.nowInstant⟩ := by
      rw [Collection.reading, read]; rfl
    rw [List.filterMap_cons_some some_, List.filterMap_nil]
    cases last : c.lastUsageNs with
    | none => exact conserved_first h read last
    | some lastUsageNs => exact conserved_next h read last later

omit [MetricHasher] in
theorem exists_of_mem_readings {ts : List Collection} {r : Reading} (mem : r ∈ readings ts) :
    ∃ t ∈ ts, r.instant = t.nowInstant := by
  obtain ⟨t, there, read⟩ := List.mem_filterMap.1 mem
  obtain ⟨cpuStats, -, rfl⟩ := Option.map_eq_some_iff.1 read
  exact ⟨t, there, rfl⟩

theorem conserved_run (tags : Option SortedTags) (created : Nat) {ts : List Collection}
    (increasing : ts.Pairwise fun t u => t.nowInstant < u.nowInstant) :
    Conserved (CpuMetricsCollector.run tags created ts : CpuMetricsCollector K) (readings ts) := by
  induction ts using List.reverseRecOn with
  | nil => exact conserved_new tags created
  | append_singleton ts t ih =>
    obtain ⟨before, -, later⟩ := List.pairwise_append.1 increasing
    rw [CpuMetricsCollector.run, List.foldl_append]
    apply conserved_collect (ih before)
    intro r mem
    obtain ⟨u, there, same⟩ := exists_of_mem_readings (List.mem_of_getLast? mem)
    rw [same]
    exact later u there t List.mem_cons_self

/-- After any calls at increasing instants: the rates over their intervals add up to what was used
from each reading to the next; the intervals are those between consecutive readings, without the
ones in which the usage went down; the last reading is the baseline; and a call whose reading fails
changes nothing. -/
theorem usage_conserved (tags : Option SortedTags) (created : Nat) (ts : List Collection)
    (increasing : ts.Pairwise fun t u => t.nowInstant < u.nowInstant) :
    Conserved (CpuMetricsCollector.run tags created ts : CpuMetricsCollector K) (readings ts) ∧
      ∀ t : Collection, t.cpuStats = none →
        (CpuMetricsCollector.run tags created ts : CpuMetricsCollector K).collectAndSubmit t =
          CpuMetricsCollector.run tags created ts :=
  ⟨conserved_run tags created increasing, fun _ => collectAndSubmit_of_none⟩

end Calls

end Collector

/-- Sketches that list their values. -/
@[reducible]
def rateSketch : DDSketch ℚ (List ℚ) := ⟨[], fun sketch v => v :: sketch, (· ++ ·)⟩

/-- A hasher that counts what is written. -/
@[reducible]
def countingHasher : MetricHasher := ⟨fun writes => .ofNat writes.length⟩

/-- Readings at whole seconds: the second one fails, and the fourth one is below the third. -/
def fiveCollections : List Collection :=
  [⟨some ⟨1000⟩, 1000000000, some 1, 1⟩, ⟨none, 2000000000, some 2, 2⟩,
    ⟨some ⟨5000⟩, 3000000000, some 3, 3⟩, ⟨some ⟨2000⟩, 4000000000, none, 4⟩,
    ⟨some ⟨2500⟩, 5000000000, some 5, 5⟩]

theorem usage_conserved_five :
    letI := countingHasher
    letI := rateSketch
    Conserved (.run none 0 fiveCollections : CpuMetricsCollector (List ℚ))
        [⟨1000, 1000000000⟩, ⟨5000, 3000000000⟩, ⟨2000, 4000000000⟩, ⟨2500, 5000000000⟩] ∧
      ∀ t : Collection, t.cpuStats = none →
        (CpuMetricsCollector.run none 0 fiveCollections :
          CpuMetricsCollector (List ℚ)).collectAndSubmit t = .run none 0 fiveCollections :=
  letI := countingHasher
  letI := rateSketch
  usage_conserved none 0 fiveCollections (by decide)

end ServerlessComponents.MetricsCollector
