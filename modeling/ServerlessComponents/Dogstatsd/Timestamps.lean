import Mathlib.Order.Bounds.Defs
import ServerlessComponents.Dogstatsd.MessageFields

/-!
# Timestamps

From the timestamp field of a message, or the clock, to the bucket of the metric and the timestamp
of the point that is shipped for it. The division rounds to zero and the cast wraps around, which
shows below zero only.

## Main results

* `timestamps_exact_iff` — when the bucket is the one below the time and is shipped as it is.
-/
namespace ServerlessComponents.Dogstatsd

/-- A reading of the clock: `as_secs().try_into().unwrap_or_default()`. -/
def clockSeconds (secs : UInt64) : Int := if secs.toNat < 2 ^ 63 then secs.toNat else 0

theorem clockSeconds_lt (secs : UInt64) : clockSeconds secs < 2 ^ 63 := by
  unfold clockSeconds
  split <;> omega

/-! ## Rounding and casting -/

theorem Metric.timestampToBucket_eq (clock t : Int) :
    timestampToBucket clock t = (min t clock).tdiv 10 * 10 := by
  unfold timestampToBucket
  split
  · rw [min_eq_right (by omega)]
  · rw [min_eq_left (by omega)]

/-- Rounding to zero rounds down what is not negative or needs no rounding. -/
theorem isGreatest_tdiv_iff (t : Int) :
    IsGreatest {bucket | 10 ∣ bucket ∧ bucket ≤ t} (t.tdiv 10 * 10) ↔ 0 ≤ t ∨ 10 ∣ t := by
  constructor
  · intro greatest
    by_contra inexact
    have negated : t.tdiv 10 = -(-t / 10) := by
      rw [← Int.tdiv_eq_ediv_of_nonneg (by omega), Int.neg_tdiv, Int.neg_neg]
    -- below zero the quotient is rounded up, so that its multiple is not below the time
    have above : t.tdiv 10 * 10 ≤ t := greatest.1.2
    rw [negated] at above
    omega
  · rintro (nonneg | exact)
    · rw [Int.tdiv_eq_ediv_of_nonneg nonneg]
      refine ⟨⟨Int.dvd_mul_left .., by omega⟩, fun bucket ⟨multiple, le⟩ => ?_⟩
      omega
    · rw [Int.tdiv_mul_cancel exact]
      exact ⟨⟨exact, le_rfl⟩, fun bucket ⟨_, le⟩ => le⟩

theorem timestampAsU64_eq_iff {t : Int} (small : t < 2 ^ 64) :
    (timestampAsU64 t : Int) = t ↔ 0 ≤ t :=
  ⟨fun eq => eq ▸ Int.natCast_nonneg _, fun nonneg => timestampAsU64_of_nonneg nonneg small⟩

/-! ## A metric and its point -/

section Message

variable {V K : Type} [MetricHasher] [DoubleText V] [DDSketch V K]

variable (V) in
/-- The time of a message: its last timestamp field, or else the clock, and no later than that. -/
def effectiveTime (now clock : Int) (input : String) : Int :=
  min ((setTimestamp V (messageFields input)).getD now) clock

omit [MetricHasher] [DoubleText V] in
/-- Messages of type `d` are the ones that give distributions. -/
theorem type_eq_iff_of_valueOfType {type : String} {val : V} {value : MetricValue V K}
    (of_type : valueOfType type val = .ok value) :
    type = "d" ↔ ∃ sketch, value = .distribution sketch := by
  unfold valueOfType at of_type
  by_cases distribution : type = "d"
  · subst distribution
    cases of_type
    simp
  · rw [if_neg distribution] at of_type
    split at of_type
    · cases of_type
      simp [distribution]
    · split at of_type <;> grind

omit [DoubleText V] [DDSketch V K] in
theorem timestamp_of_buildMetric {base : SortedTags} {entry : Metric V K} {point : MetricToShip V}
    (built : buildMetric base entry = some point) :
    point.point.timestamp = timestampAsU64 entry.timestamp := by
  unfold buildMetric at built
  split at built <;> cases built
  rfl

omit [DoubleText V] [DDSketch V K] in
/-- Every entry but a distribution has a point. -/
theorem exists_buildMetric_iff (base : SortedTags) (entry : Metric V K) :
    (∃ point, buildMetric base entry = some point) ↔
      ¬∃ sketch, entry.value = .distribution sketch := by
  unfold buildMetric
  cases entry.value <;> simp [kindOf, MetricValue.getValue]

/-- The bucket is the multiple of ten seconds at or below the time of the message, and any point
shipped for the metric has it as its timestamp. -/
structure TimestampsExact (time : Int) (metric : RawMetric V K) : Prop where
  bucket : IsGreatest {bucket | 10 ∣ bucket ∧ bucket ≤ time} metric.timestamp
  point : ∀ base point, buildMetric base metric.sealed = some point →
    (point.point.timestamp : Int) = metric.timestamp

/-- The timestamps of an accepted message are exact unless its time is negative; a distribution is
then still exact if it needs no rounding. -/
theorem timestamps_exact_iff (nowSecs clockSecs : UInt64) {input : String} {metric : RawMetric V K}
    (accepted : parse (clockSeconds nowSecs) (clockSeconds clockSecs) input = .ok metric) :
    let time := effectiveTime V (clockSeconds nowSecs) (clockSeconds clockSecs) input
    TimestampsExact time metric ↔ 0 ≤ time ∨ messageType input = "d" ∧ 10 ∣ time := by
  intro time
  obtain ⟨_, type, fields, pieces, name, values, _, _, _, _, val, value, _, of_type, _, rfl⟩ :=
    parse_eq_ok_iff.1 accepted
  obtain ⟨rfl, rfl⟩ := messageType_of_pieces pieces
  set metric : RawMetric V K := .new (clockSeconds nowSecs) (clockSeconds clockSecs) name value
    (setTags (messageFields input)) (setTimestamp V (messageFields input))
  have rounded : metric.timestamp = time.tdiv 10 * 10 := Metric.timestampToBucket_eq ..
  have small : time < 2 ^ 63 := (min_le_right ..).trans_lt (clockSeconds_lt clockSecs)
  have type_iff : messageType input = "d" ↔ ∃ sketch, metric.sealed.value = .distribution sketch :=
    type_eq_iff_of_valueOfType of_type
  constructor
  · intro exact
    have bucket := exact.bucket
    rw [rounded, isGreatest_tdiv_iff] at bucket
    refine or_iff_not_imp_left.2 fun negative => ⟨?_, bucket.resolve_left negative⟩
    -- a point would have a timestamp below zero
    by_contra plain
    obtain ⟨point, built⟩ := (exists_buildMetric_iff ⟨[]⟩ metric.sealed).2 (plain ∘ type_iff.2)
    have kept : (timestampAsU64 metric.timestamp : Int) = metric.timestamp := by
      have shipped := exact.point _ _ built
      rwa [timestamp_of_buildMetric built] at shipped
    rw [rounded, Int.tdiv_mul_cancel (bucket.resolve_left negative),
      timestampAsU64_eq_iff (by omega)] at kept
    exact negative kept
  · intro condition
    refine ⟨?_, fun base point built => ?_⟩
    · rw [rounded, isGreatest_tdiv_iff]
      exact condition.imp_right And.right
    · have nonneg : 0 ≤ time := condition.resolve_right fun distribution =>
        (exists_buildMetric_iff base metric.sealed).1 ⟨point, built⟩ (type_iff.1 distribution.1)
      have stored : metric.timestamp = time / 10 * 10 := by
        rw [rounded, Int.tdiv_eq_ediv_of_nonneg nonneg]
      rw [timestamp_of_buildMetric built]
      exact timestampAsU64_of_nonneg (t := metric.timestamp) (by omega) (by omega)

omit [MetricHasher] [DoubleText V] [DDSketch V K] in
/-- A count five seconds old. -/
theorem timestamps_exact_recent :
    letI := fnvHasher
    letI := listSketch
    letI := decimalText
    ∃ metric : RawMetric Int (List Int),
      parse (clockSeconds 100) (clockSeconds 100) "requests:2|c|T95" = .ok metric ∧
        TimestampsExact 95 metric := by
  let _ := fnvHasher
  let _ := listSketch
  let _ := decimalText
  have time : effectiveTime Int (clockSeconds 100) (clockSeconds 100) "requests:2|c|T95" = 95 := by
    decide
  obtain ⟨metric, accepted⟩ : ∃ metric : RawMetric Int (List Int),
      parse (clockSeconds 100) (clockSeconds 100) "requests:2|c|T95" = .ok metric := ⟨_, rfl⟩
  have exact_iff := timestamps_exact_iff 100 100 accepted
  rw [time] at exact_iff
  exact ⟨metric, accepted, exact_iff.2 (.inl (by decide))⟩

omit [MetricHasher] [DoubleText V] [DDSketch V K] in
/-- `T-5` is put into the bucket of 0, above it, and `T-100` is shipped as 2^64 - 100. -/
theorem negative_timestamps_not_exact :
    letI := fnvHasher
    letI := listSketch
    letI := decimalText
    (∃ metric : RawMetric Int (List Int),
      parse (clockSeconds 100) (clockSeconds 100) "requests:2|c|T-5" = .ok metric ∧
        ¬TimestampsExact
          (effectiveTime Int (clockSeconds 100) (clockSeconds 100) "requests:2|c|T-5") metric) ∧
    ∃ metric : RawMetric Int (List Int),
      parse (clockSeconds 100) (clockSeconds 100) "requests:2|c|T-100" = .ok metric ∧
        ¬TimestampsExact
          (effectiveTime Int (clockSeconds 100) (clockSeconds 100) "requests:2|c|T-100")
          metric := by
  let _ := fnvHasher
  let _ := listSketch
  let _ := decimalText
  refine ⟨⟨_, rfl, fun exact => ?_⟩, ⟨_, rfl, fun exact => ?_⟩⟩
  · exact absurd exact.bucket.1.2 (by decide)
  · exact absurd (exact.point ⟨[]⟩ _ rfl) (by decide)

end Message

end ServerlessComponents.Dogstatsd
