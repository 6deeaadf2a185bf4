import ServerlessComponents.AgentConfig.Deserializers
import ServerlessComponents.Library.Binary64

/-!
# Durations

The deserializers of durations never return an error; what they cannot read is `none`. One of the
constructors they call panics, so their results are in `Except Panic`.

## Main results

* `nearestNanos_lt_iff`, `nearestNanos_lt_second_iff` — the two ends of the floats.
* `decodes_iff` — the values on which no deserializer panics or loses a number.
-/
namespace ServerlessComponents.AgentConfig

inductive Panic where
  /-- `Duration::from_secs_f64`, of what is negative, too large or no number. -/
  | fromSecsF64
  deriving DecidableEq, Repr

structure Duration where
  nanos : Nat
  lt : nanos < 2 ^ 64 * 10 ^ 9
  deriving DecidableEq, Repr

namespace Duration

def asSecs (d : Duration) : Nat := d.nanos / 10 ^ 9

def fromSecs (secs : UInt64) : Duration :=
  ⟨secs.toNat * 10 ^ 9, Nat.mul_lt_mul_of_pos_right secs.toNat_lt (by norm_num)⟩

def fromMicros (micros : UInt64) : Duration :=
  ⟨micros.toNat * 10 ^ 3,
    Nat.mul_lt_mul_of_lt_of_le micros.toNat_lt (by norm_num) (by norm_num)⟩

/-- The nanoseconds nearest to a float, ties to even. -/
@[irreducible] def nearestNanos (secs : UInt64) : Nat :=
  Binary64.roundHalfEven (Binary64.units secs * 10 ^ 9) Binary64.scale

def fromSecsF64 (secs : UInt64) : Except Panic Duration :=
  if ¬ Binary64.isFinite secs ∨ Binary64.value secs < 0 then .error .fromSecsF64
  else if h : nearestNanos secs < 2 ^ 64 * 10 ^ 9 then .ok ⟨nearestNanos secs, h⟩
  else .error .fromSecsF64

end Duration

/-! ## Deserializers -/

def Num.asU64 : Num → Option UInt64
  | .u64 n => some n
  | .i64 n => if 0 ≤ n then some n.toUInt64 else none
  | .f64 _ => none

def Num.asI64 : Num → Option Int64
  | .u64 n => if n.toNat < 2 ^ 63 then some n.toInt64 else none
  | .i64 n => some n
  | .f64 _ => none

/-- Asked only of what is no integer. -/
def Num.asF64 : Num → Option UInt64
  | .f64 bits => some bits
  | _ => none

/-- `serde_json` has no number that is not finite. -/
def Value.json : Value → Value
  | .num (.f64 bits) => if Binary64.isFinite bits then .num (.f64 bits) else .null
  | v => v

def deserializeOptionalDurationFromMicroseconds (v : Value) : Except Panic (Option Duration) :=
  match deserializeOption deserializeU64 v with
  | .ok opt => .ok (opt.map Duration.fromMicros)
  | .error _ => .ok none

def deserializeOptionalDurationFromSeconds (v : Value) : Except Panic (Option Duration) :=
  match v.json with
  | .num n =>
    match n.asU64 with
    | some u => .ok (some (Duration.fromSecs u))
    | none =>
      match n.asI64 with
      | some i => if i < 0 then .ok none else .ok (some (Duration.fromSecs i.toUInt64))
      | none =>
        match n.asF64 with
        | some f =>
          if Binary64.value f < 0 then .ok none else (Duration.fromSecsF64 f).map some
        | none => .ok none
  | _ => .ok none

def deserializeOptionalDurationFromSecondsIgnoreZero (v : Value) :
    Except Panic (Option Duration) :=
  match deserializeOptionalDurationFromSeconds v with
  | .error p => .error p
  | .ok duration => .ok (if duration.any (·.asSecs = 0) then none else duration)

/-! ## Floats -/

namespace Duration

variable {f : UInt64}

theorem nearestNanos_lt_iff_units {secs : Nat} (hs : 0 < secs) :
    nearestNanos f < secs * 10 ^ 9 ↔
      2 * (Binary64.units f * 10 ^ 9) < (2 * (secs * 10 ^ 9) - 1) * Binary64.scale := by
  have odd : (secs * 10 ^ 9 - 1) % 2 = 1 := by omega
  have bound := Binary64.roundHalfEven_le_iff (n := Binary64.units f * 10 ^ 9)
    Binary64.scale_pos odd
  have same : 2 * (secs * 10 ^ 9 - 1) + 1 = 2 * (secs * 10 ^ 9) - 1 := by omega
  rw [same] at bound
  unfold nearestNanos
  omega

/-- A second is a whole second from half a nanosecond before it on. -/
theorem nearestNanos_lt_second_iff (nonneg : 0 ≤ Binary64.value f) :
    nearestNanos f < 10 ^ 9 ↔ Binary64.value f < 1 - 1 / (2 * 10 ^ 9) := by
  have bound := nearestNanos_lt_iff_units (f := f) Nat.one_pos
  have half : (1 - 1 / (2 * 10 ^ 9) : ℚ) = (1999999999 : Nat) / (2000000000 : Nat) := by norm_num
  rw [half, Binary64.value_lt_div_iff nonneg _ (by norm_num)]
  generalize Binary64.scale = scale at *
  omega

/-- There is no float right below `2 ^ 64`. -/
theorem nearestNanos_lt_iff (nonneg : 0 ≤ Binary64.value f) :
    nearestNanos f < 2 ^ 64 * 10 ^ 9 ↔ Binary64.value f < 2 ^ 64 := by
  have bound := nearestNanos_lt_iff_units (f := f) (Nat.two_pow_pos 64)
  have whole : (2 ^ 64 : ℚ) = (2 ^ 64 : Nat) / (1 : Nat) := by norm_num
  have below : Binary64.units f < 2 ^ 64 * Binary64.scale →
      Binary64.units f ≤ (2 ^ 64 - 1) * Binary64.scale :=
    Binary64.units_le_of_lt (by norm_num)
  have pos := Binary64.scale_pos
  rw [whole, Binary64.value_lt_div_iff nonneg _ Nat.one_pos]
  generalize Binary64.scale = scale at *
  omega

theorem fromSecsF64_of_lt (finite : Binary64.isFinite f) (nonneg : 0 ≤ Binary64.value f)
    (small : Binary64.value f < 2 ^ 64) :
    fromSecsF64 f = .ok ⟨nearestNanos f, (nearestNanos_lt_iff nonneg).2 small⟩ := by
  have valid : ¬ (¬ Binary64.isFinite f ∨ Binary64.value f < 0) := by
    rintro (infinite | negative)
    · exact infinite finite
    · exact absurd nonneg (not_le.2 negative)
  unfold fromSecsF64
  rw [if_neg valid, dif_pos]

theorem fromSecsF64_of_large (nonneg : 0 ≤ Binary64.value f) (large : 2 ^ 64 ≤ Binary64.value f) :
    fromSecsF64 f = .error .fromSecsF64 := by
  have overflow : ¬ nearestNanos f < 2 ^ 64 * 10 ^ 9 := by
    rw [nearestNanos_lt_iff nonneg]
    exact not_lt.2 large
  rw [fromSecsF64, dif_neg overflow, ite_self]

theorem asSecs_eq_zero_iff {d : Duration} : d.asSecs = 0 ↔ d.nanos < 10 ^ 9 := by
  rw [asSecs, Nat.div_eq_zero_iff]
  omega

end Duration

/-! ## Decoding -/

/-- The number that a JSON value is. -/
def Value.number : Value → Option ℚ
  | .num (.u64 n) => some n.toNat
  | .num (.i64 n) => some n.toInt
  | .num (.f64 bits) => if Binary64.isFinite bits then some (Binary64.value bits) else none
  | _ => none

/-- A `Duration` holds less than `2 ^ 64` seconds. -/
def Representable (v : Value) : Prop := ∃ x, v.number = some x ∧ 0 ≤ x ∧ x < 2 ^ 64

/-- No deserializer panics, and those of seconds lose no number. -/
structure Decodes (v : Value) : Prop where
  seconds : ∃ d, deserializeOptionalDurationFromSeconds v = .ok d
  microseconds : ∃ d, deserializeOptionalDurationFromMicroseconds v = .ok d
  ignoreZero : ∃ d, deserializeOptionalDurationFromSecondsIgnoreZero v = .ok d
  seconds_none : deserializeOptionalDurationFromSeconds v = .ok none → ¬ Representable v
  ignoreZero_none : deserializeOptionalDurationFromSecondsIgnoreZero v = .ok none →
    ¬ Representable v ∨ v.number = some 0

section

variable {v : Value} {f : UInt64}

theorem microseconds_returns (v : Value) :
    ∃ d, deserializeOptionalDurationFromMicroseconds v = .ok d := by
  unfold deserializeOptionalDurationFromMicroseconds
  split
  · exact ⟨_, rfl⟩
  · exact ⟨_, rfl⟩

theorem ignoreZero_of_none (read : deserializeOptionalDurationFromSeconds v = .ok none) :
    deserializeOptionalDurationFromSecondsIgnoreZero v = .ok none := by
  rw [deserializeOptionalDurationFromSecondsIgnoreZero, read]
  rfl

theorem ignoreZero_of_some {d : Duration}
    (read : deserializeOptionalDurationFromSeconds v = .ok (some d)) :
    deserializeOptionalDurationFromSecondsIgnoreZero v =
      .ok (if d.asSecs = 0 then none else some d) := by
  rw [deserializeOptionalDurationFromSecondsIgnoreZero, read]
  simp

theorem decodes_of_none (read : deserializeOptionalDurationFromSeconds v = .ok none)
    (unreadable : ¬ Representable v) : Decodes v where
  seconds := ⟨none, read⟩
  microseconds := microseconds_returns v
  ignoreZero := ⟨none, ignoreZero_of_none read⟩
  seconds_none _ := unreadable
  ignoreZero_none _ := .inl unreadable

theorem decodes_of_some {d : Duration}
    (read : deserializeOptionalDurationFromSeconds v = .ok (some d))
    (zero : d.asSecs = 0 → v.number = some 0) : Decodes v where
  seconds := ⟨some d, read⟩
  microseconds := microseconds_returns v
  ignoreZero := ⟨_, ignoreZero_of_some read⟩
  seconds_none none_ := by
    rw [read] at none_
    cases none_
  ignoreZero_none none_ := by
    rw [ignoreZero_of_some read] at none_
    split at none_
    · rename_i h
      exact .inr (zero h)
    · cases none_

theorem not_representable_of_neg {x : ℚ} (number : v.number = some x) (negative : x < 0) :
    ¬ Representable v := by
  rintro ⟨y, same, nonneg, _⟩
  rw [number] at same
  cases same
  exact absurd nonneg (not_le.2 negative)

theorem not_representable_of_none (number : v.number = none) : ¬ Representable v := by
  rintro ⟨y, same, _⟩
  rw [number] at same
  cases same

theorem seconds_u64 (n : UInt64) : deserializeOptionalDurationFromSeconds (.num (.u64 n)) =
    .ok (some (Duration.fromSecs n)) := rfl

theorem seconds_i64 (n : Int64) : deserializeOptionalDurationFromSeconds (.num (.i64 n)) =
    if n < 0 then .ok none else .ok (some (Duration.fromSecs n.toUInt64)) := by
  unfold deserializeOptionalDurationFromSeconds
  simp only [Value.json, Num.asU64, Num.asI64]
  by_cases nonneg : 0 ≤ n
  · rw [if_pos nonneg, if_neg (Int64.not_lt.2 nonneg)]
  · rw [if_neg nonneg]

theorem seconds_f64 (finite : Binary64.isFinite f) :
    deserializeOptionalDurationFromSeconds (.num (.f64 f)) =
      if Binary64.value f < 0 then .ok none else (Duration.fromSecsF64 f).map some := by
  have json : (Value.num (.f64 f)).json = .num (.f64 f) := if_pos finite
  rw [deserializeOptionalDurationFromSeconds, json]
  rfl

theorem Duration.asSecs_fromSecs (secs : UInt64) : (Duration.fromSecs secs).asSecs = secs.toNat :=
  Nat.mul_div_cancel _ (by norm_num)

theorem decodes_u64 (n : UInt64) : Decodes (.num (.u64 n)) := by
  apply decodes_of_some (seconds_u64 n)
  intro zero
  rw [Duration.asSecs_fromSecs] at zero
  rw [Value.number, zero]
  rfl

theorem decodes_i64 (n : Int64) : Decodes (.num (.i64 n)) := by
  have read := seconds_i64 n
  by_cases negative : n < 0
  · rw [if_pos negative] at read
    apply decodes_of_none read
    apply not_representable_of_neg rfl
    exact Int.cast_lt_zero.2 (Int64.lt_iff_toInt_lt.1 negative)
  · rw [if_neg negative] at read
    apply decodes_of_some read
    intro zero
    rw [Duration.asSecs_fromSecs] at zero
    have same : n = 0 := calc
      n = n.toUInt64.toInt64 := n.toInt64_toUInt64.symm
      _ = (0 : UInt64).toInt64 := congrArg UInt64.toInt64 (UInt64.toNat_inj.1 zero)
      _ = 0 := rfl
    rw [same]
    rfl

/-- A float that `Duration` cannot hold, or one below a second that is not zero. -/
def Misread (f : UInt64) : Prop :=
  Binary64.isFinite f ∧
    (2 ^ 64 ≤ Binary64.value f ∨ 0 < Binary64.value f ∧ Binary64.value f < 1 - 1 / (2 * 10 ^ 9))

theorem decodes_f64 (fine : ¬ Misread f) : Decodes (.num (.f64 f)) := by
  by_cases finite : Binary64.isFinite f
  swap
  · have number : (Value.num (.f64 f)).number = none := if_neg finite
    have json : (Value.num (.f64 f)).json = .null := if_neg finite
    apply decodes_of_none _ (not_representable_of_none number)
    rw [deserializeOptionalDurationFromSeconds, json]
  have number : (Value.num (.f64 f)).number = some (Binary64.value f) := if_pos finite
  have read := seconds_f64 finite
  rcases lt_or_ge (Binary64.value f) 0 with negative | nonneg
  · rw [if_pos negative] at read
    exact decodes_of_none read (not_representable_of_neg number negative)
  have small : Binary64.value f < 2 ^ 64 := by
    by_contra large
    exact fine ⟨finite, .inl (not_lt.1 large)⟩
  rw [if_neg (not_lt.2 nonneg), Duration.fromSecsF64_of_lt finite nonneg small] at read
  apply decodes_of_some read
  intro zero
  rw [Duration.asSecs_eq_zero_iff, Duration.nearestNanos_lt_second_iff nonneg] at zero
  rw [number]
  by_contra nonzero
  have pos : 0 < Binary64.value f := lt_of_le_of_ne nonneg fun h => nonzero (congrArg some h.symm)
  exact fine ⟨finite, .inr ⟨pos, zero⟩⟩

theorem not_decodes_f64 (misread : Misread f) : ¬ Decodes (.num (.f64 f)) := by
  intro decodes
  obtain ⟨finite, large | ⟨pos, subsecond⟩⟩ := misread
  · have nonneg : 0 ≤ Binary64.value f := le_trans (by norm_num) large
    obtain ⟨d, read⟩ := decodes.seconds
    rw [seconds_f64 finite, if_neg (not_lt.2 nonneg),
      Duration.fromSecsF64_of_large nonneg large] at read
    cases read
  · have number : (Value.num (.f64 f)).number = some (Binary64.value f) := if_pos finite
    have small : Binary64.value f < 2 ^ 64 := lt_trans subsecond (by norm_num)
    have read := seconds_f64 finite
    rw [if_neg (not_lt.2 pos.le), Duration.fromSecsF64_of_lt finite pos.le small] at read
    have dropped := ignoreZero_of_some read
    rw [if_pos] at dropped
    swap
    · rw [Duration.asSecs_eq_zero_iff]
      exact (Duration.nearestNanos_lt_second_iff pos.le).2 subsecond
    rcases decodes.ignoreZero_none dropped with unreadable | exact_
    · exact unreadable ⟨_, number, pos.le, small⟩
    · rw [number] at exact_
      exact pos.ne' (Option.some.inj exact_)

theorem decodes_iff (v : Value) :
    Decodes v ↔ ¬ ∃ f, v = .num (.f64 f) ∧ Binary64.isFinite f ∧
      (2 ^ 64 ≤ Binary64.value f ∨
        0 < Binary64.value f ∧ Binary64.value f < 1 - 1 / (2 * 10 ^ 9)) := by
  constructor
  · rintro decodes ⟨f, rfl, misread⟩
    exact not_decodes_f64 misread decodes
  · intro fine
    match v with
    | .num (.f64 f) => exact decodes_f64 fun misread => fine ⟨f, rfl, misread⟩
    | .num (.u64 n) => exact decodes_u64 n
    | .num (.i64 n) => exact decodes_i64 n
    | .null | .bool _ | .string _ | .array _ | .dict _ =>
      exact decodes_of_none rfl (not_representable_of_none rfl)

end

/-- Half a second is taken for zero, and `1e20` seconds are too many. -/
theorem not_decodes_half : ¬ Decodes (.num (.f64 0x3FE0000000000000)) := by
  intro decodes
  have dropped : deserializeOptionalDurationFromSecondsIgnoreZero
      (.num (.f64 0x3FE0000000000000)) = .ok none := by decide +kernel
  have number : (Value.num (.f64 0x3FE0000000000000)).number = some (1 / 2) := by decide +kernel
  rcases decodes.ignoreZero_none dropped with unreadable | zero
  · exact unreadable ⟨_, number, by norm_num⟩
  · rw [number] at zero
    norm_num at zero

example : deserializeOptionalDurationFromSeconds (.num (.f64 0x4415AF1D78B58C40)) =
  .error .fromSecsF64 := by decide +kernel

end ServerlessComponents.AgentConfig
