import Mathlib.Algebra.Order.Field.Rat
import Mathlib.Tactic.Linarith
import Mathlib.Tactic.NormNum
import Mathlib.Tactic.Positivity

/-!
# Words of the binary64 format, and rounding to the nearest integer

A word is read as the exact rational it stands for. All of them are multiples of one unit, so a
magnitude is a natural number of units.

## Main results

* `roundHalfEven_le_iff` — what is rounded to an odd number or below it.
* `units_le_of_lt` — a word below a large integer is at most the integer before it.
-/
namespace Binary64

/-! ## Words -/

def field (w : UInt64) : Nat := w.toNat / 2 ^ 52 % 2 ^ 11

def fraction (w : UInt64) : Nat := w.toNat % 2 ^ 52

def signBit (w : UInt64) : Bool := 2 ^ 63 ≤ w.toNat

/-- Neither an infinity nor a NaN. -/
def isFinite (w : UInt64) : Bool := field w ≠ 2047

/-- The units in one. -/
def scale : Nat := 2 ^ 1075

/-- The magnitude in units. -/
def units (w : UInt64) : Nat :=
  if field w = 0 then fraction w * 2 else (2 ^ 52 + fraction w) * 2 ^ field w

def value (w : UInt64) : ℚ := if signBit w then -(units w / scale : ℚ) else units w / scale

theorem two_pow_le_scale {k : Nat} (h : k ≤ 1075) : 2 ^ k ≤ scale :=
  pow_le_pow_right₀ (by norm_num) h

theorem scale_pos : 0 < scale := two_pow_le_scale (Nat.zero_le _)

theorem value_of_nonneg {w : UInt64} (nonneg : 0 ≤ value w) : value w = units w / scale := by
  have magnitude : (0 : ℚ) ≤ units w / scale := by positivity
  unfold value at *
  split at nonneg
  · rename_i negative
    rw [if_pos negative]
    linarith
  · rename_i positive
    rw [if_neg positive]

theorem value_lt_div_iff {w : UInt64} (nonneg : 0 ≤ value w) (p : Nat) {q : Nat} (hq : 0 < q) :
    value w < p / q ↔ units w * q < p * scale := by
  have hq' : (0 : ℚ) < q := Nat.cast_pos.2 hq
  have hs : (0 : ℚ) < scale := Nat.cast_pos.2 scale_pos
  rw [value_of_nonneg nonneg, div_lt_div_iff₀ hs hq', ← Nat.cast_mul, ← Nat.cast_mul, Nat.cast_lt]

theorem fraction_lt (w : UInt64) : fraction w < 2 ^ 52 := Nat.mod_lt _ (by norm_num)

/-- Large magnitudes are integers, so that there is none right below one. -/
theorem units_le_of_lt {w : UInt64} {b : Nat} (large : 2 ^ 52 < b) (h : units w < b * scale) :
    units w ≤ (b - 1) * scale := by
  unfold units at *
  have m := fraction_lt w
  split at h
  · rename_i zero
    rw [if_pos zero]
    calc fraction w * 2 ≤ 2 ^ 52 * 2 := by omega
      _ ≤ 1 * scale := by
        rw [Nat.one_mul, ← Nat.pow_succ]
        exact two_pow_le_scale (by norm_num)
      _ ≤ (b - 1) * scale := Nat.mul_le_mul_right _ (by omega)
  · rename_i normal
    rw [if_neg normal]
    rcases Nat.lt_or_ge (field w) 1075 with small | integral
    · calc (2 ^ 52 + fraction w) * 2 ^ field w
        _ ≤ 2 ^ 52 * 2 * 2 ^ field w := Nat.mul_le_mul_right _ (by omega)
        _ = 2 ^ 52 * 2 ^ (field w + 1) := by rw [Nat.mul_assoc, ← Nat.pow_succ']
        _ ≤ 2 ^ 52 * scale := Nat.mul_le_mul_left _ (two_pow_le_scale small)
        _ ≤ (b - 1) * scale := Nat.mul_le_mul_right _ (by omega)
    · -- the magnitude is a whole number
      have whole : (2 ^ 52 + fraction w) * 2 ^ field w =
          (2 ^ 52 + fraction w) * 2 ^ (field w - 1075) * scale := by
        rw [scale, Nat.mul_assoc, ← Nat.pow_add, Nat.sub_add_cancel integral]
      rw [whole] at h ⊢
      have below := Nat.lt_of_mul_lt_mul_right h
      exact Nat.mul_le_mul_right _ (by omega)

/-! ## Rounding -/

/-- The quotient rounded to the nearest integer, and to the even one of two. -/
def roundHalfEven (n d : Nat) : Nat :=
  if 2 * (n % d) < d ∨ 2 * (n % d) = d ∧ n / d % 2 = 0 then n / d else n / d + 1

/-- From an odd number half a unit leads upwards. -/
theorem roundHalfEven_le_iff {n d k : Nat} (hd : 0 < d) (odd : k % 2 = 1) :
    roundHalfEven n d ≤ k ↔ 2 * n < (2 * k + 1) * d := by
  have expand : (2 * k + 1) * d = 2 * (d * k) + d := by
    rw [Nat.add_mul, Nat.one_mul, Nat.mul_assoc, Nat.mul_comm k d]
  have parts := Nat.div_add_mod n d
  have rest := Nat.mod_lt n hd
  unfold roundHalfEven
  generalize n / d = q at *
  generalize n % d = r at *
  rcases Nat.lt_trichotomy q k with below | rfl | above
  · have : d * (q + 1) ≤ d * k := Nat.mul_le_mul_left d below
    rw [Nat.mul_succ] at this
    constructor
    · intro _
      omega
    · intro _
      split <;> omega
  · split <;> omega
  · have : d * (k + 1) ≤ d * q := Nat.mul_le_mul_left d above
    rw [Nat.mul_succ] at this
    constructor
    · intro h
      split at h <;> omega
    · intro _
      omega

end Binary64
