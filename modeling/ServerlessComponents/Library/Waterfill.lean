import Mathlib.Algebra.BigOperators.Group.List.Basic
import Mathlib.Algebra.Order.BigOperators.Group.List
import Mathlib.Algebra.Order.Field.Basic
import Mathlib.Tactic.FieldSimp
import Mathlib.Tactic.Linarith

/-!
# Water-filling

Demands in increasing order share a target: each in turn takes its even share of what is left, or
all it asks for when that is less. The level is the share at which the demands begin to be cut.

## Main results

* `share_le_level` — no demand is cut below the even share.
* `sum_min_level` — the demands cut at the level add up to the target, or to all of them.
-/
namespace Waterfill

variable {K : Type*} [Field K] [LinearOrder K]

/-- The level at which the demands, in increasing order, are cut. -/
def level (target : K) : List K → K
  | [] => 0
  | c :: rest =>
    if target / (c :: rest).length ≤ c ∨ rest = [] then target / (c :: rest).length
    else level (target - c) rest

variable [IsStrictOrderedRing K]

theorem count_pos {demands : List K} (ne : demands ≠ []) : (0 : K) < demands.length :=
  Nat.cast_pos.2 (List.length_pos_iff.2 ne)

/-- A demand below the even share leaves more to each of the others. -/
theorem share_lt_share_rest {target c : K} {rest : List K} (ne : rest ≠ [])
    (small : c < target / (c :: rest).length) :
    target / (c :: rest).length < (target - c) / rest.length := by
  have pos : (0 : K) < rest.length := count_pos ne
  have pos' : (0 : K) < (c :: rest).length := count_pos (List.cons_ne_nil c rest)
  have length : ((c :: rest).length : K) = rest.length + 1 := by simp
  rw [lt_div_iff₀ pos]
  have all : target / (c :: rest).length * (c :: rest).length = target :=
    div_mul_cancel₀ _ pos'.ne'
  rw [length] at all small ⊢
  linarith

theorem share_le_level {demands : List K} (ne : demands ≠ []) (target : K) :
    target / demands.length ≤ level target demands := by
  induction demands generalizing target with
  | nil => exact absurd rfl ne
  | cons c rest ih =>
    rw [level]
    split
    · exact le_rfl
    · rename_i small
      obtain ⟨small, ne⟩ := not_or.1 small
      exact (share_lt_share_rest ne (not_le.1 small)).le.trans (ih ne (target - c))

theorem level_pos {demands : List K} (ne : demands ≠ []) {target : K} (pos : 0 < target) :
    0 < level target demands :=
  (div_pos pos (count_pos ne)).trans_le (share_le_level ne target)

/-- Cut at the level, the demands use up the target, or are all met. -/
theorem sum_min_level {demands : List K} (ne : demands ≠ []) (sorted : demands.Pairwise (· ≤ ·))
    (target : K) :
    (demands.map fun c => min c (level target demands)).sum = min target demands.sum := by
  induction demands generalizing target with
  | nil => exact absurd rfl ne
  | cons c rest ih =>
    obtain ⟨least, sorted⟩ := List.pairwise_cons.1 sorted
    rw [level]
    split
    · rename_i cut
      rcases cut with cut | rfl
      · -- every demand is at least the even share
        have all : ∀ x ∈ c :: rest, target / (c :: rest).length ≤ x := by
          rintro x (_ | ⟨_, hx⟩)
          · exact cut
          · exact cut.trans (least x hx)
        have pos : (0 : K) < (c :: rest).length := count_pos ne
        have whole : (c :: rest).length • (target / (c :: rest).length) = target := by
          rw [nsmul_eq_mul, mul_div_cancel₀ _ pos.ne']
        have sum : target ≤ (c :: rest).sum := by
          rw [← whole]
          exact List.card_nsmul_le_sum _ _ all
        rw [min_eq_left sum, List.map_congr_left fun x hx => min_eq_right (all x hx),
          List.map_const', List.sum_replicate, whole]
      · simp [min_comm]
    · rename_i small
      obtain ⟨small, ne⟩ := not_or.1 small
      have small := not_le.1 small
      have below : c ≤ level (target - c) rest :=
        (small.trans (share_lt_share_rest ne small)).le.trans (share_le_level ne _)
      rw [List.map_cons, List.sum_cons, min_eq_left below, ih ne sorted, List.sum_cons,
        ← min_add_add_left, add_sub_cancel]

end Waterfill
