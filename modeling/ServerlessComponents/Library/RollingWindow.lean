import Mathlib.Algebra.Order.Group.Int
import Mathlib.Tactic.Ring
import Mathlib.Tactic.Linarith

/-!
# Rolling windows in a ring of slots

A ring of `n` slots holds a value for each of the last `n` ids of a sequence of integer ids; the
slot of an id is its residue. Moving on to a later id clears the slots of the ids passed over.

## Main results

* `slot_idOf`, `idOf_slot` — every slot belongs to exactly one id of the window.
* `Holds.advance` — clearing the slots of the ids passed over keeps the ring in step.
* `Holds.add` — so does adding to the slot of the last id.
-/
namespace RollingWindow

variable {α : Type*} {n : ℕ} [NeZero n]

/-- The slot of an id. -/
def slot (n : ℕ) [NeZero n] (i : ℤ) : Fin n :=
  ⟨(i % n).toNat, by
    have := Nat.pos_of_ne_zero (NeZero.ne n)
    have := Int.emod_lt_of_pos i (b := n) (by omega)
    have := Int.emod_nonneg i (b := n) (by omega)
    omega⟩

/-- The id with a given slot among the `n` ids up to `last`. -/
def idOf (last : ℤ) (k : Fin n) : ℤ := last - (last - k) % n

theorem width_pos : (0 : ℤ) < n := by
  have := Nat.pos_of_ne_zero (NeZero.ne n)
  omega

theorem slot_eq_iff {i j : ℤ} : slot n i = slot n j ↔ (n : ℤ) ∣ i - j := by
  have hi := Int.emod_nonneg i (width_pos (n := n)).ne'
  have hj := Int.emod_nonneg j (width_pos (n := n)).ne'
  rw [Int.dvd_iff_emod_eq_zero, ← Int.emod_eq_emod_iff_emod_sub_eq_zero]
  simp only [slot, Fin.mk.injEq]
  omega

theorem slot_add_width (i : ℤ) : slot n (i + n) = slot n i :=
  slot_eq_iff.2 (by simp)

/-- Within `n` consecutive ids the slot determines the id. -/
theorem slot_inj {last i j : ℤ} (hi : last - n < i) (hi' : i ≤ last) (hj : last - n < j)
    (hj' : j ≤ last) : slot n i = slot n j ↔ i = j := by
  constructor
  · intro h
    have close : |i - j| < n := abs_lt.2 ⟨by omega, by omega⟩
    have apart := Int.eq_zero_of_abs_lt_dvd (slot_eq_iff.1 h) close
    omega
  · rintro rfl
    rfl

theorem idOf_le (last : ℤ) (k : Fin n) : idOf last k ≤ last := by
  have := Int.emod_nonneg (last - k) (width_pos (n := n)).ne'
  unfold idOf
  omega

theorem lt_idOf (last : ℤ) (k : Fin n) : last - n < idOf last k := by
  have := Int.emod_lt_of_pos (last - k) (width_pos (n := n))
  unfold idOf
  omega

@[simp]
theorem slot_idOf (last : ℤ) (k : Fin n) : slot n (idOf last k) = k := by
  have hk : slot n k = k := Fin.ext (by
    have h := Int.emod_eq_of_lt (a := k) (b := n) (by omega) (by exact_mod_cast k.isLt)
    simp [slot, h])
  rw [← hk, slot_eq_iff, hk]
  have h := Int.dvd_self_sub_emod (x := last - k) (m := n)
  unfold idOf
  rwa [sub_right_comm]

theorem idOf_slot {last i : ℤ} (hi : last - n < i) (hi' : i ≤ last) :
    idOf last (slot n i) = i :=
  (slot_inj (lt_idOf ..) (idOf_le ..) hi hi').1 (slot_idOf ..)

/-- The first id after `prev` with the slot of a later id is no later than that id. -/
theorem idOf_slot_le {prev i : ℤ} (h : prev < i) : idOf (prev + n) (slot n i) ≤ i := by
  by_cases near : i ≤ prev + n
  · exact (idOf_slot (by omega) near).le
  · have := idOf_le (prev + n) (slot n i)
    omega

/-- Clear the slots of the ids after `prev` up to `new`. -/
def advance [Zero α] (ring : Fin n → α) (prev new : ℤ) : Fin n → α :=
  fun k => if idOf (prev + n) k ≤ new then 0 else ring k

/-- The ring holds what `total` gives for the last `n` ids, and `total` gives nothing beyond. -/
structure Holds [Zero α] (ring : Fin n → α) (last : ℤ) (total : ℤ → α) : Prop where
  window : ∀ i, last - n < i → i ≤ last → ring (slot n i) = total i
  future : ∀ i, last < i → total i = 0

omit [NeZero n] in
theorem advance_zero [Zero α] (prev new : ℤ) : advance (0 : Fin n → α) prev new = 0 := by
  funext k
  simp [advance]

namespace Holds

theorem zero [Zero α] (last : ℤ) : Holds (0 : Fin n → α) last 0 :=
  ⟨fun _ _ _ => rfl, fun _ _ => rfl⟩

theorem apply [Zero α] {ring : Fin n → α} {last : ℤ} {total : ℤ → α}
    (h : Holds ring last total) (k : Fin n) : ring k = total (idOf last k) := by
  simpa using h.window (idOf last k) (lt_idOf ..) (idOf_le ..)

theorem advance [Zero α] {ring : Fin n → α} {prev new : ℤ} {total : ℤ → α}
    (h : Holds ring prev total) (le : prev ≤ new) :
    Holds (RollingWindow.advance ring prev new) new total where
  window i hi hi' := by
    unfold RollingWindow.advance
    by_cases passed : prev < i
    · rw [if_pos ((idOf_slot_le passed).trans hi'), h.future i passed]
    · have hid : idOf (prev + n) (slot n i) = i + n := by
        rw [← slot_add_width]
        exact idOf_slot (by omega) (by omega)
      rw [hid, if_neg (by omega), h.window i (by omega) (by omega)]
  future i hi := h.future i (by omega)

theorem add [AddMonoid α] {ring : Fin n → α} {last : ℤ} {total : ℤ → α}
    (h : Holds ring last total) (w : α) :
    Holds (Function.update ring (slot n last) (ring (slot n last) + w)) last
      (Function.update total last (total last + w)) where
  window i hi hi' := by
    have same : slot n i = slot n last ↔ i = last :=
      slot_inj hi hi' (by have := width_pos (n := n); omega) le_rfl
    by_cases eq : i = last
    · subst eq
      simp [h.window i hi hi']
    · rw [Function.update_of_ne (mt same.1 eq), Function.update_of_ne eq, h.window i hi hi']
  future i hi := by rw [Function.update_of_ne (by omega), h.future i hi]

end Holds

end RollingWindow
