import Mathlib.Data.List.Basic

/-!
# Cutting a list in halves

A list that is not accepted is cut in the middle, and each half is treated alike, until a piece is
accepted or cannot be cut.

## Main results

* `Cuts.flatten`, `Cuts.bounded` — the pieces are the list, each accepted or a single element.
* `Cuts.unique` — there is one way to cut a list.
-/
namespace Bisection

variable {α : Type*} (accepts : List α → Prop)

/-- Cutting a list ends with these pieces. -/
inductive Cuts : List α → List (List α) → Prop
  | whole {l : List α} (stop : accepts l ∨ l.length ≤ 1) : Cuts l [l]
  | halves {l : List α} {first second : List (List α)} (refused : ¬ accepts l)
      (several : 1 < l.length) (left : Cuts (l.take (l.length / 2)) first)
      (right : Cuts (l.drop (l.length / 2)) second) : Cuts l (first ++ second)

namespace Cuts

variable {accepts} {l : List α} {pieces pieces' : List (List α)}

/-- The pieces are the list. -/
theorem flatten (cuts : Cuts accepts l pieces) : pieces.flatten = l := by
  induction cuts with
  | whole => simp
  | halves _ _ _ _ first second => rw [List.flatten_append, first, second, List.take_append_drop]

theorem bounded (cuts : Cuts accepts l pieces) {piece : List α} (mem : piece ∈ pieces) :
    accepts piece ∨ piece.length ≤ 1 := by
  induction cuts with
  | whole stop =>
    rw [List.mem_singleton] at mem
    exact mem ▸ stop
  | halves _ _ _ _ first second => exact (List.mem_append.1 mem).elim first second

theorem eq_of_accepts (cuts : Cuts accepts l pieces) (accepted : accepts l) : pieces = [l] := by
  cases cuts with
  | whole => rfl
  | halves refused => exact absurd accepted refused

theorem unique (cuts : Cuts accepts l pieces) (cuts' : Cuts accepts l pieces') :
    pieces = pieces' := by
  induction cuts generalizing pieces' with
  | whole stop =>
    cases cuts' with
    | whole => rfl
    | halves refused several => exact absurd stop (by grind)
  | halves refused several _ _ first second =>
    cases cuts' with
    | whole stop => exact absurd stop (by grind)
    | halves _ _ left right => rw [first left, second right]

end Cuts

end Bisection
