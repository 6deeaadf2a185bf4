import Mathlib.Data.List.Basic

/-!
# Consecutive pairs

Each element of a list with the one after it.
-/
namespace Consecutive

variable {α : Type*}

def pairs (l : List α) : List (α × α) := l.zip l.tail

@[simp] theorem pairs_nil : pairs ([] : List α) = [] := rfl

@[simp] theorem pairs_singleton (a : α) : pairs [a] = [] := rfl

@[simp] theorem pairs_cons_cons (a b : α) (l : List α) :
    pairs (a :: b :: l) = (a, b) :: pairs (b :: l) := rfl

theorem pairs_concat_concat (l : List α) (a b : α) :
    pairs (l ++ [a] ++ [b]) = pairs (l ++ [a]) ++ [(a, b)] := by
  induction l with
  | nil => rfl
  | cons x rest ih =>
    cases rest with
    | nil => rfl
    | cons y rest => simpa using ih

end Consecutive
