import Mathlib.Data.List.Perm.Basic
import Mathlib.Data.List.Forall2
import Mathlib.Data.List.Induction

/-!
# Handing out what has been accepted

A store accepts items and, when it is asked, hands out all that are waiting. Whoever asked may have
gone by the time the answer is ready; what was handed out then is lost.

## Main results

* `perm_accepted` — an item is delivered, lost or still waiting.
* `lost_eq_nil_iff` — nothing is lost exactly if nothing was waiting for those who had gone.
-/
namespace Handout

variable {α ρ : Type*}

inductive Event (α : Type*) where
  | accept (item : α)
  | take (delivered : Bool)
  deriving Repr

/-- What one request was answered with, and whether the answer arrived. -/
structure Take (α : Type*) where
  items : List α
  delivered : Bool
  deriving Repr

structure Store (α : Type*) where
  waiting : List α := []
  taken : List (Take α) := []
  deriving Repr

namespace Store

def step (s : Store α) : Event α → Store α
  | .accept item => { s with waiting := s.waiting ++ [item] }
  | .take delivered => ⟨[], s.taken ++ [⟨s.waiting, delivered⟩]⟩

def run (events : List (Event α)) : Store α := events.foldl step {}

def delivered (s : Store α) : List α := (s.taken.filter Take.delivered).flatMap Take.items

def lost (s : Store α) : List α := (s.taken.filter fun take => !take.delivered).flatMap Take.items

end Store

/-- The items of some events. -/
def accepted (events : List (Event α)) : List α :=
  events.filterMap fun
    | .accept item => some item
    | .take _ => none

open Store

theorem run_append (events more : List (Event α)) :
    run (events ++ more) = more.foldl step (run events) :=
  List.foldl_append

theorem run_accepts (events : List (Event α)) (items : List α) :
    run (events ++ items.map .accept) =
      { run events with waiting := (run events).waiting ++ items } := by
  rw [run_append]
  generalize run events = s
  induction items generalizing s with
  | nil => simp
  | cons item rest ih => simp [step, ih]

theorem run_take (events : List (Event α)) (delivered : Bool) :
    run (events ++ [.take delivered]) =
      ⟨[], (run events).taken ++ [⟨(run events).waiting, delivered⟩]⟩ := by
  rw [run_append]
  rfl

/-- Items come in and go out in the same order. -/
theorem accepted_eq (events : List (Event α)) :
    accepted events = (run events).taken.flatMap Take.items ++ (run events).waiting := by
  induction events using List.reverseRecOn with
  | nil => rfl
  | append_singleton events event ih =>
    rw [accepted, List.filterMap_append, ← accepted, ih, run_append]
    cases event <;> simp [step]

theorem perm_taken (taken : List (Take α)) :
    (taken.flatMap Take.items).Perm
      ((taken.filter Take.delivered).flatMap Take.items ++
        (taken.filter fun take => !take.delivered).flatMap Take.items) := by
  rw [← List.flatMap_append]
  exact ((List.filter_append_perm Take.delivered taken).symm).flatMap_right _

/-- An item is delivered, lost or waiting, once. -/
theorem perm_accepted (events : List (Event α)) :
    (accepted events).Perm
      ((run events).delivered ++ (run events).lost ++ (run events).waiting) := by
  rw [accepted_eq]
  exact (perm_taken _).append_right _

theorem lost_eq_nil_iff (s : Store α) :
    s.lost = [] ↔ ∀ take ∈ s.taken, take.delivered = false → take.items = [] := by
  simp [lost]

/-- The responses to some requests, with a flag for those that arrived. -/
def Answered (answers : List α → ρ → Prop) (taken : List (Take α)) (responses : List (ρ × Bool)) :
    Prop :=
  List.Forall₂ (fun take response => answers take.items response.1 ∧ take.delivered = response.2)
    taken responses

theorem Answered.concat {answers : List α → ρ → Prop} {taken : List (Take α)}
    {responses : List (ρ × Bool)} (answered : Answered answers taken responses) {items : List α}
    {response : ρ} (answer : answers items response) (delivered : Bool) :
    Answered answers (taken ++ [⟨items, delivered⟩]) (responses ++ [(response, delivered)]) :=
  List.rel_append answered (.cons ⟨answer, rfl⟩ .nil)

end Handout
