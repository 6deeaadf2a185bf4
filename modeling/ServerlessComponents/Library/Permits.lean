import Mathlib.Data.List.Basic

/-!
# A pool of permits

Some of the tasks hold a permit of a pool. A task that takes or gives back a permit is replaced in
the list of tasks, and the free permits change with it.
-/
namespace Permits

variable {Task : Type*} (holds : Task → Bool)

/-- The permits a task holds. -/
def held (t : Task) : Nat := (holds t).toNat

/-- Every permit of the pool is free or held. -/
def Conserved (capacity free : Nat) (tasks : List Task) : Prop :=
  free + tasks.countP holds = capacity

theorem held_eq_ite (t : Task) : held holds t = if holds t = true then 1 else 0 := by
  unfold held
  cases holds t <;> rfl

variable {holds} {capacity free free' : Nat} {tasks : List Task} {t t' : Task} {i : Nat}

theorem Conserved.le (conserved : Conserved holds capacity free tasks) :
    tasks.countP holds ≤ capacity :=
  Nat.le.intro ((Nat.add_comm _ _).trans conserved)

theorem Conserved.eq_of_idle (conserved : Conserved holds capacity free tasks)
    (idle : ∀ t ∈ tasks, holds t = false) : free = capacity := by
  have none_ : tasks.countP holds = 0 := by
    rw [List.countP_eq_zero]
    intro t mem
    rw [idle t mem]
    exact Bool.false_ne_true
  rw [← conserved, none_, Nat.add_zero]

/-- A new task holds nothing. -/
theorem Conserved.push (conserved : Conserved holds capacity free tasks) (idle : holds t = false) :
    Conserved holds capacity free (tasks ++ [t]) := by
  rw [Conserved, List.countP_append, List.countP_singleton, idle]
  exact conserved

/-- A task goes on, and the pool changes by what the task holds more or less. -/
theorem Conserved.set (conserved : Conserved holds capacity free tasks) (found : tasks[i]? = some t)
    (balance : free' + held holds t' = free + held holds t) :
    Conserved holds capacity free' (tasks.set i t') := by
  obtain ⟨lt, rfl⟩ := List.getElem?_eq_some_iff.1 found
  have counted := List.boole_getElem_le_countP (p := holds) lt
  have replaced := List.countP_set (p := holds) (a := t') lt
  rw [← held_eq_ite] at counted
  rw [← held_eq_ite, ← held_eq_ite] at replaced
  unfold Conserved at *
  omega

end Permits
