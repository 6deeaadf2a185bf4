import Mathlib.Data.Option.Basic

/-!
# Runs of a guarded step function

A system is a partial step function on states, indexed by actions; an action that is not enabled
gives `none`. A run executes a list of actions.

## Main results

* `invariant` — what every step preserves holds after every run.
* `invariant_along` — the same for the runs whose steps all meet a condition.
* `invariant_noted` — the same for the state with a note of the actions so far.
* `simulation` — what relates two systems step by step relates them after every run.
* `along_of_not` — a run whose end shows no trace of a broken condition met it at every step.
* `add_cost_le` — a bound that every step preserves with what it costs bounds the cost of a run.
-/
namespace Runs

variable {State Action : Type*} (step : State → Action → Option State)

/-- Execute the actions one after the other. -/
def exec : State → List Action → Option State
  | s, [] => some s
  | s, a :: rest => (step s a).bind fun s' => exec s' rest

/-- Every step of the run meets the condition, which may look at the state before the step. -/
def Along (G : State → Action → Prop) : State → List Action → Prop
  | _, [] => True
  | s, a :: rest => G s a ∧ ∀ s', step s a = some s' → Along G s' rest

/-- What the steps of a run cost together, up to the first action that is not enabled. -/
def cost (price : State → Action → Nat) : State → List Action → Nat
  | _, [] => 0
  | s, a :: rest => (step s a).elim 0 fun s' => price s a + cost price s' rest

variable {step}

theorem exec_cons_eq_some {s t : State} {a : Action} {rest : List Action} :
    exec step s (a :: rest) = some t ↔ ∃ s', step s a = some s' ∧ exec step s' rest = some t :=
  Option.bind_eq_some_iff

theorem exec_append {s : State} (first rest : List Action) :
    exec step s (first ++ rest) = (exec step s first).bind fun s' => exec step s' rest := by
  induction first generalizing s with
  | nil => rfl
  | cons a later ih =>
    simp only [List.cons_append, exec, Option.bind_assoc]
    exact congrArg (step s a).bind (funext fun s' => ih)

/-- What every step that meets `G` preserves holds after every run along `G`. -/
theorem invariant_along {P : State → Prop} {G : State → Action → Prop}
    (preserved : ∀ s a s', P s → G s a → step s a = some s' → P s') {s t : State}
    {actions : List Action} (start : P s) (along : Along step G s actions)
    (run : exec step s actions = some t) : P t := by
  induction actions generalizing s with
  | nil =>
    cases run
    exact start
  | cons a rest ih =>
    obtain ⟨s', hs, run⟩ := exec_cons_eq_some.1 run
    exact ih (preserved s a s' start along.1 hs) (along.2 s' hs) run

/-- A condition on the actions alone. -/
theorem along_of_forall {G : Action → Prop} {actions : List Action} (h : ∀ a ∈ actions, G a)
    (s : State) : Along step (fun _ => G) s actions := by
  induction actions generalizing s with
  | nil => trivial
  | cons a rest ih =>
    refine ⟨h a List.mem_cons_self, ?_⟩
    intro s' _
    exact ih (fun b hb => h b (List.mem_cons_of_mem a hb)) s'

/-- While every action leaves the state as it is, a run meets a condition action by action. -/
theorem along_iff_of_fixed {G : State → Action → Prop} {s : State}
    (fixed : ∀ a, step s a = some s) (actions : List Action) :
    Along step G s actions ↔ ∀ a ∈ actions, G s a := by
  induction actions with
  | nil => simp [Along]
  | cons a rest ih =>
    simp [Along, fixed a, ih]

theorem along_true (s : State) (actions : List Action) :
    Along step (fun _ _ => True) s actions := by
  induction actions generalizing s with
  | nil => trivial
  | cons a rest ih =>
    refine ⟨trivial, ?_⟩
    intro s' _
    exact ih s'

/-- What every step preserves holds after every run. -/
theorem invariant {P : State → Prop} (preserved : ∀ s a s', P s → step s a = some s' → P s')
    {s t : State} {actions : List Action} (start : P s) (run : exec step s actions = some t) :
    P t :=
  invariant_along (fun s a s' h _ => preserved s a s' h) start (along_true s actions) run

/-- What every step preserves of the state and of a note that is made of the actions holds after
every run. -/
theorem invariant_noted {Note : Type*} (note : Note → Action → Note) {P : Note → State → Prop}
    {G : Action → Prop}
    (preserved : ∀ n s a s', P n s → G a → step s a = some s' → P (note n a) s') {n : Note}
    {s t : State} {actions : List Action} (start : P n s) (meets : ∀ a ∈ actions, G a)
    (run : exec step s actions = some t) : P (actions.foldl note n) t := by
  induction actions generalizing n s with
  | nil =>
    cases run
    exact start
  | cons a rest ih =>
    obtain ⟨s', hs, run⟩ := exec_cons_eq_some.1 run
    have next := preserved n s a s' start (meets a List.mem_cons_self) hs
    exact ih next (fun b mem => meets b (List.mem_cons_of_mem a mem)) run

/-- If every step that meets `G` has a step of a second system beside it, so has every run along
`G`. -/
theorem simulation {Abstract : Type*} {step' : Abstract → Action → Option Abstract}
    {R : State → Abstract → Prop} {G : State → Action → Prop}
    (simulates : ∀ s t a s', R s t → G s a → step s a = some s' →
      ∃ t', step' t a = some t' ∧ R s' t') {s s' : State} {t : Abstract} {actions : List Action}
    (start : R s t) (along : Along step G s actions) (run : exec step s actions = some s') :
    ∃ t', exec step' t actions = some t' ∧ R s' t' := by
  induction actions generalizing s t with
  | nil =>
    cases run
    exact ⟨t, rfl, start⟩
  | cons a rest ih =>
    obtain ⟨next, hs, run⟩ := exec_cons_eq_some.1 run
    obtain ⟨next', hs', related⟩ := simulates s t a next start along.1 hs
    obtain ⟨t', run', related'⟩ := ih related (along.2 next hs) run
    exact ⟨t', exec_cons_eq_some.2 ⟨next', hs', run'⟩, related'⟩

/-- If a step that breaks `G` establishes `Q`, every step preserves `Q`, and `Q` excludes the end
state, then the run is along `G`. -/
theorem along_of_not {P Q : State → Prop} {G : State → Action → Prop}
    (preserved : ∀ s a s', P s → step s a = some s' → P s')
    (broken : ∀ s a s', P s → ¬ G s a → step s a = some s' → Q s')
    (kept : ∀ s a s', Q s → step s a = some s' → Q s') {s t : State} {actions : List Action}
    (start : P s) (run : exec step s actions = some t) (excluded : ¬ Q t) :
    Along step G s actions := by
  induction actions generalizing s with
  | nil => trivial
  | cons a rest ih =>
    obtain ⟨s', hs, run⟩ := exec_cons_eq_some.1 run
    refine ⟨?_, ?_⟩
    · by_contra h
      exact excluded (invariant kept (broken s a s' start h hs) run)
    · intro s'' hs''
      obtain rfl : s' = s'' := Option.some.inj (hs.symm.trans hs'')
      exact ih (preserved s a s' start hs) run

/-- `P n s` says that `n` may have been spent before `s`. -/
theorem add_cost_le {P : Nat → State → Prop} {G : Action → Prop} {price : State → Action → Nat}
    {bound : Nat} (preserved : ∀ n s a s', P n s → G a → step s a = some s' → P (n + price s a) s')
    (bounded : ∀ n s, P n s → n ≤ bound) {n : Nat} {s : State} (start : P n s)
    {actions : List Action} (meets : ∀ a ∈ actions, G a) :
    n + cost step price s actions ≤ bound := by
  induction actions generalizing n s with
  | nil => exact bounded n s start
  | cons a rest ih =>
    cases hs : step s a with
    | none => simpa [cost, hs] using bounded n s start
    | some s' =>
      have later := ih (preserved n s a s' start (meets a List.mem_cons_self) hs)
        fun b mem => meets b (List.mem_cons_of_mem a mem)
      simpa [cost, hs, Nat.add_assoc] using later

end Runs
