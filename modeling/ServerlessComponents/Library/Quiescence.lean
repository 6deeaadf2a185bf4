import ServerlessComponents.Library.Runs

/-!
# Runs that come to rest

Some actions are a system's own: it takes them without anything from outside. When each of them
that changes the state makes a measure smaller, a run of such actions comes to a state at rest, and
the measure bounds its length.

## Main results

* `length_add_le` — the measure bounds the runs of own moves.
* `exists_atRest` — some run of own moves comes to rest.
-/
namespace Runs

variable {State Action : Type*} (step : State → Action → Option State) (Own : Action → Prop)

/-- An own action that changes the state. -/
def Moves (s : State) (a : Action) : Prop := Own a ∧ step s a ≠ some s

/-- No own action changes the state. -/
def AtRest (s : State) : Prop := ∀ a s', Own a → step s a = some s' → s' = s

variable {step Own} {P : State → Prop} {measure : State → Nat} {s t : State}

theorem length_add_le (preserved : ∀ s a s', P s → step s a = some s' → P s')
    (decreases : ∀ s a s', P s → Own a → step s a = some s' → s' = s ∨ measure s' < measure s)
    (start : P s) {actions : List Action} (along : Along step (Moves step Own) s actions)
    (run : exec step s actions = some t) : actions.length + measure t ≤ measure s := by
  induction actions generalizing s with
  | nil =>
    cases run
    simp
  | cons a rest ih =>
    obtain ⟨s', hs, run⟩ := exec_cons_eq_some.1 run
    obtain ⟨⟨own, moves⟩, along⟩ := along
    have bound := ih (preserved s a s' start hs) (along s' hs) run
    rcases decreases s a s' start own hs with rfl | less
    · exact (moves hs).elim
    · rw [List.length_cons]
      omega

theorem exists_atRest (preserved : ∀ s a s', P s → step s a = some s' → P s')
    (decreases : ∀ s a s', P s → Own a → step s a = some s' → s' = s ∨ measure s' < measure s)
    (start : P s) : ∃ actions t, Along step (Moves step Own) s actions ∧
      exec step s actions = some t ∧ AtRest step Own t := by
  induction bound : measure s using Nat.strongRecOn generalizing s with
  | ind n ih =>
    by_cases rest : AtRest step Own s
    · exact ⟨[], s, trivial, rfl, rest⟩
    · simp only [AtRest, not_forall] at rest
      obtain ⟨a, s', own, hs, moved⟩ := rest
      have less : measure s' < n := bound ▸ (decreases s a s' start own hs).resolve_left moved
      obtain ⟨actions, t, along, run, rest⟩ := ih _ less (preserved s a s' start hs) rfl
      refine ⟨a :: actions, t, ⟨⟨own, ?_⟩, ?_⟩, exec_cons_eq_some.2 ⟨s', hs, run⟩, rest⟩
      · rw [hs]
        exact fun same => moved (Option.some.inj same)
      · intro s'' hs''
        obtain rfl : s' = s'' := Option.some.inj (hs.symm.trans hs'')
        exact along

end Runs
