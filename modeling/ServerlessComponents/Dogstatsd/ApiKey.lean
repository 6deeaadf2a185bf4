import Mathlib.Data.Option.Basic

/-!
# The API key factory

`ApiKeyFactory` of `api_key.rs`, as one call that runs alone sees it: the loading flag is free
before the call and after it. What the flag does among many callers is `KeyLoading`.
-/
namespace ServerlessComponents.Dogstatsd

/-- The cached key and when it was loaded; instants and durations are nanoseconds. -/
structure ApiKeyState where
  apiKey : Option String := none
  lastLoadTime : Option Nat := none
  deriving DecidableEq, Repr

/-- `should_load_api_key` at the clock reading `now`. -/
def ApiKeyState.shouldLoad (s : ApiKeyState) (reloadInterval : Option Nat) (now : Nat) : Bool :=
  match s.lastLoadTime with
  | none => true
  | some lastLoadTime =>
    match reloadInterval with
    | none => false
    -- the panic of `Instant + Duration` past the last instant is not modelled
    | some reloadInterval => lastLoadTime + reloadInterval < now

/-- What the environment gives one call: the clock at the two checks, the answer of the resolver
and the clock when that answer is stored. -/
structure Resolution where
  checkedAt : Nat
  recheckedAt : Nat
  answer : Option String
  loadedAt : Nat
  deriving DecidableEq, Repr

/-- Both checks of the call ask for a load. -/
def ApiKeyState.Due (s : ApiKeyState) (reloadInterval : Option Nat) (r : Resolution) : Prop :=
  s.shouldLoad reloadInterval r.checkedAt = true ∧ s.shouldLoad reloadInterval r.recheckedAt = true

/-- What the factory's state is after the call. -/
def ApiKeyState.afterCall (s : ApiKeyState) (reloadInterval : Option Nat) (r : Resolution) :
    ApiKeyState :=
  if s.shouldLoad reloadInterval r.checkedAt then
    if s.shouldLoad reloadInterval r.recheckedAt then ⟨r.answer, some r.loadedAt⟩ else s
  else s

/-- The resolver function of the dynamic factory is the `Resolution` of every call. -/
inductive ApiKeyFactory where
  | static (apiKey : String)
  | dynamic (reloadInterval : Option Nat) (apiKeyState : ApiKeyState)
  deriving DecidableEq, Repr

namespace ApiKeyFactory

def new (apiKey : String) : ApiKeyFactory := .static apiKey

def newFromResolver (reloadInterval : Option Nat) : ApiKeyFactory := .dynamic reloadInterval {}

def getApiKey : ApiKeyFactory → Resolution → Option String × ApiKeyFactory
  | .static apiKey, _ => (some apiKey, .static apiKey)
  | .dynamic reloadInterval state, r =>
    let state := state.afterCall reloadInterval r
    (state.apiKey, .dynamic reloadInterval state)

end ApiKeyFactory

variable (s : ApiKeyState) (reloadInterval : Option Nat) (r : Resolution)

theorem ApiKeyState.afterCall_of_due (due : s.Due reloadInterval r) :
    s.afterCall reloadInterval r = ⟨r.answer, some r.loadedAt⟩ := by
  simp [afterCall, due.1, due.2]

theorem ApiKeyState.afterCall_of_not_due (fresh : ¬ s.Due reloadInterval r) :
    s.afterCall reloadInterval r = s := by
  unfold afterCall
  split
  next first =>
    have second : ¬ s.shouldLoad reloadInterval r.recheckedAt = true := fun h => fresh ⟨first, h⟩
    rw [if_neg second]
  next => rfl

/-- A call hands out the resolver's answer when a load is due, and else the cached key. -/
theorem ApiKeyState.afterCall_apiKey_eq_iff (key : Option String) (cached : s.apiKey = key) :
    (s.afterCall reloadInterval r).apiKey = key ↔ (s.Due reloadInterval r → r.answer = key) := by
  by_cases due : s.Due reloadInterval r
  · simp [afterCall_of_due s _ _ due, due]
  · simp [afterCall_of_not_due s _ _ due, due, cached]

end ServerlessComponents.Dogstatsd
