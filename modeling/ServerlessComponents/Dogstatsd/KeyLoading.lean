import Mathlib.Logic.Function.Basic
import Mathlib.Logic.Relation
import ServerlessComponents.Dogstatsd.ApiKey
import ServerlessComponents.Library.Runs

/-!
# Many callers of one API key factory

`get_api_key` of `api_key.rs` with its loading flag: any number of callers run between the
`await`s of their own calls, and a caller may be dropped wherever it is suspended. The flag is
given back by the caller that took it, so a caller dropped while it holds the flag leaves the flag
set, and then no call loads the key again.
-/
namespace ServerlessComponents.Dogstatsd

/-- The `await` at which a call is suspended. -/
inductive CallPhase where
  | idle
  /-- The read lock of the first `should_load_api_key`. -/
  | checking
  /-- The read lock of the double check; the flag is taken. -/
  | rechecking
  | resolving
  /-- The write lock; the load time was read when the resolver answered. -/
  | storing (apiKey : Option String) (loadedAt : Nat)
  /-- The read lock in the loop of a caller that did not get the flag. -/
  | waiting
  | yielding
  /-- The read lock of the last line. -/
  | reading
  | returned (apiKey : Option String)
  | dropped
  deriving DecidableEq, Repr

namespace CallPhase

/-- The call set the flag and has not cleared it. -/
@[simp]
def HoldsFlag : CallPhase → Prop
  | .rechecking => True
  | .resolving => True
  | .storing .. => True
  | _ => False

/-- The call is past the loading part. -/
@[simp]
def PastLoad : CallPhase → Prop
  | .reading => True
  | .returned _ => True
  | _ => False

/-- The call waits for the load of another one. -/
@[simp]
def Waits : CallPhase → Prop
  | .waiting => True
  | .yielding => True
  | _ => False

/-- The call has neither returned nor been dropped. -/
@[simp]
def Live : CallPhase → Prop
  | .returned _ => False
  | .dropped => False
  | _ => True

end CallPhase

inductive LoadAction where
  /-- Time passes. -/
  | tick (elapsed : Nat)
  | call (caller : Nat)
  /-- The caller gets the lock it waits for, or the processor after a yield. -/
  | resume (caller : Nat)
  | answer (caller : Nat) (apiKey : Option String)
  /-- The future of the call is dropped. -/
  | drop (caller : Nat)
  deriving DecidableEq, Repr

/-- A dynamic factory with its callers, numbered without bound. -/
structure KeyLoader where
  apiKeyState : ApiKeyState := {}
  loadingApiKey : Bool := false
  clock : Nat
  phase : Nat → CallPhase := fun _ => .idle

namespace KeyLoader

def setPhase (s : KeyLoader) (caller : Nat) (phase : CallPhase) : KeyLoader :=
  { s with phase := Function.update s.phase caller phase }

/-- The caller runs from the lock it got to its next `await`. -/
def resume (reloadInterval : Option Nat) (s : KeyLoader) (caller : Nat) : Option KeyLoader :=
  match s.phase caller with
  | .checking =>
    if s.apiKeyState.shouldLoad reloadInterval s.clock then
      if s.loadingApiKey = false then
        some { s.setPhase caller .rechecking with loadingApiKey := true }
      else some (s.setPhase caller .waiting)
    else some (s.setPhase caller .reading)
  | .rechecking =>
    if s.apiKeyState.shouldLoad reloadInterval s.clock then some (s.setPhase caller .resolving)
    else some { s.setPhase caller .reading with loadingApiKey := false }
  | .storing apiKey loadedAt =>
    some { s.setPhase caller .reading with
      apiKeyState := ⟨apiKey, some loadedAt⟩, loadingApiKey := false }
  | .waiting =>
    if s.apiKeyState.lastLoadTime.isNone then some (s.setPhase caller .yielding)
    else some (s.setPhase caller .reading)
  | .yielding => some (s.setPhase caller .waiting)
  | .reading => some (s.setPhase caller (.returned s.apiKeyState.apiKey))
  | _ => none

def step (reloadInterval : Option Nat) (s : KeyLoader) : LoadAction → Option KeyLoader
  | .tick elapsed => some { s with clock := s.clock + elapsed }
  | .call caller =>
    match s.phase caller with
    | .idle => some (s.setPhase caller .checking)
    | _ => none
  | .resume caller => s.resume reloadInterval caller
  | .answer caller apiKey =>
    match s.phase caller with
    -- the right side of the assignment is evaluated before the write lock is asked for
    | .resolving => some (s.setPhase caller (.storing apiKey s.clock))
    | _ => none
  | .drop caller =>
    match s.phase caller with
    | .idle => none
    | .returned _ => none
    | .dropped => none
    | _ => some (s.setPhase caller .dropped)

/-- A new factory; its callers have not called yet. -/
def init (clock : Nat) : KeyLoader := { clock }

/-! ## What is asked of the protocol -/

/-- The scheduler runs callers and lets the resolver answer `apiKey`; no time passes and no caller
is dropped. -/
def Schedules (apiKey : Option String) : LoadAction → Prop
  | .call _ => True
  | .resume _ => True
  | .answer _ key => key = apiKey
  | _ => False

def Moves (reloadInterval : Option Nat) (apiKey : Option String) (s t : KeyLoader) : Prop :=
  ∃ action, Schedules apiKey action ∧ s.step reloadInterval action = some t

/-- The callers can be run until this one has returned. -/
def ReturnsWith (reloadInterval : Option Nat) (apiKey : Option String) (s : KeyLoader)
    (caller : Nat) : Prop :=
  ∃ t key, Relation.ReflTransGen (Moves reloadInterval apiKey) s t ∧
    t.phase caller = .returned key

/-- The caller can return, whatever the resolver answers. -/
def CanReturn (reloadInterval : Option Nat) (s : KeyLoader) (caller : Nat) : Prop :=
  ∀ apiKey, ReturnsWith reloadInterval apiKey s caller

/-- The loading protocol is intact. -/
structure Intact (reloadInterval : Option Nat) (s : KeyLoader) : Prop where
  one_resolving : ∀ i j, s.phase i = .resolving → s.phase j = .resolving → i = j
  loaded_first : ∀ i key, s.phase i = .returned key → s.apiKeyState.lastLoadTime ≠ none
  flag_held : s.loadingApiKey = true → ∃ i, (s.phase i).HoldsFlag
  can_return : ∀ i, (s.phase i).Live → s.CanReturn reloadInterval i

/-- The step drops no caller that holds the flag. -/
def KeepsHolder (s : KeyLoader) (action : LoadAction) : Prop :=
  ∀ caller, action = .drop caller → ¬ (s.phase caller).HoldsFlag

/-- The flag is set and no caller will clear it. -/
def Stuck (s : KeyLoader) : Prop := s.loadingApiKey = true ∧ ∀ i, ¬ (s.phase i).HoldsFlag

/-! ## What a step does -/

section SetPhase

variable (s : KeyLoader) (i j : Nat) (p : CallPhase)

@[simp] theorem setPhase_phase_self : (s.setPhase i p).phase i = p := Function.update_self ..

theorem setPhase_phase_of_ne (h : j ≠ i) : (s.setPhase i p).phase j = s.phase j :=
  Function.update_of_ne h ..

/-- A property of phases holds of a caller after the change if it did before or it is this one. -/
theorem of_setPhase {P : CallPhase → Prop} (h : P ((s.setPhase i p).phase j)) :
    (j = i ∧ P p) ∨ (j ≠ i ∧ P (s.phase j)) := by
  by_cases same : j = i
  · subst same
    exact .inl ⟨rfl, by simpa using h⟩
  · exact .inr ⟨same, by rwa [setPhase_phase_of_ne s i j p same] at h⟩

end SetPhase

/-- Everything a step can do, as far as the flag and the load are concerned. -/
inductive Effect (s : KeyLoader) : LoadAction → KeyLoader → Prop
  | tick (elapsed : Nat) : Effect s (.tick elapsed) { s with clock := s.clock + elapsed }
  | move {a} (i : Nat) (p : CallPhase) (free : ¬ (s.phase i).HoldsFlag) (free' : ¬ p.HoldsFlag)
      (past : p.PastLoad → (s.phase i).PastLoad ∨ s.apiKeyState.lastLoadTime ≠ none)
      (waits : p.Waits → (s.phase i).Waits ∨ s.loadingApiKey = true) :
      Effect s a (s.setPhase i p)
  | acquire {a} (i : Nat) (unset : s.loadingApiKey = false) :
      Effect s a { s.setPhase i .rechecking with loadingApiKey := true }
  | keep {a} (i : Nat) (p : CallPhase) (holds : (s.phase i).HoldsFlag) (holds' : p.HoldsFlag) :
      Effect s a (s.setPhase i p)
  | release {a} (i : Nat) (loaded : ApiKeyState) (holds : (s.phase i).HoldsFlag)
      (done : loaded.lastLoadTime ≠ none) :
      Effect s a { s.setPhase i .reading with apiKeyState := loaded, loadingApiKey := false }
  | abandon (i : Nat) (holds : (s.phase i).HoldsFlag) :
      Effect s (.drop i) (s.setPhase i .dropped)

theorem lastLoadTime_of_not_shouldLoad {state : ApiKeyState} {reloadInterval : Option Nat}
    {now : Nat} (h : ¬ state.shouldLoad reloadInterval now = true) : state.lastLoadTime ≠ none := by
  intro e
  simp [ApiKeyState.shouldLoad, e] at h

theorem effect_of_resume {reloadInterval : Option Nat} {s s' : KeyLoader} {i : Nat}
    {a : LoadAction} (h : s.resume reloadInterval i = some s') : Effect s a s' := by
  unfold resume at h
  split at h
  next pc =>
    split at h
    next =>
      split at h <;> cases h
      next unset => exact .acquire i unset
      next set =>
        exact .move i _ (by simp [pc]) id False.elim (fun _ => .inr (by simpa using set))
    next fresh =>
      cases h
      exact .move i _ (by simp [pc]) id (fun _ => .inr (lastLoadTime_of_not_shouldLoad fresh))
        False.elim
  next pc =>
    split at h <;> cases h
    next => exact .keep i _ (by simp [pc]) trivial
    next fresh =>
      exact .release i s.apiKeyState (by simp [pc]) (lastLoadTime_of_not_shouldLoad fresh)
  next pc =>
    cases h
    exact .release i _ (by simp [pc]) nofun
  next pc =>
    split at h <;> cases h
    next => exact .move i _ (by simp [pc]) id False.elim (fun _ => .inl (by simp [pc]))
    next loaded =>
      exact .move i _ (by simp [pc]) id (fun _ => .inr (by simpa using loaded)) False.elim
  next pc =>
    cases h
    exact .move i _ (by simp [pc]) id False.elim (fun _ => .inl (by simp [pc]))
  next pc =>
    cases h
    exact .move i _ (by simp [pc]) id (fun _ => .inl (by simp [pc])) False.elim
  next => cases h

theorem effect_of_step {reloadInterval : Option Nat} {s s' : KeyLoader} {a : LoadAction}
    (h : s.step reloadInterval a = some s') : Effect s a s' := by
  cases a with
  | tick elapsed =>
    cases h
    exact .tick elapsed
  | call i =>
    simp only [step] at h
    split at h <;> cases h
    next pc => exact .move i _ (by simp [pc]) id False.elim False.elim
  | resume i => exact effect_of_resume h
  | answer i apiKey =>
    simp only [step] at h
    split at h <;> cases h
    next pc => exact .keep i _ (by simp [pc]) trivial
  | drop i =>
    simp only [step] at h
    split at h <;> cases h
    by_cases holds : (s.phase i).HoldsFlag
    · exact .abandon i holds
    · exact .move i _ holds id False.elim False.elim

/-! ## What every run preserves -/

/-- What no interleaving and no cancellation breaks. -/
structure Safe (s : KeyLoader) : Prop where
  holder_sets : ∀ i, (s.phase i).HoldsFlag → s.loadingApiKey = true
  one_holder : ∀ i j, (s.phase i).HoldsFlag → (s.phase j).HoldsFlag → i = j
  past_load : ∀ i, (s.phase i).PastLoad → s.apiKeyState.lastLoadTime ≠ none
  waits_set : ∀ i, (s.phase i).Waits → s.apiKeyState.lastLoadTime = none → s.loadingApiKey = true

theorem safe_init (clock : Nat) : (init clock).Safe := by
  constructor <;> simp [init]

/-- The fields of `Safe` after a step that changes the phase of one caller and leaves the rest. -/
theorem Safe.setPhase {s : KeyLoader} (safe : s.Safe) (i : Nat) (p : CallPhase)
    (holds : p.HoldsFlag → (s.phase i).HoldsFlag)
    (past : p.PastLoad → (s.phase i).PastLoad ∨ s.apiKeyState.lastLoadTime ≠ none)
    (waits : p.Waits → (s.phase i).Waits ∨ s.loadingApiKey = true) : (s.setPhase i p).Safe := by
  have before {j : Nat} (h : ((s.setPhase i p).phase j).HoldsFlag) : (s.phase j).HoldsFlag := by
    rcases of_setPhase s i j p h with ⟨rfl, now⟩ | ⟨-, old⟩
    · exact holds now
    · exact old
  refine ⟨?_, ?_, ?_, ?_⟩
  · intro j h
    exact safe.holder_sets j (before h)
  · intro j k hj hk
    exact safe.one_holder j k (before hj) (before hk)
  · intro j h
    rcases of_setPhase s i j p h with ⟨rfl, now⟩ | ⟨-, old⟩
    · exact (past now).elim (safe.past_load j) id
    · exact safe.past_load j old
  · intro j h unloaded
    rcases of_setPhase s i j p h with ⟨rfl, now⟩ | ⟨-, old⟩
    · exact (waits now).elim (fun h => safe.waits_set j h unloaded) id
    · exact safe.waits_set j old unloaded

theorem safe_step {reloadInterval : Option Nat} {s s' : KeyLoader} {a : LoadAction}
    (safe : s.Safe) (h : s.step reloadInterval a = some s') : s'.Safe := by
  cases effect_of_step h with
  | tick => exact ⟨safe.holder_sets, safe.one_holder, safe.past_load, safe.waits_set⟩
  | move i p _ free' past waits => exact safe.setPhase i p (fun h => absurd h free') past waits
  | acquire i unset =>
    have unheld (j : Nat) : ¬ (s.phase j).HoldsFlag := by
      intro holds
      simp [safe.holder_sets j holds] at unset
    have only {j : Nat} (h : ((s.setPhase i .rechecking).phase j).HoldsFlag) : j = i := by
      rcases of_setPhase s i j _ h with ⟨same, -⟩ | ⟨-, h⟩
      · exact same
      · exact absurd h (unheld j)
    refine ⟨fun _ _ => rfl, ?_, ?_, fun _ _ _ => rfl⟩
    · intro j k hj hk
      rw [only hj, only hk]
    · intro j h
      rcases of_setPhase s i j _ h with ⟨-, h⟩ | ⟨-, h⟩
      · exact h.elim
      · exact safe.past_load j h
  | keep i p holds holds' =>
    refine safe.setPhase i p (fun _ => holds) ?_ ?_
    · cases p <;> simp at holds' ⊢
    · cases p <;> simp at holds' ⊢
  | release i loaded holds done =>
    have unheld (j : Nat) : ¬ ((s.setPhase i .reading).phase j).HoldsFlag := by
      intro h
      rcases of_setPhase s i j _ h with ⟨-, h⟩ | ⟨other, h⟩
      · exact h
      · exact other (safe.one_holder j i h holds)
    refine ⟨?_, ?_, fun _ _ => done, fun _ _ unloaded => absurd unloaded done⟩
    · intro j h
      exact absurd h (unheld j)
    · intro j _ h
      exact absurd h (unheld j)
  | abandon i => exact safe.setPhase i _ False.elim False.elim False.elim

theorem safe_run {reloadInterval : Option Nat} {clock : Nat} {actions : List LoadAction}
    {s : KeyLoader} (run : Runs.exec (step reloadInterval) (init clock) actions = some s) :
    s.Safe :=
  Runs.invariant (fun _ _ _ => safe_step) (safe_init clock) run

theorem stuck_step {reloadInterval : Option Nat} {s s' : KeyLoader} {a : LoadAction}
    (stuck : s.Stuck) (h : s.step reloadInterval a = some s') : s'.Stuck := by
  obtain ⟨set, unheld⟩ := stuck
  cases effect_of_step h with
  | tick => exact ⟨set, unheld⟩
  | move i p _ free' =>
    refine ⟨set, ?_⟩
    intro j holds
    rcases of_setPhase s i j p holds with ⟨-, h⟩ | ⟨-, h⟩
    · exact free' h
    · exact unheld j h
  | acquire i unset => simp [set] at unset
  | keep i _ holds => exact absurd holds (unheld i)
  | release i _ holds => exact absurd holds (unheld i)
  | abandon i holds => exact absurd holds (unheld i)

/-- Dropping the holder leaves the flag to no one. -/
theorem stuck_of_drop {reloadInterval : Option Nat} {s s' : KeyLoader} {a : LoadAction}
    (safe : s.Safe) (dropped : ¬ KeepsHolder s a) (h : s.step reloadInterval a = some s') :
    s'.Stuck := by
  simp only [KeepsHolder, not_forall, not_not] at dropped
  obtain ⟨i, rfl, holds⟩ := dropped
  simp only [step] at h
  split at h <;> cases h
  refine ⟨safe.holder_sets i holds, ?_⟩
  intro j h
  rcases of_setPhase s i j _ h with ⟨-, h⟩ | ⟨other, h⟩
  · exact h
  · exact other (safe.one_holder j i h holds)

/-- While no holder is dropped the flag has one. -/
def Held (s : KeyLoader) : Prop := s.loadingApiKey = true → ∃ i, (s.phase i).HoldsFlag

theorem held_step {reloadInterval : Option Nat} {s s' : KeyLoader} {a : LoadAction}
    (held : s.Held) (keeps : KeepsHolder s a) (h : s.step reloadInterval a = some s') :
    s'.Held := by
  intro set
  cases effect_of_step h with
  | tick => exact held set
  | move i p free =>
    obtain ⟨j, holds⟩ := held set
    have other : j ≠ i := by
      rintro rfl
      exact free holds
    exact ⟨j, by rwa [setPhase_phase_of_ne s i j p other]⟩
  | acquire i => exact ⟨i, by simp⟩
  | keep i p _ holds' => exact ⟨i, by simpa using holds'⟩
  | release => cases set
  | abandon i holds => exact absurd holds (keeps i rfl)

/-! ## Every live caller can return -/

section Progress

variable {reloadInterval : Option Nat} {apiKey : Option String} {s t : KeyLoader} {i j : Nat}

theorem Moves.resume (h : s.resume reloadInterval i = some t) :
    Moves reloadInterval apiKey s t := ⟨.resume i, trivial, h⟩

theorem moves_safe (safe : s.Safe)
    (moves : Relation.ReflTransGen (Moves reloadInterval apiKey) s t) : t.Safe := by
  induction moves with
  | refl => exact safe
  | tail _ last ih =>
    obtain ⟨a, -, h⟩ := last
    exact safe_step ih h

/-- The call runs to its end while the other ones stay where they are. -/
def Finishes (reloadInterval : Option Nat) (apiKey : Option String) (s : KeyLoader) (i : Nat) :
    Prop :=
  ∃ t key, Relation.ReflTransGen (Moves reloadInterval apiKey) s t ∧
    t.phase i = .returned key ∧ ∀ j, j ≠ i → t.phase j = s.phase j

theorem Finishes.of_move {p : CallPhase} (move : Moves reloadInterval apiKey s t)
    (phase : t.phase = Function.update s.phase i p)
    (finishes : Finishes reloadInterval apiKey t i) : Finishes reloadInterval apiKey s i := by
  obtain ⟨u, key, moves, returned, others⟩ := finishes
  refine ⟨u, key, .head move moves, returned, ?_⟩
  intro j other
  rw [others j other, phase, Function.update_of_ne other]

theorem finishes_of_reading (pc : s.phase i = .reading) :
    Finishes reloadInterval apiKey s i := by
  have read : s.resume reloadInterval i =
      some (s.setPhase i (.returned s.apiKeyState.apiKey)) := by
    simp [KeyLoader.resume, pc]
  refine ⟨_, _, .single (.resume read), setPhase_phase_self .., ?_⟩
  intro j other
  exact setPhase_phase_of_ne s i j _ other

theorem finishes_of_storing {key : Option String} {loadedAt : Nat}
    (pc : s.phase i = .storing key loadedAt) : Finishes reloadInterval apiKey s i := by
  have stored : s.resume reloadInterval i = some { s.setPhase i .reading with
      apiKeyState := ⟨key, some loadedAt⟩, loadingApiKey := false } := by
    simp [KeyLoader.resume, pc]
  exact .of_move (.resume stored) rfl (finishes_of_reading (by simp))

theorem finishes_of_resolving (pc : s.phase i = .resolving) :
    Finishes reloadInterval apiKey s i := by
  have answered : s.step reloadInterval (.answer i apiKey) =
      some (s.setPhase i (.storing apiKey s.clock)) := by
    simp [step, pc]
  exact .of_move ⟨.answer i apiKey, rfl, answered⟩ rfl
    (finishes_of_storing (setPhase_phase_self ..))

theorem finishes_of_rechecking (pc : s.phase i = .rechecking) :
    Finishes reloadInterval apiKey s i := by
  by_cases due : s.apiKeyState.shouldLoad reloadInterval s.clock = true
  · have resolving : s.resume reloadInterval i = some (s.setPhase i .resolving) := by
      simp [KeyLoader.resume, pc, due]
    exact .of_move (.resume resolving) rfl (finishes_of_resolving (by simp))
  · have released : s.resume reloadInterval i =
        some { s.setPhase i .reading with loadingApiKey := false } := by
      simp [KeyLoader.resume, pc, due]
    exact .of_move (.resume released) rfl (finishes_of_reading (by simp))

/-- The caller that holds the flag needs no other one. -/
theorem finishes_of_holdsFlag (holds : (s.phase i).HoldsFlag) :
    Finishes reloadInterval apiKey s i := by
  cases pc : s.phase i with
  | rechecking => exact finishes_of_rechecking pc
  | resolving => exact finishes_of_resolving pc
  | storing key loadedAt => exact finishes_of_storing pc
  | _ => simp [pc] at holds

theorem finishes_of_waiting_of_loaded (pc : s.phase i = .waiting)
    (loaded : s.apiKeyState.lastLoadTime ≠ none) : Finishes reloadInterval apiKey s i := by
  have read : s.resume reloadInterval i = some (s.setPhase i .reading) := by
    simp [KeyLoader.resume, pc, loaded]
  exact .of_move (.resume read) rfl (finishes_of_reading (by simp))

theorem Finishes.returnsWith (h : Finishes reloadInterval apiKey s i) :
    ReturnsWith reloadInterval apiKey s i := by
  obtain ⟨t, key, moves, returned, -⟩ := h
  exact ⟨t, key, moves, returned⟩

theorem ReturnsWith.of_moves (moves : Relation.ReflTransGen (Moves reloadInterval apiKey) s t)
    (h : ReturnsWith reloadInterval apiKey t i) : ReturnsWith reloadInterval apiKey s i := by
  obtain ⟨u, key, later, returned⟩ := h
  exact ⟨u, key, moves.trans later, returned⟩

/-- A caller that waits returns once the holder of the flag has. -/
theorem returnsWith_of_waiting (safe : s.Safe) (held : s.Held) (pc : s.phase i = .waiting) :
    ReturnsWith reloadInterval apiKey s i := by
  by_cases loaded : s.apiKeyState.lastLoadTime = none
  · obtain ⟨j, holds⟩ := held (safe.waits_set i (by simp [pc]) loaded)
    have other : i ≠ j := by
      rintro rfl
      simp [pc] at holds
    have finishes : Finishes reloadInterval apiKey s j := finishes_of_holdsFlag holds
    obtain ⟨t, key, moves, returned, others⟩ := finishes
    have done := (moves_safe safe moves).past_load j (by simp [returned])
    exact .of_moves moves
      (finishes_of_waiting_of_loaded ((others i other).trans pc) done).returnsWith
  · exact (finishes_of_waiting_of_loaded pc loaded).returnsWith

theorem returnsWith_of_checking (safe : s.Safe) (held : s.Held) (pc : s.phase i = .checking) :
    ReturnsWith reloadInterval apiKey s i := by
  by_cases due : s.apiKeyState.shouldLoad reloadInterval s.clock = true
  · by_cases set : s.loadingApiKey = false
    · have acquired : s.resume reloadInterval i =
          some { s.setPhase i .rechecking with loadingApiKey := true } := by
        simp [KeyLoader.resume, pc, due, set]
      exact .of_moves (.single (.resume acquired)) (finishes_of_rechecking (by simp)).returnsWith
    · have waiting : s.resume reloadInterval i = some (s.setPhase i .waiting) := by
        simp [KeyLoader.resume, pc, due, set]
      have keeps : KeepsHolder s (.resume i) := nofun
      exact .of_moves (.single (.resume waiting))
        (returnsWith_of_waiting (safe_step (a := .resume i) safe waiting)
          (held_step held keeps waiting) (by simp))
  · have read : s.resume reloadInterval i = some (s.setPhase i .reading) := by
      simp [KeyLoader.resume, pc, due]
    exact .of_moves (.single (.resume read)) (finishes_of_reading (by simp)).returnsWith

theorem canReturn_of_live (safe : s.Safe) (held : s.Held) (live : (s.phase i).Live) :
    s.CanReturn reloadInterval i := by
  intro apiKey
  cases pc : s.phase i with
  | idle =>
    have called : s.step reloadInterval (.call i) = some (s.setPhase i .checking) := by
      simp [step, pc]
    have keeps : KeepsHolder s (.call i) := nofun
    exact .of_moves (.single ⟨.call i, trivial, called⟩)
      (returnsWith_of_checking (safe_step safe called) (held_step held keeps called) (by simp))
  | checking => exact returnsWith_of_checking safe held pc
  | waiting => exact returnsWith_of_waiting safe held pc
  | yielding =>
    have waiting : s.resume reloadInterval i = some (s.setPhase i .waiting) := by
      simp [KeyLoader.resume, pc]
    have keeps : KeepsHolder s (.resume i) := nofun
    exact .of_moves (.single (.resume waiting))
      (returnsWith_of_waiting (safe_step (a := .resume i) safe waiting)
        (held_step held keeps waiting) (by simp))
  | reading => exact (finishes_of_reading pc).returnsWith
  | returned key => simp [pc] at live
  | dropped => simp [pc] at live
  | _ => exact (finishes_of_holdsFlag (by simp [pc])).returnsWith

end Progress

/-- A call that runs alone does what `get_api_key` does in one piece. -/
theorem lone_call (reloadInterval : Option Nat) {s : KeyLoader} {i : Nat}
    (idle : s.phase i = .idle) (free : s.loadingApiKey = false) (r : Resolution)
    (started : s.clock ≤ r.checkedAt) (rechecked : r.checkedAt ≤ r.recheckedAt)
    (loaded : r.recheckedAt ≤ r.loadedAt) :
    ∃ actions t key, Runs.exec (step reloadInterval) s actions = some t ∧
      t.phase i = .returned key ∧ t.loadingApiKey = false ∧
      ApiKeyFactory.getApiKey (.dynamic reloadInterval s.apiKeyState) r =
        (key, .dynamic reloadInterval t.apiKeyState) := by
  have clock₀ : s.clock + (r.checkedAt - s.clock) = r.checkedAt := Nat.add_sub_cancel' started
  have clock₁ : r.checkedAt + (r.recheckedAt - r.checkedAt) = r.recheckedAt :=
    Nat.add_sub_cancel' rechecked
  have clock₂ : r.recheckedAt + (r.loadedAt - r.recheckedAt) = r.loadedAt :=
    Nat.add_sub_cancel' loaded
  by_cases due : s.apiKeyState.shouldLoad reloadInterval r.checkedAt = true
  · by_cases still : s.apiKeyState.shouldLoad reloadInterval r.recheckedAt = true
    · refine ⟨[.tick (r.checkedAt - s.clock), .call i, .resume i,
        .tick (r.recheckedAt - r.checkedAt), .resume i, .tick (r.loadedAt - r.recheckedAt),
        .answer i r.answer, .resume i, .resume i], ?_⟩
      simp [Runs.exec, step, resume, setPhase, idle, free, clock₀, clock₁, clock₂, due, still,
        ApiKeyFactory.getApiKey, ApiKeyState.afterCall]
    · refine ⟨[.tick (r.checkedAt - s.clock), .call i, .resume i,
        .tick (r.recheckedAt - r.checkedAt), .resume i, .resume i], ?_⟩
      simp [Runs.exec, step, resume, setPhase, idle, free, clock₀, clock₁, due, still,
        ApiKeyFactory.getApiKey, ApiKeyState.afterCall]
  · refine ⟨[.tick (r.checkedAt - s.clock), .call i, .resume i, .resume i], ?_⟩
    simp [Runs.exec, step, resume, setPhase, idle, free, clock₀, due,
      ApiKeyFactory.getApiKey, ApiKeyState.afterCall]

/-! ## The protocol and cancellation -/

/-- In every state that any number of callers of a new factory reach, whatever their order, the
clock, the resolver and the reload interval, the loading protocol is intact if and only if no
caller was dropped while it held the flag. -/
theorem intact_iff (reloadInterval : Option Nat) (clock : Nat) (actions : List LoadAction)
    (s : KeyLoader) (run : Runs.exec (step reloadInterval) (init clock) actions = some s) :
    s.Intact reloadInterval ↔
      Runs.Along (step reloadInterval) KeepsHolder (init clock) actions := by
  constructor
  · intro intact
    refine Runs.along_of_not (fun _ _ _ => safe_step) (fun _ _ _ => stuck_of_drop)
      (fun _ _ _ => stuck_step) (safe_init clock) run ?_
    rintro ⟨set, unheld⟩
    obtain ⟨i, holds⟩ := intact.flag_held set
    exact unheld i holds
  · intro keeps
    have safe := safe_run run
    have start : (init clock).Held := by simp [Held, init]
    have held : s.Held := Runs.invariant_along (fun _ _ _ => held_step) start keeps run
    refine ⟨?_, ?_, held, ?_⟩
    · intro i j hi hj
      exact safe.one_holder i j (by simp [hi]) (by simp [hj])
    · intro i key returned
      exact safe.past_load i (by simp [returned])
    · intro i live
      exact canReturn_of_live safe held live

/-- Two callers: the second one waits while the first one loads the key. A third one that then runs
alone does what `get_api_key` does in one piece. -/
theorem intact_iff_two :
    ∃ s, Runs.exec (step (some 60)) (init 0)
        [.call 0, .call 1, .resume 0, .resume 1, .resume 0, .answer 0 (some "key"), .resume 0,
          .resume 1] = some s ∧
      (s.Intact (some 60) ↔ Runs.Along (step (some 60)) KeepsHolder (init 0)
        [.call 0, .call 1, .resume 0, .resume 1, .resume 0, .answer 0 (some "key"), .resume 0,
          .resume 1]) ∧
      ∃ actions t key, Runs.exec (step (some 60)) s actions = some t ∧ t.phase 2 = .returned key ∧
        t.loadingApiKey = false ∧
        ApiKeyFactory.getApiKey (.dynamic (some 60) s.apiKeyState) ⟨70, 70, some "next", 71⟩ =
          (key, .dynamic (some 60) t.apiKeyState) :=
  ⟨_, rfl, intact_iff _ _ _ _ rfl, lone_call _ rfl rfl _ (by decide) (by decide) (by decide)⟩

/-- A caller is dropped while the resolver call is pending: the flag stays set. -/
theorem drop_leaves_flag_set :
    ¬ ∀ (reloadInterval : Option Nat) (clock : Nat) (actions : List LoadAction) (s : KeyLoader),
      Runs.exec (step reloadInterval) (init clock) actions = some s → s.Intact reloadInterval := by
  intro all
  have intact := all none 0 [.call 0, .resume 0, .resume 0, .drop 0] _ rfl
  obtain ⟨i, holds⟩ := intact.flag_held rfl
  rcases of_setPhase _ 0 i .dropped holds with ⟨-, held⟩ | ⟨other, held⟩
  · exact held
  · simp [setPhase, init, Function.update_of_ne other] at held

end KeyLoader

end ServerlessComponents.Dogstatsd
