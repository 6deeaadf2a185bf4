import Mathlib.Tactic.IntervalCases
import ServerlessComponents.Library.Runs
import ServerlessComponents.TraceAgent.MinimalEdit

/-!
# The clock of the error sampler

Every clone of the processor shares one sampler and one timestamp floor under one lock. The clock is
read under that lock and raises the floor, so in whatever order the clones come to it, and however
the clock jumps, the sampler is asked with timestamps that do not decrease.

## Main results

* `RescueSystem.timestamps_ordered` — the timestamps, and the window that follows them.
* `RescueSystem.serial_run` — the calls come out as if each had run alone, in the order of the lock.
-/
namespace ServerlessComponents.TraceAgent

open TraceSampler

variable {S D R X : Type}

/-- Where a call of `apply_error_rescue` is. -/
inductive RescueCall (D R X : Type) where
  | absent
  | waiting (config : RescueConfig) (tracerPayloads : List (TracerPayload D R))
  | locked (config : RescueConfig) (tracerPayloads : List (TracerPayload D R))
  | sampling (config : RescueConfig) (tracerPayloads : List (TracerPayload D R)) (nowUnixSecs : Int)
      (rest : List Candidate) (consultations : List (Consultation D))
  | returned (payload : TracerPayloadCollection D R X)
  /-- It has panicked, or its future was dropped. -/
  | gone

def RescueCall.holdsLock : RescueCall D R X → Bool
  | .locked .. | .sampling .. => true
  | _ => false

def RescueCall.samples : RescueCall D R X → Bool
  | .sampling .. => true
  | _ => false

theorem RescueCall.holdsLock_of_samples {call : RescueCall D R X} (samples : call.samples = true) :
    call.holdsLock = true := by
  cases call <;> simp_all [RescueCall.samples, RescueCall.holdsLock]

theorem RescueCall.not_samples {call : RescueCall D R X} (outside : call.holdsLock = false) :
    call.samples = false := by
  cases call <;> simp_all [RescueCall.samples, RescueCall.holdsLock]

/-- A call that has read the clock: its arguments and the reading. -/
structure ServedCall (D R : Type) where
  config : RescueConfig
  tracerPayloads : List (TracerPayload D R)
  clock : Int

/-- The state under the lock, who holds it, and the calls of all clones. `asked` lists the calls of
the sampler, `served` those that have read the clock. -/
structure RescueSystem (S D R X : Type) where
  shared : ErrorRescue S D
  holder : Option Nat := none
  call : Nat → RescueCall D R X := fun _ => .absent
  asked : List (Consultation D) := []
  served : List (ServedCall D R) := []

inductive RescueAction (D R X : Type) where
  | begin (i : Nat) (config : RescueConfig) (payload : TracerPayloadCollection D R X)
  | lock (i : Nat)
  | readClock (i : Nat) (clock : Int)
  | sample (i : Nat)
  | unlock (i : Nat)
  | abandon (i : Nat)

/-- The call that takes the step. -/
def RescueAction.number : RescueAction D R X → Nat
  | .begin i _ _ | .lock i | .readClock i _ | .sample i | .unlock i | .abandon i => i

namespace RescueSystem

def setCall (s : RescueSystem S D R X) (i : Nat) (call : RescueCall D R X) :
    RescueSystem S D R X :=
  { s with call := Function.update s.call i call }

/-- What a call does before it asks for the lock. -/
def entry (getRootSpanIndex : GetRootSpanIndex D R) (s : RescueSystem S D R X)
    (config : RescueConfig) (payload : TracerPayloadCollection D R X) : RescueCall D R X :=
  match payload with
  | .v07 tracerPayloads =>
    if s.shared.errorRescueEnabled = false then .returned payload
    else if (candidates getRootSpanIndex config tracerPayloads).isEmpty then .returned payload
    else .waiting config tracerPayloads
  | _ => .returned payload

theorem holdsLock_entry (getRootSpanIndex : GetRootSpanIndex D R) (s : RescueSystem S D R X)
    (config : RescueConfig) (payload : TracerPayloadCollection D R X) :
    (s.entry getRootSpanIndex config payload).holdsLock = false := by
  unfold entry
  split
  · split
    · rfl
    · split <;> rfl
  · rfl

theorem holdsLock_of_sampling {s : RescueSystem S D R X} {i : Nat} {config : RescueConfig}
    {tracerPayloads : List (TracerPayload D R)} {nowUnixSecs : Int} {rest : List Candidate}
    {consultations : List (Consultation D)}
    (sampling : s.call i = .sampling config tracerPayloads nowUnixSecs rest consultations) :
    (s.call i).holdsLock = true := by
  rw [sampling]
  rfl

/-- A call asks for the lock when rescue is enabled and some chunk is to be sampled. -/
def Asks (getRootSpanIndex : GetRootSpanIndex D R) (enabled : Bool) : RescueCall D R X → Prop
  | .waiting config tracerPayloads | .locked config tracerPayloads =>
    enabled = true ∧ candidates getRootSpanIndex config tracerPayloads ≠ []
  | _ => True

theorem asks_entry (getRootSpanIndex : GetRootSpanIndex D R) (s : RescueSystem S D R X)
    (config : RescueConfig) (payload : TracerPayloadCollection D R X) :
    Asks getRootSpanIndex s.shared.errorRescueEnabled
      (s.entry getRootSpanIndex config payload) := by
  unfold entry
  split
  · split
    · trivial
    · rename_i enabled
      split
      · trivial
      · rename_i some_
        exact ⟨by simpa using enabled, by simpa using some_⟩
  · trivial

section Step

variable [Zero S] [Add S] [LT S] [DecidableLT S] [Max S] [Widen S D] [Narrow S D]
  [Double D] [Zero D] [One D] [Sub D] [Mul D] [Div D] [NatCast D] [OfScientific D] [LT D]
  [DecidableLT D] [LE D] [DecidableLE D] [BEq D] (getRootSpanIndex : GetRootSpanIndex D R)

/-- One step of one call. Between `lock().await` and the end of the block there is no other await,
but the calls run on several threads. -/
def step (s : RescueSystem S D R X) : RescueAction D R X → Option (RescueSystem S D R X)
  | .begin i config payload =>
    match s.call i with
    | .absent => some (s.setCall i (s.entry getRootSpanIndex config payload))
    | _ => none
  | .lock i =>
    match s.call i, s.holder with
    | .waiting config tracerPayloads, none =>
      some { s.setCall i (.locked config tracerPayloads) with holder := some i }
    | _, _ => none
  | .readClock i clock =>
    match s.call i with
    | .locked config tracerPayloads =>
      -- `clamp_timestamp`
      let nowUnixSecs := max s.shared.lastSamplerTimestamp clock
      let rest := candidates getRootSpanIndex config tracerPayloads
      some { s.setCall i (.sampling config tracerPayloads nowUnixSecs rest []) with
        shared := { s.shared with lastSamplerTimestamp := nowUnixSecs }
        served := s.served ++ [⟨config, tracerPayloads, clock⟩] }
    | _ => none
  | .sample i =>
    match s.call i with
    | .sampling config tracerPayloads nowUnixSecs (c :: rest) consultations =>
      match consult tracerPayloads nowUnixSecs s.shared.sampler c with
      | some (sampler, consultation) =>
        some { s.setCall i (.sampling config tracerPayloads nowUnixSecs rest
              (consultations ++ [consultation])) with
          shared := { s.shared with sampler }
          asked := s.asked ++ [consultation] }
      | none => some { s.setCall i .gone with holder := none }
    | _ => none
  | .unlock i =>
    match s.call i with
    | .sampling _ tracerPayloads _ [] consultations =>
      let written := (consultations.filterMap Consultation.kept).foldlM writeBack tracerPayloads
      some { s.setCall i ((written.map fun written => .returned (.v07 written)).getD .gone) with
        holder := none }
    | _ => none
  | .abandon i =>
    match s.call i with
    | .waiting .. => some (s.setCall i .gone)
    | _ => none

/-! ## What a step can do -/

/-- The ways a step changes the system. -/
inductive Effect (s : RescueSystem S D R X) : RescueSystem S D R X → Prop
  | begin (i : Nat) (config : RescueConfig) (payload : TracerPayloadCollection D R X)
      (absent : s.call i = .absent) :
      Effect s (s.setCall i (s.entry getRootSpanIndex config payload))
  | lock (i : Nat) (config : RescueConfig) (tracerPayloads : List (TracerPayload D R))
      (waiting : s.call i = .waiting config tracerPayloads) (free : s.holder = none) :
      Effect s { s.setCall i (.locked config tracerPayloads) with holder := some i }
  | readClock (i : Nat) (clock : Int) (config : RescueConfig)
      (tracerPayloads : List (TracerPayload D R))
      (locked : s.call i = .locked config tracerPayloads) :
      Effect s { s.setCall i (.sampling config tracerPayloads
            (max s.shared.lastSamplerTimestamp clock)
            (candidates getRootSpanIndex config tracerPayloads) []) with
        shared := { s.shared with
          lastSamplerTimestamp := max s.shared.lastSamplerTimestamp clock }
        served := s.served ++ [⟨config, tracerPayloads, clock⟩] }
  | sample (i : Nat) (config : RescueConfig) (tracerPayloads : List (TracerPayload D R))
      (nowUnixSecs : Int) (c : Candidate) (rest : List Candidate)
      (consultations : List (Consultation D))
      (sampling : s.call i = .sampling config tracerPayloads nowUnixSecs (c :: rest) consultations)
      (sampler : ErrorsSampler S D) (consultation : Consultation D)
      (asked : consult tracerPayloads nowUnixSecs s.shared.sampler c =
        some (sampler, consultation)) :
      Effect s { s.setCall i (.sampling config tracerPayloads nowUnixSecs rest
            (consultations ++ [consultation])) with
        shared := { s.shared with sampler }
        asked := s.asked ++ [consultation] }
  | panic (i : Nat) (config : RescueConfig) (tracerPayloads : List (TracerPayload D R))
      (nowUnixSecs : Int) (c : Candidate) (rest : List Candidate)
      (consultations : List (Consultation D))
      (sampling : s.call i = .sampling config tracerPayloads nowUnixSecs (c :: rest) consultations)
      (none_ : consult tracerPayloads nowUnixSecs s.shared.sampler c = none) :
      Effect s { s.setCall i .gone with holder := none }
  | unlock (i : Nat) (config : RescueConfig) (tracerPayloads : List (TracerPayload D R))
      (nowUnixSecs : Int) (consultations : List (Consultation D)) (call : RescueCall D R X)
      (sampling : s.call i = .sampling config tracerPayloads nowUnixSecs [] consultations)
      (outside : call.holdsLock = false)
      (asks : Asks getRootSpanIndex s.shared.errorRescueEnabled call) :
      Effect s { s.setCall i call with holder := none }
  | abandon (i : Nat) (config : RescueConfig) (tracerPayloads : List (TracerPayload D R))
      (waiting : s.call i = .waiting config tracerPayloads) : Effect s (s.setCall i .gone)

variable {getRootSpanIndex} {s s' : RescueSystem S D R X} {a : RescueAction D R X}

theorem effect_of_step (h : s.step getRootSpanIndex a = some s') :
    Effect getRootSpanIndex s s' := by
  cases a with
  | begin i config payload =>
    simp only [step] at h
    split at h <;> cases h
    rename_i absent
    exact .begin i config payload absent
  | lock i =>
    simp only [step] at h
    split at h <;> cases h
    rename_i waiting free
    exact .lock i _ _ waiting free
  | readClock i clock =>
    simp only [step] at h
    split at h <;> cases h
    rename_i locked
    exact .readClock i clock _ _ locked
  | sample i =>
    simp only [step] at h
    split at h
    · rename_i sampling
      split at h <;> cases h
      · rename_i asked
        exact .sample i _ _ _ _ _ _ sampling _ _ asked
      · rename_i none_
        exact .panic i _ _ _ _ _ _ sampling none_
    · cases h
  | unlock i =>
    simp only [step] at h
    split at h <;> cases h
    rename_i sampling
    cases written : (List.foldlM writeBack _ _ : Option (List (TracerPayload D R))) with
    | none => exact .unlock i _ _ _ _ _ sampling rfl trivial
    | some _ => exact .unlock i _ _ _ _ _ sampling rfl trivial
  | abandon i =>
    simp only [step] at h
    split at h <;> cases h
    rename_i waiting
    exact .abandon i _ _ waiting

/-- The other calls stay where they are. -/
theorem call_of_step (h : s.step getRootSpanIndex a = some s') {j : Nat} (other : j ≠ a.number) :
    s'.call j = s.call j := by
  cases a with
  | sample i =>
    simp only [step] at h
    split at h
    · split at h <;> cases h
      all_goals exact Function.update_of_ne other ..
    · cases h
  | _ =>
    simp only [step] at h
    split at h <;> cases h
    exact Function.update_of_ne other ..

/-! ## The timestamps -/

theorem consult_eq_some {tracerPayloads : List (TracerPayload D R)} {now : Int}
    {sampler sampler' : ErrorsSampler S D} {c : Candidate} {consultation : Consultation D}
    (h : consult tracerPayloads now sampler c = some (sampler', consultation)) :
    consultation.nowUnixSecs = now ∧
      sampler.sample now consultation.trace = (sampler', consultation.decision) := by
  simp only [consult, Option.bind_eq_bind, Option.bind_eq_some_iff, Option.pure_def,
    Option.some.injEq, Prod.mk.injEq] at h
  obtain ⟨_, -, _, -, _, -, rfl, rfl⟩ := h
  exact ⟨rfl, rfl⟩

theorem threads_concat {sampler sampler' sampler'' : ErrorsSampler S D}
    {consultations : List (Consultation D)} (threads : Threads sampler consultations sampler')
    {c : Consultation D}
    (next : sampler'.sample c.nowUnixSecs c.trace = (sampler'', c.decision)) :
    Threads sampler (consultations ++ [c]) sampler'' := by
  induction consultations generalizing sampler with
  | nil =>
    obtain rfl : sampler' = sampler := threads
    exact ⟨congrArg Prod.snd next, (congrArg Prod.fst next).symm⟩
  | cons d rest ih => exact ⟨threads.1, ih threads.2⟩

/-- What holds in every interleaving: who samples has the lock and the floor as its timestamp, and
the sampler has been asked at increasing timestamps up to the floor, and by nobody else. -/
structure Clocked (sampler : ErrorsSampler S D) (s : RescueSystem S D R X) : Prop where
  held : ∀ i, (s.call i).holdsLock = true → s.holder = some i
  clock : ∀ i config tracerPayloads nowUnixSecs rest consultations,
    s.call i = .sampling config tracerPayloads nowUnixSecs rest consultations →
      nowUnixSecs = s.shared.lastSamplerTimestamp
  ordered : (s.asked.map (·.nowUnixSecs)).Pairwise (· ≤ ·)
  floor : ∀ c ∈ s.asked, c.nowUnixSecs ≤ s.shared.lastSamplerTimestamp
  threads : Threads sampler s.asked s.shared.sampler

variable {sampler : ErrorsSampler S D}

/-- The lock is held by at most one call. -/
theorem Clocked.unique (clocked : s.Clocked sampler) {i j : Nat}
    (hi : (s.call i).holdsLock = true) (hj : (s.call j).holdsLock = true) : i = j :=
  Option.some.inj ((clocked.held i hi).symm.trans (clocked.held j hj))

/-- A step of the call that has the lock, or gives it back, leaves the others outside. -/
theorem Clocked.holds_update (clocked : s.Clocked sampler) {i j : Nat} {call : RescueCall D R X}
    (hi : (s.call i).holdsLock = true)
    (hj : (Function.update s.call i call j).holdsLock = true) : j = i ∧ call.holdsLock = true := by
  by_cases same : j = i
  · subst same
    rw [Function.update_self] at hj
    exact ⟨rfl, hj⟩
  · rw [Function.update_of_ne same] at hj
    exact absurd (clocked.unique hj hi) same

theorem Clocked.sampling_update (clocked : s.Clocked sampler) {i j : Nat}
    {call : RescueCall D R X} (hi : (s.call i).holdsLock = true) {config : RescueConfig}
    {tracerPayloads : List (TracerPayload D R)} {nowUnixSecs : Int} {rest : List Candidate}
    {consultations : List (Consultation D)}
    (sampling : Function.update s.call i call j =
      .sampling config tracerPayloads nowUnixSecs rest consultations) :
    call = .sampling config tracerPayloads nowUnixSecs rest consultations := by
  have holds : (Function.update s.call i call j).holdsLock = true := by
    rw [sampling]
    rfl
  obtain ⟨rfl, -⟩ := clocked.holds_update hi holds
  rwa [Function.update_self] at sampling

theorem clocked_setCall (clocked : s.Clocked sampler) {i : Nat} {call : RescueCall D R X}
    (stays : call.holdsLock = false) : (s.setCall i call).Clocked sampler := by
  refine ⟨?_, ?_, clocked.ordered, clocked.floor, clocked.threads⟩
  · intro j holds
    by_cases same : j = i
    · subst same
      simp [setCall, stays] at holds
    · exact clocked.held j (by simpa [setCall, same] using holds)
  · intro j config tracerPayloads now rest consultations sampling
    by_cases same : j = i
    · subst same
      simp only [setCall, Function.update_self] at sampling
      simp [sampling, RescueCall.holdsLock] at stays
    · exact clocked.clock j config tracerPayloads now rest consultations
        (by simpa [setCall, same] using sampling)

theorem clocked_effect (clocked : s.Clocked sampler) (effect : Effect getRootSpanIndex s s') :
    s'.Clocked sampler := by
  cases effect with
  | begin i config payload absent =>
    exact clocked_setCall clocked (holdsLock_entry getRootSpanIndex s config payload)
  | abandon i config tracerPayloads waiting => exact clocked_setCall clocked rfl
  | lock i config tracerPayloads waiting free =>
    refine ⟨?_, ?_, clocked.ordered, clocked.floor, clocked.threads⟩
    · intro j holds
      by_cases same : j = i
      · rw [same]
      · have held := clocked.held j (by simpa [setCall, same] using holds)
        rw [free] at held
        cases held
    · intro j config tracerPayloads now rest consultations sampling
      by_cases same : j = i
      · simp [setCall, same] at sampling
      · exact clocked.clock j config tracerPayloads now rest consultations
          (by simpa [setCall, same] using sampling)
  | readClock i clock config tracerPayloads locked =>
    have holds : (s.call i).holdsLock = true := by
      rw [locked]
      rfl
    refine ⟨?_, ?_, clocked.ordered, ?_, clocked.threads⟩
    · intro j holds'
      obtain ⟨rfl, -⟩ := clocked.holds_update holds holds'
      exact clocked.held j holds
    · intro j config' tracerPayloads' now rest consultations sampling
      cases clocked.sampling_update holds sampling
      rfl
    · intro c mem
      exact (clocked.floor c mem).trans (le_max_left _ _)
  | sample i config tracerPayloads now c rest consultations sampling sampler' consultation asked =>
    have holds := holdsLock_of_sampling sampling
    obtain ⟨time, answer⟩ := consult_eq_some asked
    have floor : now = s.shared.lastSamplerTimestamp := clocked.clock i _ _ _ _ _ sampling
    refine ⟨?_, ?_, ?_, ?_, ?_⟩
    · intro j holds'
      obtain ⟨rfl, -⟩ := clocked.holds_update holds holds'
      exact clocked.held j holds
    · intro j config' tracerPayloads' now' rest' consultations' sampling'
      cases clocked.sampling_update holds sampling'
      exact floor
    · rw [List.map_append, List.pairwise_append]
      refine ⟨clocked.ordered, List.pairwise_singleton _ _, ?_⟩
      intro earlier mem later mem'
      obtain ⟨c, before, rfl⟩ := List.mem_map.1 mem
      obtain rfl : later = consultation.nowUnixSecs := by simpa using mem'
      rw [time, floor]
      exact clocked.floor c before
    · intro c mem
      rcases List.mem_append.1 mem with mem | mem
      · exact clocked.floor c mem
      · rw [List.mem_singleton.1 mem, time, floor]
    · exact threads_concat clocked.threads (by rw [time, answer])
  | panic i config tracerPayloads now c rest consultations sampling none_ =>
    have holds := holdsLock_of_sampling sampling
    refine ⟨?_, ?_, clocked.ordered, clocked.floor, clocked.threads⟩
    · intro j holds'
      have kept := (clocked.holds_update holds holds').2
      cases kept
    · intro j config' tracerPayloads' now' rest' consultations' sampling'
      cases clocked.sampling_update holds sampling'
  | unlock i config tracerPayloads now consultations call sampling outside asks =>
    have holds := holdsLock_of_sampling sampling
    refine ⟨?_, ?_, clocked.ordered, clocked.floor, clocked.threads⟩
    · intro j holds'
      have kept := (clocked.holds_update holds holds').2
      rw [outside] at kept
      cases kept
    · intro j config' tracerPayloads' now' rest' consultations' sampling'
      cases clocked.sampling_update holds sampling'
      cases outside

/-! ## The window -/

/-- The window does not lie ahead of a timestamp. Only the first count, while there is nothing in
the window, may come before bucket 0. -/
def NotAhead (sampler : ErrorsSampler S D) (nowUnixSecs : Int) : Prop :=
  match sampler with
  | .alwaysKeep _ => True
  | .rateLimited s => s.sampler.seen = ∅ ∧ s.sampler.lastBucketId = 0 ∨
      s.sampler.lastBucketId ≤ Sampler.bucketOf nowUnixSecs

/-- At no consultation does the window have to go back. -/
def RotatesForward : ErrorsSampler S D → List (Consultation D) → Prop
  | _, [] => True
  | sampler, c :: rest => NotAhead sampler c.nowUnixSecs ∧
    RotatesForward (sampler.sample c.nowUnixSecs c.trace).1 rest

theorem notAhead_sample {sampler : ErrorsSampler S D} {now later : Int}
    (start : NotAhead sampler now) (le : now ≤ later) (trace : TraceView D) :
    NotAhead (sampler.sample now trace).1 later := by
  cases sampler with
  | alwaysKeep disabled =>
    simp only [ErrorsSampler.sample]
    split <;> trivial
  | rateLimited s =>
    have mono : Sampler.bucketOf now ≤ Sampler.bucketOf later :=
      Int.tdiv_le_tdiv (by decide) le
    simp only [ErrorsSampler.sample, RateLimitedSampler.sample]
    split
    · refine .inr ?_
      rw [Sampler.countWeightedSig_lastBucketId]
      exact mono
    · exact start.imp_right (le_trans · mono)

theorem rotatesForward_of_ordered {sampler : ErrorsSampler S D}
    {consultations : List (Consultation D)}
    (ordered : (consultations.map (·.nowUnixSecs)).Pairwise (· ≤ ·))
    (start : ∀ c ∈ consultations, NotAhead sampler c.nowUnixSecs) :
    RotatesForward sampler consultations := by
  induction consultations generalizing sampler with
  | nil => trivial
  | cons c rest ih =>
    obtain ⟨first, ordered⟩ := List.pairwise_cons.1 ordered
    have now := start c List.mem_cons_self
    refine ⟨now, ih ordered fun d mem => ?_⟩
    exact notAhead_sample now (first d.nowUnixSecs (List.mem_map_of_mem mem)) c.trace

omit [Add S] [LT S] [DecidableLT S] [Max S] [Widen S D] [Narrow S D] [Double D] [One D] [Sub D]
  [Mul D] [Div D] [NatCast D] [OfScientific D] [LT D] [DecidableLT D] [BEq D] in
theorem notAhead_new (config : ErrorSamplerConfig D) (now : Int) :
    NotAhead (ErrorRescue.new config : ErrorRescue S D).sampler now := by
  simp only [ErrorRescue.new, ErrorsSampler.new]
  split
  · trivial
  · exact .inl ⟨rfl, rfl⟩

/-- The processor and its clones before the first call. -/
def init (config : ErrorSamplerConfig D) : RescueSystem S D R X := { shared := .new config }

theorem clocked_init (config : ErrorSamplerConfig D) :
    (init config : RescueSystem S D R X).Clocked (ErrorRescue.new config).sampler :=
  ⟨nofun, nofun, .nil, nofun, rfl⟩

/-- In every interleaving of the calls of all clones, and for all readings of the clock: the
timestamps the sampler was asked with do not decrease, its state comes from those consultations
alone, and its window never goes back. -/
theorem timestamps_ordered (getRootSpanIndex : GetRootSpanIndex D R)
    (config : ErrorSamplerConfig D) (actions : List (RescueAction D R X))
    (s : RescueSystem S D R X)
    (run : Runs.exec (step getRootSpanIndex) (init config) actions = some s) :
    (s.asked.map (·.nowUnixSecs)).Pairwise (· ≤ ·) ∧
    Threads (ErrorRescue.new config : ErrorRescue S D).sampler s.asked s.shared.sampler ∧
    RotatesForward (ErrorRescue.new config : ErrorRescue S D).sampler s.asked := by
  have clocked : s.Clocked (ErrorRescue.new config).sampler :=
    Runs.invariant (fun _ _ _ clocked h => clocked_effect clocked (effect_of_step h))
      (clocked_init config) run
  exact ⟨clocked.ordered, clocked.threads,
    rotatesForward_of_ordered clocked.ordered fun c _ => notAhead_new config c.nowUnixSecs⟩

/-! ## The calls one after the other -/

theorem consultAll_concat {tracerPayloads : List (TracerPayload D R)} {now : Int}
    {sampler sampler' sampler'' : ErrorsSampler S D} {asked : List Candidate} {c : Candidate}
    {consultations : List (Consultation D)} {consultation : Consultation D}
    (all : consultAll tracerPayloads now sampler asked = some (sampler', consultations))
    (next : consult tracerPayloads now sampler' c = some (sampler'', consultation)) :
    consultAll tracerPayloads now sampler (asked ++ [c]) =
      some (sampler'', consultations ++ [consultation]) := by
  induction asked generalizing sampler consultations with
  | nil =>
    cases all
    simp [consultAll, next]
  | cons d rest ih =>
    simp only [consultAll, Option.bind_eq_bind, Option.bind_eq_some_iff, Option.pure_def,
      Option.some.injEq, Prod.mk.injEq, Prod.exists] at all
    obtain ⟨_, _, first, _, _, later, rfl, rfl⟩ := all
    simp [consultAll, first, ih later]

/-- The state that calls leave which run one after the other. -/
def serially (getRootSpanIndex : GetRootSpanIndex D R) (state : ErrorRescue S D)
    (served : List (ServedCall D R)) : Option (ErrorRescue S D) :=
  served.foldlM (fun state c =>
    (applyErrorRescueWithClock getRootSpanIndex c.config state
      (.v07 c.tracerPayloads : TracerPayloadCollection D R Unit) c.clock).map (·.2.1)) state

/-- A call amid its candidates: the others have left `before`, and the sampler has been asked about
the first of its own. -/
structure Midway (getRootSpanIndex : GetRootSpanIndex D R) (state shared : ErrorRescue S D)
    (served : List (ServedCall D R)) (config : RescueConfig)
    (tracerPayloads : List (TracerPayload D R)) (nowUnixSecs : Int) (rest : List Candidate)
    (consultations : List (Consultation D)) (earlier : List (ServedCall D R)) (clock : Int)
    (before : ErrorRescue S D) (asked : List Candidate) : Prop where
  served : served = earlier ++ [⟨config, tracerPayloads, clock⟩]
  left : serially getRootSpanIndex state earlier = some before
  enabled : before.errorRescueEnabled = true
  some_ : candidates getRootSpanIndex config tracerPayloads ≠ []
  now : nowUnixSecs = max before.lastSamplerTimestamp clock
  gained : shared = { before with sampler := shared.sampler, lastSamplerTimestamp := nowUnixSecs }
  split : candidates getRootSpanIndex config tracerPayloads = asked ++ rest
  all : consultAll tracerPayloads nowUnixSecs before.sampler asked =
    some (shared.sampler, consultations)

/-- The shared state is what the calls leave one after the other, up to the one that is sampling. -/
structure Serial (getRootSpanIndex : GetRootSpanIndex D R) (state : ErrorRescue S D)
    (s : RescueSystem S D R X) : Prop where
  asks : ∀ i, Asks getRootSpanIndex s.shared.errorRescueEnabled (s.call i)
  between : (∀ i, (s.call i).samples = false) →
    serially getRootSpanIndex state s.served = some s.shared
  midway : ∀ i config tracerPayloads now rest consultations,
    s.call i = .sampling config tracerPayloads now rest consultations →
    ∃ earlier clock before asked, Midway getRootSpanIndex state s.shared s.served config
      tracerPayloads now rest consultations earlier clock before asked

variable {state : ErrorRescue S D}

theorem Serial.asks_update (serial : s.Serial getRootSpanIndex state) {i : Nat}
    {call : RescueCall D R X} (asks : Asks getRootSpanIndex s.shared.errorRescueEnabled call)
    (j : Nat) :
    Asks getRootSpanIndex s.shared.errorRescueEnabled (Function.update s.call i call j) :=
  (Function.forall_update_iff s.call fun _ call =>
    Asks getRootSpanIndex s.shared.errorRescueEnabled call).2 ⟨asks, fun j _ => serial.asks j⟩ j

/-- A call that does not sample goes on, and does not sample yet. -/
theorem Serial.update (serial : s.Serial getRootSpanIndex state) {i : Nat}
    {call : RescueCall D R X} (outside : (s.call i).samples = false) (stays : call.samples = false)
    (asks : Asks getRootSpanIndex s.shared.errorRescueEnabled call) (holder : Option Nat) :
    Serial getRootSpanIndex state { s.setCall i call with holder } := by
  refine ⟨serial.asks_update asks, ?_, ?_⟩
  · intro none_
    refine serial.between fun j => ?_
    by_cases same : j = i
    · rw [same]
      exact outside
    · simpa [setCall, same] using none_ j
  · intro j config tracerPayloads now rest consultations sampling
    by_cases same : j = i
    · simp only [setCall, same, Function.update_self] at sampling
      rw [sampling] at stays
      cases stays
    · exact serial.midway j config tracerPayloads now rest consultations
        (by simpa [setCall, same] using sampling)

/-- While a call that holds the lock does not sample, none does. -/
theorem Clocked.none_samples (clocked : s.Clocked sampler) {i : Nat}
    (holds : (s.call i).holdsLock = true) (notYet : (s.call i).samples = false) (j : Nat) :
    (s.call j).samples = false := by
  cases samples : (s.call j).samples with
  | false => rfl
  | true =>
    rw [clocked.unique holds (RescueCall.holdsLock_of_samples samples), samples] at notYet
    cases notYet

/-- The samples are over: the call has done what it does alone. -/
theorem Midway.finish
    (inRange : ∀ spans i, getRootSpanIndex spans = .ok i → i < spans.length)
    {shared before : ErrorRescue S D} {served earlier : List (ServedCall D R)}
    {config : RescueConfig} {tracerPayloads : List (TracerPayload D R)} {now clock : Int}
    {consultations : List (Consultation D)} {asked : List Candidate}
    (midway : Midway getRootSpanIndex state shared served config tracerPayloads now []
      consultations earlier clock before asked) :
    serially getRootSpanIndex state served = some shared := by
  have whole := midway.all
  rw [← List.append_nil asked, ← midway.split] at whole
  obtain ⟨_, _, again, written, -⟩ :=
    rescue_candidates config inRange before.sampler tracerPayloads now
  obtain ⟨rfl, rfl⟩ := Prod.mk.inj (Option.some.inj (whole.symm.trans again))
  have alone : applyErrorRescueWithClock getRootSpanIndex config before
      (.v07 tracerPayloads : TracerPayloadCollection D R Unit) clock =
      some (.v07 (edit (verdict consultations) tracerPayloads),
        { before with sampler := shared.sampler, lastSamplerTimestamp := now }, consultations) := by
    simp only [applyErrorRescueWithClock, midway.enabled, Bool.true_eq_false, if_false,
      List.isEmpty_iff, midway.some_, ← midway.now, whole, Option.bind_eq_bind, Option.bind_some,
      written, Option.pure_def]
  rw [midway.served, serially, List.foldlM_append]
  have left := midway.left
  rw [serially] at left
  simp only [left, Option.bind_eq_bind, Option.bind_some, List.foldlM_cons, List.foldlM_nil, alone,
    Option.map_some, Option.pure_def]
  rw [← midway.gained]

theorem serial_effect
    (inRange : ∀ spans i, getRootSpanIndex spans = .ok i → i < spans.length)
    (clocked : s.Clocked sampler) (serial : s.Serial getRootSpanIndex state)
    (effect : Effect getRootSpanIndex s s') : s'.Serial getRootSpanIndex state := by
  cases effect with
  | begin i config payload absent =>
    exact serial.update (by rw [absent]; rfl)
      (RescueCall.not_samples (holdsLock_entry getRootSpanIndex s config payload))
      (asks_entry getRootSpanIndex s config payload) s.holder
  | abandon i config tracerPayloads waiting =>
    have asks : Asks getRootSpanIndex s.shared.errorRescueEnabled (.gone : RescueCall D R X) :=
      trivial
    exact serial.update (by rw [waiting]; rfl) rfl asks s.holder
  | lock i config tracerPayloads waiting free =>
    have asks : Asks getRootSpanIndex s.shared.errorRescueEnabled
        (.locked config tracerPayloads : RescueCall D R X) := by
      simpa [waiting, Asks] using serial.asks i
    exact serial.update (by rw [waiting]; rfl) rfl asks (some i)
  | readClock i clock config tracerPayloads locked =>
    have holds : (s.call i).holdsLock = true := by
      rw [locked]
      rfl
    have notYet := clocked.none_samples holds (by rw [locked]; rfl)
    have asks := serial.asks i
    rw [locked] at asks
    refine ⟨serial.asks_update trivial, ?_, ?_⟩
    · intro none_
      have sampling := none_ i
      simp [setCall, RescueCall.samples] at sampling
    · intro j config' tracerPayloads' now rest consultations sampling
      cases clocked.sampling_update holds sampling
      exact ⟨s.served, clock, s.shared, [], rfl, serial.between notYet, asks.1, asks.2, rfl, rfl,
        rfl, rfl⟩
  | sample i config tracerPayloads now c rest consultations sampling sampler' consultation asked =>
    have holds := holdsLock_of_sampling sampling
    obtain ⟨earlier, clock, before, done, midway⟩ := serial.midway i _ _ _ _ _ sampling
    refine ⟨serial.asks_update trivial, ?_, ?_⟩
    · intro none_
      have sampling := none_ i
      simp [setCall, RescueCall.samples] at sampling
    · intro j config' tracerPayloads' now' rest' consultations' sampling'
      cases clocked.sampling_update holds sampling'
      refine ⟨earlier, clock, before, done ++ [c], midway.served, midway.left, midway.enabled,
        midway.some_, midway.now, ?_, ?_, consultAll_concat midway.all asked⟩
      · rw [midway.gained]
      · rw [midway.split, List.append_assoc]
        rfl
  | panic i config tracerPayloads now c rest consultations sampling none_ =>
    obtain ⟨_, _, _, _, midway⟩ := serial.midway i _ _ _ _ _ sampling
    have refers : c.Refers tracerPayloads := by
      refine refers_of_selects getRootSpanIndex config tracerPayloads inRange
        ((exists_candidate_iff getRootSpanIndex config tracerPayloads _ _).1 ⟨c, ?_, rfl, rfl⟩)
      rw [midway.split]
      simp
    have alone : ∀ d ∈ [c], d.Refers tracerPayloads := by simpa using refers
    obtain ⟨_, _, one, -⟩ := consultAll_eq_some now s.shared.sampler alone
    simp [consultAll, none_] at one
  | unlock i config tracerPayloads now consultations call sampling outside asks =>
    have holds := holdsLock_of_sampling sampling
    obtain ⟨_, _, _, _, midway⟩ := serial.midway i _ _ _ _ _ sampling
    refine ⟨serial.asks_update asks, fun _ => midway.finish inRange, ?_⟩
    intro j config' tracerPayloads' now' rest' consultations' sampling'
    cases clocked.sampling_update holds sampling'
    cases outside

/-- Whatever the interleaving: while no call is sampling, the shared state is the one that the calls
leave which run one after the other, in the order in which they have read the clock. -/
theorem serial_run (getRootSpanIndex : GetRootSpanIndex D R)
    (inRange : ∀ spans i, getRootSpanIndex spans = .ok i → i < spans.length)
    (config : ErrorSamplerConfig D) (actions : List (RescueAction D R X))
    (s : RescueSystem S D R X)
    (run : Runs.exec (step getRootSpanIndex) (init config) actions = some s)
    (quiet : ∀ i, (s.call i).samples = false) :
    serially getRootSpanIndex (.new config) s.served = some s.shared := by
  have start : (init config : RescueSystem S D R X).Serial getRootSpanIndex (.new config) :=
    ⟨fun _ => trivial, fun _ => rfl, nofun⟩
  have both := Runs.invariant (P := fun s : RescueSystem S D R X =>
      s.Clocked (ErrorRescue.new config).sampler ∧ s.Serial getRootSpanIndex (.new config))
    (fun s a s' ⟨clocked, serial⟩ h => ⟨clocked_effect clocked (effect_of_step h),
      serial_effect inRange clocked serial (effect_of_step h)⟩)
    ⟨clocked_init config, start⟩ run
  exact both.2.between quiet

end Step

/-! ## Two clones and a clock that jumps -/

section Exact

/-- Exact numbers, converted as the floats are where both agree. -/
local instance exactDouble : Double ℚ where
  isFinite _ := true
  toU64 q := UInt64.ofNat q.floor.toNat
  ofU64 n := n.toNat

local instance exactNarrow : Narrow ℚ ℚ := ⟨id⟩
local instance exactWiden : Widen ℚ ℚ := ⟨id⟩

/-- The first clone waits while the second reads the clock; then the clock goes back a minute. -/
def jumpingClock : List (RescueAction ℚ Unit Unit) :=
  let config : RescueConfig := ⟨"", false⟩
  [.begin 0 config Example.failedRequest, .begin 1 config Example.failedRequest, .lock 1,
    .readClock 1 1700000000, .sample 1, .unlock 1, .lock 0, .readClock 0 1699999940, .sample 0,
    .unlock 0]

theorem timestamps_ordered_two_clones :
    ∃ s : RescueSystem ℚ ℚ Unit Unit,
      Runs.exec (step Example.firstSpan) (init ⟨.rateLimited, 10, 1⟩) jumpingClock = some s ∧
      s.asked.map (·.nowUnixSecs) = [1700000000, 1700000000] ∧
      (s.asked.map (·.nowUnixSecs)).Pairwise (· ≤ ·) := by
  have clocks : (Runs.exec (step Example.firstSpan) (init ⟨.rateLimited, 10, 1⟩ :
      RescueSystem ℚ ℚ Unit Unit) jumpingClock).map (fun s => s.asked.map (·.nowUnixSecs)) =
      some [1700000000, 1700000000] := by decide +kernel
  obtain ⟨s, run, clocks⟩ := Option.map_eq_some_iff.1 clocks
  exact ⟨s, run, clocks,
    (timestamps_ordered Example.firstSpan ⟨.rateLimited, 10, 1⟩ jumpingClock s run).1⟩

/-- The second clone comes first: it has read the clock before. -/
theorem serial_run_two_clones :
    ∃ s : RescueSystem ℚ ℚ Unit Unit,
      Runs.exec (step Example.firstSpan) (init ⟨.rateLimited, 10, 1⟩) jumpingClock = some s ∧
      s.served.map (·.clock) = [1700000000, 1699999940] ∧
      serially Example.firstSpan (.new ⟨.rateLimited, 10, 1⟩) s.served = some s.shared := by
  have ends : (Runs.exec (step Example.firstSpan) (init ⟨.rateLimited, 10, 1⟩ :
      RescueSystem ℚ ℚ Unit Unit) jumpingClock).map (fun s =>
        (s.served.map (·.clock), (s.call 0).samples, (s.call 1).samples)) =
      some ([1700000000, 1699999940], false, false) := by decide +kernel
  obtain ⟨s, run, ends⟩ := Option.map_eq_some_iff.1 ends
  simp only [Prod.mk.injEq] at ends
  obtain ⟨clocks, first, second⟩ := ends
  have quiet (i : Nat) : (s.call i).samples = false := by
    by_cases own : i < 2
    · interval_cases i
      · exact first
      · exact second
    · have others : ∀ a ∈ jumpingClock, i ≠ a.number := by
        simp [jumpingClock, RescueAction.number]
        omega
      have absent := Runs.invariant_along (P := fun t : RescueSystem ℚ ℚ Unit Unit =>
          t.call i = .absent) (fun t a t' absent other h => (call_of_step h other).trans absent)
        rfl (Runs.along_of_forall others _) run
      rw [absent]
      rfl
  exact ⟨s, run, clocks, serial_run Example.firstSpan Example.firstSpan_inRange
    ⟨.rateLimited, 10, 1⟩ jumpingClock s run quiet⟩

end Exact

end RescueSystem

end ServerlessComponents.TraceAgent
