import ServerlessComponents.Library.Runs
import ServerlessComponents.MockIntake.FailureBudget

/-!
# The order of the captures

A request gets its id when its head arrives, takes a number of the failure budget when its body is
decoded, and is recorded when its handler is done; other requests may do any of this in between.

## Main results

* `Turn`, `step_cases` — what one step can do.
* `Inv.turn` — one attempt goes on.
* `captures_in_arrival_order` — the captures and the failure budget after any run.
-/
namespace ServerlessComponents.MockIntake

/-! ## The captures of some attempts -/

section Attempts

variable {S A P T : Type}

def Accepted.stats? : Accepted S A P → Option S
  | .stats payload => some payload
  | _ => none

def Accepted.traces? : Accepted S A P → Option A
  | .traces payload => some payload
  | _ => none

def Accepted.pipelineStats? : Accepted S A P → Option P
  | .pipelineStats payload => some payload
  | _ => none

/-- What is known of an attempt when it arrives. -/
def Attempt.head (a : Attempt S A P) : Endpoint × String × HeaderMap :=
  (a.endpoint, a.path, a.headers)

/-- The raw capture of a completed attempt. -/
def Attempt.rawCapture (a : Attempt S A P) : Option (Nat × CapturedRequest) :=
  match a.phase with
  | .recorded captured _ => some (a.requestId, captured)
  | _ => none

/-- The payload of a completed attempt, if it was accepted and is of this kind. -/
def Attempt.payload (kind : Accepted S A P → Option T) (a : Attempt S A P) : Option (Nat × T) :=
  match a.phase with
  | .recorded _ outcome => (outcome.accepted.bind kind).map (a.requestId, ·)
  | _ => none

/-- The same payload without its id. -/
def Attempt.acceptedPayload (kind : Accepted S A P → Option T) (a : Attempt S A P) : Option T :=
  match a.phase with
  | .recorded _ outcome => outcome.accepted.bind kind
  | _ => none

/-- The captures of the completed ones among some attempts, in their order. -/
def Captured.ofAttempts (attempts : List (Attempt S A P)) : Captured S A P where
  requests := attempts.filterMap Attempt.rawCapture
  stats := attempts.filterMap (Attempt.payload Accepted.stats?)
  traces := attempts.filterMap (Attempt.payload Accepted.traces?)
  pipelineStats := attempts.filterMap (Attempt.payload Accepted.pipelineStats?)

theorem Attempt.rawCapture_fst {a : Attempt S A P} {entry : Nat × CapturedRequest}
    (eq : a.rawCapture = some entry) : entry.1 = a.requestId := by
  unfold rawCapture at eq
  split at eq
  · cases eq
    rfl
  · cases eq

theorem Attempt.payload_fst {kind : Accepted S A P → Option T} {a : Attempt S A P}
    {entry : Nat × T} (eq : a.payload kind = some entry) : entry.1 = a.requestId := by
  unfold payload at eq
  split at eq
  · obtain ⟨_, -, rfl⟩ := Option.map_eq_some_iff.1 eq
    rfl
  · cases eq

/-- The request of an attempt, once its body is read. -/
def Phase.captured? : Phase S A P → Option CapturedRequest
  | .handling captured | .handled captured _ | .recorded captured _ => some captured
  | _ => none

/-- What its handler gave. -/
def Phase.outcome? : Phase S A P → Option (Outcome S A P)
  | .handled _ outcome | .recorded _ outcome => some outcome
  | _ => none

theorem items_filterMap_payload (kind : Accepted S A P → Option T)
    (attempts : List (Attempt S A P)) :
    items (attempts.filterMap (Attempt.payload kind)) =
      attempts.filterMap (Attempt.acceptedPayload kind) := by
  rw [items, List.map_filterMap]
  apply List.filterMap_congr
  intro a _
  rw [Attempt.payload, Attempt.acceptedPayload]
  cases a.phase with
  | recorded _ outcome => exact (Option.map_map ..).trans (Option.map_id' ..)
  | _ => rfl

/-- A payload has its raw capture beside it. -/
theorem Attempt.rawCapture_of_payload {kind : Accepted S A P → Option T} {a : Attempt S A P}
    {entry : Nat × T} (eq : a.payload kind = some entry) :
    ∃ captured, a.rawCapture = some (entry.1, captured) := by
  rw [payload_fst eq]
  unfold payload at eq
  split at eq
  · rename_i captured outcome phase
    exact ⟨captured, by rw [rawCapture, phase]⟩
  · cases eq

section Record

variable {attempts : List (Attempt S A P)} {i : Nat} {a : Attempt S A P}
  {captured : CapturedRequest} {outcome : Outcome S A P}

/-- An attempt that goes on without being recorded has no capture. -/
theorem Captured.ofAttempts_set (found : attempts[i]? = some a) (phase : Phase S A P)
    (before : ∀ captured outcome, a.phase ≠ .recorded captured outcome)
    (after : ∀ captured outcome, phase ≠ .recorded captured outcome) :
    ofAttempts (attempts.set i { a with phase }) = ofAttempts attempts := by
  have raw : ({ a with phase } : Attempt S A P).rawCapture = a.rawCapture := by
    unfold Attempt.rawCapture
    grind
  have payload {T : Type} (kind : Accepted S A P → Option T) :
      ({ a with phase } : Attempt S A P).payload kind = a.payload kind := by
    unfold Attempt.payload
    grind
  simp only [ofAttempts, SortedInsert.filterMap_set found raw,
    SortedInsert.filterMap_set found (payload _)]

/-- The payloads of one kind when an attempt is recorded. -/
theorem filterMap_payload_set (sorted : attempts.Pairwise fun b c => b.requestId < c.requestId)
    (found : attempts[i]? = some a) (phase : a.phase = .handled captured outcome)
    (kind : Accepted S A P → Option T) :
    (attempts.set i { a with phase := .recorded captured outcome }).filterMap
        (Attempt.payload kind) =
      match outcome.accepted.bind kind with
      | some item => insertSorted (attempts.filterMap (Attempt.payload kind)) a.requestId item
      | none => attempts.filterMap (Attempt.payload kind) := by
  have absent : a.payload kind = none := by rw [Attempt.payload, phase]
  cases picked : outcome.accepted.bind kind with
  | some item =>
    symm
    refine SortedInsert.insert_filterMap sorted (fun _ _ _ => Attempt.payload_fst) found absent ?_
    exact congrArg (Option.map (a.requestId, ·)) picked
  | none =>
    refine SortedInsert.filterMap_set found ?_
    rw [absent]
    exact congrArg (Option.map (a.requestId, ·)) picked

/-- Recording an attempt that is handled makes it one of the completed ones. -/
theorem Captured.ofAttempts_record
    (sorted : attempts.Pairwise fun b c => b.requestId < c.requestId)
    (found : attempts[i]? = some a) (phase : a.phase = .handled captured outcome) :
    ofAttempts (attempts.set i { a with phase := .recorded captured outcome }) =
      (ofAttempts attempts).record a.requestId captured outcome.accepted := by
  have raw : (attempts.set i { a with phase := .recorded captured outcome }).filterMap
      Attempt.rawCapture =
        insertSorted (attempts.filterMap Attempt.rawCapture) a.requestId captured := by
    have absent : a.rawCapture = none := by rw [Attempt.rawCapture, phase]
    exact (SortedInsert.insert_filterMap sorted (fun _ _ _ => Attempt.rawCapture_fst) found absent
      rfl).symm
  have payload {T : Type} := filterMap_payload_set (T := T) sorted found phase
  rw [ofAttempts, raw, payload, payload, payload]
  cases outcome.accepted with
  | none => rfl
  | some accepted => cases accepted <;> rfl

end Record

end Attempts

/-- The attempt an action is about. -/
def IntakeAction.attempt? : IntakeAction → Option Nat
  | .head .. => none
  | .body i _ | .disconnect i | .handle i | .panic i _ | .record i => some i

namespace Intake

variable {S A P : Type} (codecs : Codecs S A P) (failStatsFirstN : Nat)

/-! ## Steps -/

/-- What an action on one attempt does. -/
inductive Turn (action : IntakeAction) (s : Intake S A P) (i : Nat) (a : Attempt S A P) :
    Intake S A P → Prop
  | read {body} (phase : a.phase = .reading) (arrives : action = .body i (.ok body))
      (bounded : body.length ≤ MAX_BODY_SIZE) :
      Turn action s i a (s.setPhase i a (.handling (a.capture body)))
  | reject {status} (phase : a.phase = .reading) :
      Turn action s i a (s.setPhase i a (.rejected status))
  | abandon (phase : a.phase = .reading) : Turn action s i a (s.setPhase i a .abandoned)
  | handle {captured} (phase : a.phase = .handling captured) {result}
      (eq : result = handleEndpoint codecs failStatsFirstN s.statsAttempts a.endpoint a.headers
        captured.body) :
      Turn action s i a
        (s.settle i a captured { status := result.1.1, accepted := result.1.2 } result.2)
  | panic {captured} (phase : a.phase = .handling captured) {took : Bool}
      (may : took = true → takesNumber codecs a.endpoint a.headers captured.body) :
      Turn action s i a (s.settle i a captured ⟨.internalServerError, none, true⟩
        (s.statsAttempts + took.toNat))
  | record {captured outcome} (phase : a.phase = .handled captured outcome) :
      Turn action s i a { s.setPhase i a (.recorded captured outcome) with
        captured := s.captured.record a.requestId captured outcome.accepted }

/-- The request that arrives, if it is a POST to a supported endpoint. -/
def arrival : IntakeAction → Option (Endpoint × String × HeaderMap)
  | .head method path headers => (route method path).toOption.map (·, path, headers)
  | _ => none

variable {codecs failStatsFirstN} {s s' : Intake S A P} {action : IntakeAction} {i : Nat}
  {a : Attempt S A P}

theorem turn_of_act (own : action.attempt? = some i)
    (h : s.act codecs failStatsFirstN i a action = some s') :
    s' = s ∨ Turn codecs failStatsFirstN action s i a s' := by
  cases action with
  | head => cases h
  | body j read =>
    simp only [act] at h
    cases phase : a.phase with
    | reading =>
      rw [phase] at h
      cases read with
      | error e =>
        cases h
        exact .inr (.reject phase)
      | ok body =>
        by_cases large : MAX_BODY_SIZE < body.length
        · rw [collect, if_pos large] at h
          cases h
          exact .inr (.reject phase)
        · rw [collect, if_neg large] at h
          cases h
          cases own
          exact .inr (.read phase rfl (Nat.le_of_not_lt large))
    | _ => simp [phase] at h
  | disconnect j =>
    simp only [act] at h
    cases phase : a.phase with
    | reading =>
      rw [phase] at h
      cases h
      exact .inr (.abandon phase)
    | handling =>
      rw [phase] at h
      cases h
      exact .inl rfl
    | handled =>
      rw [phase] at h
      cases h
      exact .inl rfl
    | _ => simp [phase] at h
  | handle j =>
    simp only [act] at h
    cases phase : a.phase with
    | handling captured =>
      rw [phase] at h
      cases h
      exact .inr (.handle phase rfl)
    | _ => simp [phase] at h
  | panic j took =>
    simp only [act] at h
    cases phase : a.phase with
    | handling captured =>
      rw [phase] at h
      obtain ⟨may, eq⟩ := Option.ite_none_right_eq_some.1 h
      cases eq
      exact .inr (.panic phase may)
    | _ => simp [phase] at h
  | record j =>
    simp only [act] at h
    cases phase : a.phase with
    | handled captured outcome =>
      rw [phase] at h
      cases h
      exact .inr (.record phase)
    | _ => simp [phase] at h

theorem step_cases (h : step codecs failStatsFirstN s action = some s') :
    (∃ endpoint path headers, arrival action = some (endpoint, path, headers) ∧
      s' = s.arrive endpoint path headers) ∨
    arrival action = none ∧ (s' = s ∨
      ∃ i a, s.attempts[i]? = some a ∧ Turn codecs failStatsFirstN action s i a s') := by
  cases action with
  | head method path headers =>
    simp only [step] at h
    cases routed : route method path with
    | ok endpoint =>
      rw [routed] at h
      cases h
      exact .inl ⟨endpoint, path, headers, by rw [arrival, routed]; rfl, rfl⟩
    | error status =>
      rw [routed] at h
      cases h
      exact .inr ⟨by rw [arrival, routed]; rfl, .inl rfl⟩
  | body i | disconnect i | handle i | panic i | record i =>
    simp only [step] at h
    cases found : s.attempts[i]? with
    | none =>
      rw [found] at h
      cases h
    | some a =>
      rw [found] at h
      exact .inr ⟨rfl, (turn_of_act rfl h).imp_right fun turn => ⟨i, a, found, turn⟩⟩

/-! ## The invariant -/

/-- Where an attempt is: its request as it was read, and its answer once it is handled. -/
structure Tracked (codecs : Codecs S A P) (failStatsFirstN : Nat)
    (arrived : Nat → List UInt8 → Prop) (counted : List Nat) (a : Attempt S A P) : Prop where
  read : ∀ captured, a.phase.captured? = some captured →
    ∃ body, arrived a.requestId body ∧ body.length ≤ MAX_BODY_SIZE ∧ captured = a.capture body
  fresh : a.phase.outcome? = none → a.requestId ∉ counted
  answered : ∀ captured outcome, a.phase.captured? = some captured →
    a.phase.outcome? = some outcome →
    Answered codecs failStatsFirstN counted a captured.body outcome

variable {arrived : Nat → List UInt8 → Prop}

theorem Tracked.grow {counted more : List Nat}
    (tracked : Tracked codecs failStatsFirstN arrived counted a) (other : a.requestId ∉ more) :
    Tracked codecs failStatsFirstN arrived (counted ++ more) a where
  read := tracked.read
  fresh := by
    intro early mem
    exact (List.mem_append.1 mem).elim (tracked.fresh early) other
  answered := by
    intro captured outcome read decided
    exact (tracked.answered captured outcome read decided).grow other

variable (codecs failStatsFirstN arrived) in
structure Inv (s : Intake S A P) : Prop where
  counter : s.requestCounter = s.attempts.length
  numbered : ∀ i a, s.attempts[i]? = some a → a.requestId = i + 1
  captured : s.captured = .ofAttempts s.attempts
  tracked : ∀ a ∈ s.attempts, Tracked codecs failStatsFirstN arrived s.counted a
  budget : s.counted.length = s.statsAttempts
  nodup : s.counted.Nodup
  known : ∀ requestId ∈ s.counted, requestId ≤ s.attempts.length

theorem Inv.sorted (inv : Inv codecs failStatsFirstN arrived s) :
    s.attempts.Pairwise fun b c => b.requestId < c.requestId := by
  rw [List.pairwise_iff_getElem]
  intro i j hi hj lt
  rw [inv.numbered i _ (List.getElem?_eq_getElem hi),
    inv.numbered j _ (List.getElem?_eq_getElem hj)]
  exact Nat.succ_lt_succ lt

theorem Inv.init : Inv codecs failStatsFirstN arrived ({} : Intake S A P) where
  counter := rfl
  numbered := by simp
  captured := rfl
  tracked := by simp
  budget := rfl
  nodup := .nil
  known := by simp

theorem Inv.arrive (inv : Inv codecs failStatsFirstN arrived s) (endpoint : Endpoint)
    (path : String) (headers : HeaderMap) :
    Inv codecs failStatsFirstN arrived (s.arrive endpoint path headers) where
  counter := by simp [Intake.arrive, inv.counter]
  numbered := by
    intro i a there
    rw [Intake.arrive, List.getElem?_append] at there
    split at there
    · exact inv.numbered i a there
    · rw [List.getElem?_singleton] at there
      split at there
      · cases there
        change s.requestCounter + 1 = i + 1
        have := inv.counter
        omega
      · cases there
  captured := by
    rw [Intake.arrive, inv.captured]
    simp [Captured.ofAttempts, Attempt.rawCapture, Attempt.payload]
  tracked := by
    intro a mem
    rcases List.mem_append.1 mem with old | new
    · exact inv.tracked a old
    · obtain rfl := List.mem_singleton.1 new
      refine ⟨nofun, ?_, nofun⟩
      intro _ mem
      have le : s.requestCounter + 1 ≤ s.attempts.length := inv.known _ mem
      have := inv.counter
      omega
  budget := inv.budget
  nodup := inv.nodup
  known := by
    intro requestId mem
    rw [Intake.arrive, List.length_append]
    exact (inv.known requestId mem).trans (Nat.le_add_right _ _)

/-- One attempt goes on, with the numbers it takes. -/
theorem Inv.replace (inv : Inv codecs failStatsFirstN arrived s) (found : s.attempts[i]? = some a)
    {phase : Phase S A P} (more : List Nat)
    (attempts : s'.attempts = s.attempts.set i { a with phase })
    (counter : s'.requestCounter = s.requestCounter)
    (captured : s'.captured = .ofAttempts (s.attempts.set i { a with phase }))
    (counted : s'.counted = s.counted ++ more)
    (budget : s'.statsAttempts = s.statsAttempts + more.length)
    (own : ∀ requestId ∈ more, requestId = a.requestId) (nodup : (s.counted ++ more).Nodup)
    (tracked : Tracked codecs failStatsFirstN arrived (s.counted ++ more) { a with phase }) :
    Inv codecs failStatsFirstN arrived s' := by
  obtain ⟨lt, -⟩ := List.getElem?_eq_some_iff.1 found
  have requestId := inv.numbered i a found
  refine ⟨?_, ?_, ?_, ?_, ?_, ?_, ?_⟩
  · rw [counter, attempts, List.length_set]
    exact inv.counter
  · intro j b there
    rw [attempts] at there
    by_cases same : i = j
    · subst same
      rw [List.getElem?_set_self lt] at there
      cases there
      exact requestId
    · rw [List.getElem?_set_ne same] at there
      exact inv.numbered j b there
  · rw [captured, attempts]
  · intro b mem
    obtain ⟨j, there⟩ := List.getElem?_of_mem mem
    rw [attempts] at there
    rw [counted]
    by_cases same : i = j
    · subst same
      rw [List.getElem?_set_self lt] at there
      cases there
      exact tracked
    · rw [List.getElem?_set_ne same] at there
      refine (inv.tracked b (List.mem_of_getElem? there)).grow ?_
      intro mem
      have := own _ mem
      rw [inv.numbered j b there, requestId] at this
      omega
  · rw [counted, budget, List.length_append, inv.budget]
  · rw [counted]
    exact nodup
  · rw [counted, attempts, List.length_set]
    intro id mem
    rcases List.mem_append.1 mem with old | new
    · exact inv.known id old
    · rw [own id new, requestId]
      exact lt

/-- An attempt that is not handled yet goes on and is not handled after it. -/
theorem Inv.setPhase (inv : Inv codecs failStatsFirstN arrived s) (found : s.attempts[i]? = some a)
    {phase : Phase S A P} (before : a.phase.outcome? = none) (after : phase.outcome? = none)
    (read : ∀ captured, phase.captured? = some captured → ∃ body, arrived a.requestId body ∧
      body.length ≤ MAX_BODY_SIZE ∧ captured = a.capture body) :
    Inv codecs failStatsFirstN arrived (s.setPhase i a phase) := by
  have unchanged := Captured.ofAttempts_set found phase
    (fun captured outcome eq => by simp [eq, Phase.outcome?] at before)
    (fun captured outcome eq => by simp [eq, Phase.outcome?] at after)
  have fresh := (inv.tracked a (List.mem_of_getElem? found)).fresh before
  refine inv.replace found [] rfl rfl ?_ (List.append_nil _).symm rfl (by simp) ?_ ?_
  · rw [unchanged]
    exact inv.captured
  · rw [List.append_nil]
    exact inv.nodup
  · rw [List.append_nil]
    refine ⟨read, fun _ => fresh, ?_⟩
    intro captured outcome _ decided
    rw [after] at decided
    cases decided

/-- A handler ends, with or without a number of the failure budget. -/
theorem Inv.settle (inv : Inv codecs failStatsFirstN arrived s) (found : s.attempts[i]? = some a)
    {captured : CapturedRequest} (phase : a.phase = .handling captured) {took : Bool}
    {outcome : Outcome S A P}
    (answered : a.requestId ∉ s.counted → Answered codecs failStatsFirstN
      (s.counted ++ .replicate took.toNat a.requestId) a captured.body outcome) :
    Inv codecs failStatsFirstN arrived
      (s.settle i a captured outcome (s.statsAttempts + took.toNat)) := by
  have tracked := inv.tracked a (List.mem_of_getElem? found)
  have fresh : a.requestId ∉ s.counted := tracked.fresh (by rw [phase]; rfl)
  have unchanged := Captured.ofAttempts_set found (.handled captured outcome)
    (fun captured outcome eq => by simp [eq] at phase) nofun
  refine inv.replace found (.replicate took.toNat a.requestId) rfl rfl ?_ ?_ ?_ ?_ ?_ ?_
  · rw [unchanged]
    exact inv.captured
  · rw [Intake.settle, Nat.add_sub_cancel_left]
  · rw [List.length_replicate]
    rfl
  · exact fun _ => List.eq_of_mem_replicate
  · cases took with
    | true => exact List.concat_eq_append ▸ inv.nodup.concat fresh
    | false => simpa using inv.nodup
  · refine ⟨?_, nofun, ?_⟩
    · rintro _ ⟨⟩
      exact tracked.read captured (by rw [phase]; rfl)
    · rintro _ _ ⟨⟩ ⟨⟩
      exact (answered fresh).atPhase _

theorem Inv.record (inv : Inv codecs failStatsFirstN arrived s) (found : s.attempts[i]? = some a)
    {captured : CapturedRequest} {outcome : Outcome S A P}
    (phase : a.phase = .handled captured outcome) :
    Inv codecs failStatsFirstN arrived { s.setPhase i a (.recorded captured outcome) with
      captured := s.captured.record a.requestId captured outcome.accepted } := by
  have tracked := inv.tracked a (List.mem_of_getElem? found)
  refine inv.replace found [] rfl rfl ?_ (List.append_nil _).symm rfl (by simp) ?_ ?_
  · rw [Captured.ofAttempts_record inv.sorted found phase, inv.captured]
  · rw [List.append_nil]
    exact inv.nodup
  · rw [List.append_nil]
    refine ⟨?_, nofun, ?_⟩
    · rintro _ ⟨⟩
      exact tracked.read captured (by rw [phase]; rfl)
    · rintro _ _ ⟨⟩ ⟨⟩
      have answered := tracked.answered captured outcome (by rw [phase]; rfl) (by rw [phase]; rfl)
      exact answered.atPhase _

theorem Inv.turn (inv : Inv codecs failStatsFirstN arrived s) (found : s.attempts[i]? = some a)
    (turn : Turn codecs failStatsFirstN action s i a s')
    (arrives : ∀ i body, action = .body i (.ok body) → arrived (i + 1) body) :
    Inv codecs failStatsFirstN arrived s' := by
  cases turn with
  | read phase eq bounded =>
    refine inv.setPhase found (by rw [phase]; rfl) rfl ?_
    rintro _ ⟨⟩
    exact ⟨_, inv.numbered i a found ▸ arrives i _ eq, bounded, rfl⟩
  | reject phase => exact inv.setPhase found (by rw [phase]; rfl) rfl nofun
  | abandon phase => exact inv.setPhase found (by rw [phase]; rfl) rfl nofun
  | handle phase eq =>
    subst eq
    rw [handleEndpoint_snd]
    refine inv.settle found phase fun fresh => ?_
    exact answered_handle fresh (inv.budget ▸ rfl)
  | panic phase may => exact inv.settle found phase fun fresh => answered_panic fresh may
  | record phase => exact inv.record found phase

theorem Inv.step (inv : Inv codecs failStatsFirstN arrived s)
    (arrives : ∀ i body, action = .body i (.ok body) → arrived (i + 1) body)
    (h : step codecs failStatsFirstN s action = some s') :
    Inv codecs failStatsFirstN arrived s' := by
  rcases step_cases h with ⟨endpoint, path, headers, -, rfl⟩ | ⟨-, rfl | ⟨i, a, found, turn⟩⟩
  · exact inv.arrive endpoint path headers
  · exact inv
  · exact inv.turn found turn arrives

/-! ## Runs -/

theorem Inv.exec {actions : List IntakeAction} (inv : Inv codecs failStatsFirstN arrived s)
    (arrives : ∀ action ∈ actions, ∀ i body, action = .body i (.ok body) → arrived (i + 1) body)
    (run : Runs.exec (Intake.step codecs failStatsFirstN) s actions = some s') :
    Inv codecs failStatsFirstN arrived s' :=
  Runs.invariant_along (fun _ _ _ inv arrives h => inv.step arrives h) inv
    (Runs.along_of_forall arrives s) run

theorem Turn.head_eq (found : s.attempts[i]? = some a)
    (turn : Turn codecs failStatsFirstN action s i a s') :
    s'.attempts.map Attempt.head = s.attempts.map Attempt.head := by
  have set (phase : Phase S A P) :
      (s.attempts.set i { a with phase }).map Attempt.head = s.attempts.map Attempt.head := by
    have same : some ({ a with phase } : Attempt S A P).head = some a.head := rfl
    simpa using SortedInsert.filterMap_set found (g := fun b => some b.head) same
  cases turn <;> exact set _

theorem head_of_exec {actions : List IntakeAction}
    (run : Runs.exec (step codecs failStatsFirstN) s actions = some s') :
    s'.attempts.map Attempt.head = s.attempts.map Attempt.head ++ actions.filterMap arrival := by
  induction actions generalizing s with
  | nil =>
    cases run
    exact (List.append_nil _).symm
  | cons action rest ih =>
    obtain ⟨next, h, run⟩ := Runs.exec_cons_eq_some.1 run
    rw [ih run]
    rcases step_cases h with ⟨endpoint, path, headers, arrives, rfl⟩ |
      ⟨none_, rfl | ⟨i, a, found, turn⟩⟩
    · rw [List.filterMap_cons_some arrives]
      simp [Intake.arrive, Attempt.head]
    · rw [List.filterMap_cons_none none_]
    · rw [List.filterMap_cons_none none_, turn.head_eq found]

theorem getElem?_set_of_found (found : s.attempts[i]? = some a) (b : Attempt S A P) :
    (s.attempts.set i b)[i]? = some b :=
  List.getElem?_set_self (List.getElem?_eq_some_iff.1 found).1

theorem exists_step_body (found : s.attempts[i]? = some a) (phase : a.phase = .reading)
    {body : List UInt8} (bounded : body.length ≤ MAX_BODY_SIZE) :
    ∃ s', step codecs failStatsFirstN s (.body i (.ok body)) = some s' ∧
      s'.attempts[i]? = some { a with phase := .handling (a.capture body) } := by
  have collected : collect (.ok body) = .ok body := if_neg (Nat.not_lt.2 bounded)
  refine ⟨s.setPhase i a (.handling (a.capture body)), ?_, getElem?_set_of_found found _⟩
  simp only [step, found, act, phase, collected]

theorem exists_step_handle (found : s.attempts[i]? = some a) {captured : CapturedRequest}
    (phase : a.phase = .handling captured) :
    ∃ s' outcome, step codecs failStatsFirstN s (.handle i) = some s' ∧
      s'.attempts[i]? = some { a with phase := .handled captured outcome } := by
  simp only [step, found, act, phase]
  exact ⟨_, _, rfl, getElem?_set_of_found found _⟩

theorem exists_step_record (found : s.attempts[i]? = some a) {captured : CapturedRequest}
    {outcome : Outcome S A P} (phase : a.phase = .handled captured outcome) :
    ∃ s', step codecs failStatsFirstN s (.record i) = some s' ∧
      s'.attempts[i]? = some { a with phase := .recorded captured outcome } := by
  simp only [step, found, act, phase]
  exact ⟨_, rfl, getElem?_set_of_found found _⟩

/-- No other request holds back one that is read: it can be handled and recorded at once. -/
theorem Inv.captured_of_read (inv : Inv codecs failStatsFirstN arrived s)
    (found : s.attempts[i]? = some a) (reading : a.phase = .reading) {body : List UInt8}
    (bounded : body.length ≤ MAX_BODY_SIZE) (arrives : arrived (i + 1) body) :
    ∃ s', Runs.exec (Intake.step codecs failStatsFirstN) s
        [.body i (.ok body), .handle i, .record i] = some s' ∧
      (a.requestId, a.capture body) ∈ s'.captured.requests := by
  obtain ⟨s₁, read, found₁⟩ := exists_step_body found reading bounded
  obtain ⟨s₂, outcome, handle, found₂⟩ := exists_step_handle found₁ rfl
  obtain ⟨s₃, record, found₃⟩ := exists_step_record found₂ rfl
  have run : Runs.exec (Intake.step codecs failStatsFirstN) s
      [.body i (.ok body), .handle i, .record i] = some s₃ := by
    rw [Runs.exec, read, Option.bind_some, Runs.exec, handle, Option.bind_some, Runs.exec, record]
    rfl
  refine ⟨s₃, run, ?_⟩
  have inv₃ : Inv codecs failStatsFirstN arrived s₃ := by
    refine inv.exec ?_ run
    intro action mem j bytes eq
    simp only [List.mem_cons, List.not_mem_nil, or_false] at mem
    rcases mem with rfl | rfl | rfl <;> cases eq
    exact arrives
  rw [inv₃.captured]
  exact List.mem_filterMap.2 ⟨_, List.mem_of_getElem? found₃, rfl⟩

/-- What readers see of one path: the completed attempts to it, by their arrival. -/
theorem Inv.requestsForPath (inv : Inv codecs failStatsFirstN arrived s) (path : String) :
    s.captured.requestsForPath path =
      ((s.attempts.filter fun a => a.path = path).filterMap Attempt.rawCapture).map (·.2) := by
  rw [Captured.requestsForPath, inv.captured, Captured.ofAttempts, List.filter_filterMap,
    List.filterMap_filter]
  congr 1
  apply List.filterMap_congr
  intro a mem
  cases raw : a.rawCapture with
  | none => simp
  | some entry =>
    unfold Attempt.rawCapture at raw
    split at raw
    · rename_i captured outcome phase
      cases raw
      obtain ⟨body, -, -, rfl⟩ := (inv.tracked a mem).read captured (by rw [phase]; rfl)
      by_cases here : a.path = path <;> simp [Option.filter, Attempt.capture, here]
    · cases raw

/-- What readers see of the payloads: those of the completed attempts, by their arrival. -/
theorem Inv.payloads (inv : Inv codecs failStatsFirstN arrived s) :
    s.captured.statsPayloads = s.attempts.filterMap (Attempt.acceptedPayload Accepted.stats?) ∧
      s.captured.tracePayloads =
        s.attempts.filterMap (Attempt.acceptedPayload Accepted.traces?) ∧
      s.captured.pipelineStatsPayloads =
        s.attempts.filterMap (Attempt.acceptedPayload Accepted.pipelineStats?) := by
  rw [inv.captured]
  exact ⟨items_filterMap_payload _ _, items_filterMap_payload _ _, items_filterMap_payload _ _⟩

/-- The body of the request has arrived. -/
def Delivered (actions : List IntakeAction) (requestId : Nat) (body : List UInt8) : Prop :=
  ∃ i, requestId = i + 1 ∧ .body i (.ok body) ∈ actions

variable (codecs failStatsFirstN) in
/-- The captures and the failure budget after these actions. -/
structure InArrivalOrder (actions : List IntakeAction) (s : Intake S A P) : Prop where
  /-- The attempts are the POSTs to supported endpoints. -/
  arrived : s.attempts.map Attempt.head = actions.filterMap arrival
  numbered : s.attempts.map (·.requestId) = List.range' 1 s.attempts.length
  /-- Each list has the entries of the completed attempts and no others, in their order. -/
  captured : s.captured = .ofAttempts s.attempts
  sorted : (s.captured.requests.map (·.1)).Pairwise (· < ·)
  statsBeside : (s.captured.stats.map (·.1)).Sublist (s.captured.requests.map (·.1))
  tracesBeside : (s.captured.traces.map (·.1)).Sublist (s.captured.requests.map (·.1))
  pipelineStatsBeside : (s.captured.pipelineStats.map (·.1)).Sublist (s.captured.requests.map (·.1))
  /-- The request that is recorded is the one that was read. -/
  read : ∀ a ∈ s.attempts, ∀ captured, a.phase.captured? = some captured →
    ∃ body, Delivered actions a.requestId body ∧ body.length ≤ MAX_BODY_SIZE ∧
      captured = a.capture body
  /-- Header values that are text are recorded as they are. -/
  texts : ∀ a ∈ s.attempts, ∀ captured, a.phase.captured? = some captured →
    ∀ texts : List (String × String),
      a.headers = texts.map (fun (k, v) => (k, Utf8.encode v.toList)) → captured.headers = texts
  /-- No other request holds back one that is read: it can be handled and recorded at once. -/
  unhindered : ∀ i a, s.attempts[i]? = some a → a.phase = .reading →
    ∀ body : List UInt8, body.length ≤ MAX_BODY_SIZE →
      ∃ s', Runs.exec (step codecs failStatsFirstN) s
          [.body i (.ok body), .handle i, .record i] = some s' ∧
        (a.requestId, a.capture body) ∈ s'.captured.requests
  /-- An accepted payload is what the body decodes to at its endpoint. -/
  accepted : ∀ a ∈ s.attempts, ∀ captured outcome payload, a.phase.captured? = some captured →
    a.phase.outcome? = some outcome → outcome.accepted = some payload →
    outcome.status = .accepted ∧ payload.endpoint = a.endpoint ∧
      decoded codecs a.endpoint a.headers captured.body = some payload
  /-- No attempt takes two numbers. -/
  nodup : s.counted.Nodup
  counted : s.counted.length = s.statsAttempts
  first : (s.counted.take failStatsFirstN).length = min failStatsFirstN s.statsAttempts
  /-- The first ones are rejected by injection, all others are answered as without it. -/
  answered : ∀ a ∈ s.attempts, ∀ captured outcome, a.phase.captured? = some captured →
    a.phase.outcome? = some outcome →
    Answered codecs failStatsFirstN s.counted a captured.body outcome

variable {actions : List IntakeAction}

/-- The captures are the completed attempts and their accepted payloads, by the arrival of the
requests, and the first stats attempts that reach decoding are the ones rejected by injection. -/
theorem captures_in_arrival_order
    (run : Runs.exec (step codecs failStatsFirstN) {} actions = some s) :
    InArrivalOrder codecs failStatsFirstN actions s := by
  have inv : Inv codecs failStatsFirstN (Delivered actions) s := by
    refine Inv.init.exec ?_ run
    rintro action mem i body rfl
    exact ⟨i, rfl, mem⟩
  have numbered : s.attempts.map (·.requestId) = List.range' 1 s.attempts.length := by
    apply List.ext_getElem
    · rw [List.length_map, List.length_range']
    · intro i hi _
      rw [List.length_map] at hi
      rw [List.getElem_map, List.getElem_range', inv.numbered i _ (List.getElem?_eq_getElem hi)]
      omega
  have raw : s.captured.requests = s.attempts.filterMap Attempt.rawCapture :=
    congrArg Captured.requests inv.captured
  have beside {T : Type} (kind : Accepted S A P → Option T) :=
    SortedInsert.keys_sublist (l := s.attempts)
      fun a _ entry (eq : a.payload kind = some entry) => Attempt.rawCapture_of_payload eq
  have answered (a : Attempt S A P) (mem : a ∈ s.attempts) := (inv.tracked a mem).answered
  refine
    { arrived := head_of_exec run
      numbered
      captured := inv.captured
      sorted := ?_
      statsBeside := ?_
      tracesBeside := ?_
      pipelineStatsBeside := ?_
      read := fun a mem => (inv.tracked a mem).read
      texts := ?_
      unhindered := ?_
      accepted := ?_
      nodup := inv.nodup
      counted := inv.budget
      first := ?_
      answered }
  · have ids := SortedInsert.keys_sublist_map (l := s.attempts)
      fun a _ _ => Attempt.rawCapture_fst (a := a)
    rw [numbered, ← raw] at ids
    exact List.Pairwise.sublist ids (List.pairwise_lt_range' ..)
  · rw [raw, inv.captured]
    exact beside _
  · rw [raw, inv.captured]
    exact beside _
  · rw [raw, inv.captured]
    exact beside _
  · intro a mem captured read texts text
    obtain ⟨body, -, -, rfl⟩ := (inv.tracked a mem).read captured read
    exact Attempt.capture_headers_of_text text body
  · intro i a found reading body bounded
    have any : Inv codecs failStatsFirstN (fun _ _ => True) s :=
      Inv.init.exec (fun _ _ _ _ _ => trivial) run
    exact any.captured_of_read found reading bounded trivial
  · intro a mem captured outcome payload read decided accepted
    exact (answered a mem captured outcome read decided).of_accepted accepted
  · rw [List.length_take, inv.budget]

/-- Decoders that know a stats payload without entries and an empty trace payload. -/
def emptyPayloads : Codecs Unit Unit Unit where
  gzDecoder _ := { bytes := [], error := some "invalid gzip header" }
  zstdDecoder _ := .ok { bytes := [], error := some "Unknown frame descriptor" }
  statsFromSlice d :=
    if d = [0x81, 0xA5, 0x53, 0x74, 0x61, 0x74, 0x73, 0x90] then .ok () else .error "missing field"
  agentPayloadDecode d := if d = [] then .ok () else .error "invalid wire type"
  pipelineStatsFromSlice d := if d = [0x80] then .ok () else .error "missing field"

/-- Of two stats requests the second is handled first, and rejected; it is recorded last. -/
def overtaken : List IntakeAction :=
  let body : Except String (List UInt8) := .ok [0x81, 0xA5, 0x53, 0x74, 0x61, 0x74, 0x73, 0x90]
  [.head "POST" "/api/v0.2/stats" [], .head "GET" "/api/v0.2/stats" [],
    .head "POST" "/api/v0.2/traces" [], .head "POST" "/api/v0.2/stats" [],
    .head "POST" "/api/v0.1/pipeline_stats" [], .body 2 body, .handle 2, .body 0 body, .handle 0,
    .record 0, .disconnect 3, .body 1 (.ok []), .handle 1, .record 1, .record 2]

theorem captures_in_arrival_order_overtaken : ∃ s,
    Runs.exec (step emptyPayloads 1) {} overtaken = some s ∧
      s.captured.requests.map (·.1) = [1, 2, 3] ∧ s.captured.stats = [(1, ())] ∧
      s.captured.traces = [(2, ())] ∧ s.counted = [3, 1] ∧
      InArrivalOrder emptyPayloads 1 overtaken s :=
  ⟨_, rfl, rfl, rfl, rfl, rfl, captures_in_arrival_order rfl⟩

end Intake

end ServerlessComponents.MockIntake
