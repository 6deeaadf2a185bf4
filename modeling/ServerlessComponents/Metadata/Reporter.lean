import Mathlib.Data.List.Range
import Mathlib.Tactic.IntervalCases
import ServerlessComponents.Metadata.Platform

/-!
# The metadata reporter

`reporter.rs` and `payload.rs`: a report is sent at startup and every 30 minutes afterward, each in
up to three attempts. A report is built once and read again from the environment and the clock the
next time; the identity of the workload and of the process stay.

Times are in nanoseconds. A timer never fires early; how late it fires, what the intake answers and
after how long is not the reporter's to say. The serializer and the ticks that `interval` skips are
other packages'; they are parameters.

## Main results

* `reports_sent` — what every report sends, and how often.
* `reports_on_schedule` — the timer does not drift, and no report is left out.
-/
namespace ServerlessComponents.Metadata

open AgentConfig (Value HashMap trim)

/-! ## Payload -/

structure Payload where
  uuid : String
  timestamp : Int
  agentMetadata : HashMap Value

/-- The fields that take precedence over those of the platform. -/
def requiredFields (platform : PlatformData) (reportReason ddSite : String) (environ : Environ)
    (embeddedVersion : Option String) : List (String × String) :=
  [("flavor", "serverless-compat"), ("workload_type", platform.workloadType),
    ("report_reason", reportReason), ("resource_id", platform.resourceId),
    ("resource_name", platform.resourceName)] ++
  (((getVar environ "DD_SERVERLESS_COMPAT_VERSION").filter (· ≠ "")).map
    ("serverless_compat_runtime_version", ·)).toList ++
  (((embeddedVersion.map trim).filter (· ≠ "")).map
    ("serverless_compat_binary_version", ·)).toList ++
  [("dd_site", ddSite)] ++
  [("DD_ENV", "dd_env"), ("DD_SERVICE", "dd_service"), ("DD_VERSION", "dd_version")].filterMap
    fun (envKey, metadataKey) =>
      ((getVar environ envKey).filter (· ≠ "")).map (metadataKey, ·)

def agentMetadata (platform : PlatformData) (fields : List (String × String)) : HashMap Value :=
  fields.foldl (fun metadata (field, value) => metadata.insert field (.string value))
    platform.metadata

/-- Nanoseconds since the epoch, as an `i64`; zero for a clock before it. -/
def timestamp (clock : Option Nat) : Int :=
  match clock with
  | some nanos => (nanos : Int).bmod (2 ^ 64)
  | none => 0

def buildPayload (processId reportReason : String) (platform : PlatformData) (ddSite : String)
    (environ : Environ) (embeddedVersion : Option String) (clock : Option Nat) : Payload where
  uuid := processId
  timestamp := timestamp clock
  agentMetadata :=
    agentMetadata platform (requiredFields platform reportReason ddSite environ embeddedVersion)

/-! ## Attempts -/

def SECOND : Nat := 1000000000

def METADATA_INTERVAL : Nat := 30 * 60 * SECOND

def MAX_ATTEMPTS : Nat := 3

def shouldRetryStatus (status : Nat) : Bool := status = 429 || (500 ≤ status && status ≤ 599)

def retryBackoff (attempt : Nat) : Nat := (1 <<< attempt) * SECOND

/-- A status or a transport error, after some time. -/
structure Answer where
  outcome : Except String Nat
  elapsed : Nat

/-- What follows an answer. -/
inductive Verdict where
  | sent
  | retry (backoff : Nat)
  | rejected
  | givenUp
  deriving DecidableEq, Repr

def judge (attempt : Nat) : Except String Nat → Verdict
  | .ok status =>
    if status < 300 then .sent
    else if shouldRetryStatus status && attempt + 1 < MAX_ATTEMPTS then
      .retry (retryBackoff attempt)
    else .rejected
  | .error _ => if attempt + 1 < MAX_ATTEMPTS then .retry (retryBackoff attempt) else .givenUp

structure Request where
  url : String
  apiKey : String
  userAgent : String
  body : List UInt8
  deriving DecidableEq, Repr

/-- What a report meets: the environment and the clock it reads, the answers to its attempts and how
late it wakes up after each of them. -/
structure Surroundings where
  environ : Environ
  clock : Option Nat
  answer : Nat → Answer
  late : Nat → Nat

/-- What became of a report: its requests with their times, and when it was over. -/
structure Report where
  reason : String
  start : Nat
  sends : List (Nat × Request)
  finish : Nat

/-- The attempts from a number on, with those that are left. -/
def attempts (w : Surroundings) (request : Request) :
    (left attempt now : Nat) → List (Nat × Request) × Nat
  | 0, _, now => ([], now)
  | left + 1, attempt, now =>
    let answered := now + (w.answer attempt).elapsed
    match judge attempt (w.answer attempt).outcome with
    | .retry backoff =>
      let later := attempts w request left (attempt + 1) (answered + backoff + w.late attempt)
      ((now, request) :: later.1, later.2)
    | .sent | .rejected | .givenUp => ([(now, request)], answered)

structure Reporter where
  apiKey : String
  ddSite : String
  intakeUrl : String
  userAgent : String
  platform : PlatformData
  processId : String
  embeddedVersion : Option String

section Reports

variable (self : Reporter) (toVec : Payload → Except String (List UInt8))

def Reporter.payload (reason : String) (w : Surroundings) : Payload :=
  buildPayload self.processId reason self.platform self.ddSite w.environ self.embeddedVersion
    w.clock

def Reporter.request (body : List UInt8) : Request where
  url := self.intakeUrl
  apiKey := self.apiKey
  userAgent := self.userAgent
  body := body

def Reporter.sendReport (w : Surroundings) (reason : String) (now : Nat) : Report :=
  match toVec (self.payload reason w) with
  | .error _ => { reason, start := now, sends := [], finish := now }
  | .ok body =>
    let sent := attempts w (self.request body) MAX_ATTEMPTS 0 now
    { reason, start := now, sends := sent.1, finish := sent.2 }

/-! ## Ticks -/

/-- The deadline after a tick, from the deadline of the tick and the time it was taken. -/
abbrev NextTick := Nat → Nat → Nat

/-- `MissedTickBehavior::Skip`: the next deadline is the first one, counted in periods, that has not
passed. -/
structure Skips (nextTick : NextTick) (period : Nat) : Prop where
  aligned : ∀ deadline now, deadline ≤ now → ∃ n, nextTick deadline now = deadline + n * period
  ahead : ∀ deadline now, deadline ≤ now → now < nextTick deadline now
  first : ∀ deadline now, deadline ≤ now → nextTick deadline now ≤ now + period

variable (nextTick : NextTick) (w : Nat → Surroundings) (late : Nat → Nat)

/-- The reports of the loop from a number on. -/
def Reporter.periodic : (count number deadline now : Nat) → List Report
  | 0, _, _, _ => []
  | count + 1, number, deadline, now =>
    let woken := max now deadline + late number
    let report := self.sendReport toVec (w number) "periodic" woken
    report :: Reporter.periodic count (number + 1) (nextTick deadline woken) report.finish

/-- `run_metadata_reporter` from the first report on, up to some number of periodic reports. -/
def Reporter.run (count now : Nat) : List Report :=
  let startup := self.sendReport toVec (w 0) "startup" now
  let created := startup.finish
  -- the first tick is immediate
  let woken := created + late 0
  startup :: self.periodic toVec nextTick w late count 1 (nextTick created woken) woken

end Reports

/-! ## One report -/

/-- The answers that are not the last word. -/
def Retryable (answer : Answer) : Prop :=
  match answer.outcome with
  | .ok status => shouldRetryStatus status = true
  | .error _ => True

theorem judge_retry_iff {attempt backoff : Nat} {answer : Answer} :
    judge attempt answer.outcome = .retry backoff ↔
      Retryable answer ∧ attempt + 1 < MAX_ATTEMPTS ∧ backoff = retryBackoff attempt := by
  unfold judge Retryable
  cases answer.outcome with
  | error e =>
    by_cases more : attempt + 1 < MAX_ATTEMPTS <;> simp [more, eq_comm]
  | ok status =>
    by_cases low : status < 300
    · have settled : shouldRetryStatus status = false := by
        simp only [shouldRetryStatus, Bool.or_eq_false_iff, Bool.and_eq_false_iff,
          decide_eq_false_iff_not]
        omega
      simp [low, settled]
    · by_cases more : attempt + 1 < MAX_ATTEMPTS <;>
        cases retry : shouldRetryStatus status <;> simp [low, more, retry, eq_comm]

/-- When an attempt is made, counted from the first. -/
def attemptTime (w : Surroundings) (start : Nat) : Nat → Nat
  | 0 => start
  | attempt + 1 =>
    attemptTime w start attempt + (w.answer attempt).elapsed + retryBackoff attempt + w.late attempt

/-- The requests of a report that makes some number of attempts: one more as long as the answers can
be retried and attempts are left. -/
structure Attempted (w : Surroundings) (request : Request) (start : Nat)
    (sends : List (Nat × Request)) (finish count : Nat) : Prop where
  pos : 0 < count
  le : count ≤ MAX_ATTEMPTS
  sends : sends = (List.range count).map fun i => (attemptTime w start i, request)
  retried : ∀ i, i + 1 < count → Retryable (w.answer i)
  settled : count < MAX_ATTEMPTS → ¬ Retryable (w.answer (count - 1))
  finish : finish = attemptTime w start (count - 1) + (w.answer (count - 1)).elapsed

/-- The attempt is the last one. -/
theorem Attempted.stop {w : Surroundings} {request : Request} {start attempt : Nat}
    (lt : attempt < MAX_ATTEMPTS) (before : ∀ i < attempt, Retryable (w.answer i))
    (final : ∀ backoff, judge attempt (w.answer attempt).outcome ≠ .retry backoff) :
    Attempted w request start
      ((List.range attempt).map (fun i => (attemptTime w start i, request)) ++
        [(attemptTime w start attempt, request)])
      (attemptTime w start attempt + (w.answer attempt).elapsed) (attempt + 1) where
  pos := by omega
  le := lt
  sends := by simp [List.range_succ]
  retried i h := before i (by omega)
  settled more retryable := final _ (judge_retry_iff.2 ⟨retryable, more, rfl⟩)
  finish := rfl

theorem attempts_succ (w : Surroundings) (request : Request) (left attempt now : Nat) :
    attempts w request (left + 1) attempt now =
      let answered := now + (w.answer attempt).elapsed
      match judge attempt (w.answer attempt).outcome with
      | .retry backoff =>
        let later := attempts w request left (attempt + 1) (answered + backoff + w.late attempt)
        ((now, request) :: later.1, later.2)
      | .sent | .rejected | .givenUp => ([(now, request)], answered) :=
  rfl

theorem attempts_spec (w : Surroundings) (request : Request) (start : Nat) {left attempt : Nat}
    (total : left + 1 + attempt = MAX_ATTEMPTS) (before : ∀ i < attempt, Retryable (w.answer i)) :
    let rest := attempts w request (left + 1) attempt (attemptTime w start attempt)
    ∃ count, Attempted w request start
      ((List.range attempt).map (fun i => (attemptTime w start i, request)) ++ rest.1) rest.2
      count := by
  induction left generalizing attempt with
  | zero =>
    have final (backoff : Nat) : judge attempt (w.answer attempt).outcome ≠ .retry backoff := by
      intro retry
      have more := (judge_retry_iff.1 retry).2.1
      omega
    refine ⟨attempt + 1, ?_⟩
    simp only [attempts]
    split
    next backoff retry => exact absurd retry (final backoff)
    all_goals exact .stop (by omega) before final
  | succ left ih =>
    simp only [attempts_succ w request (left + 1)]
    split
    next backoff retry =>
      obtain ⟨retryable, -, rfl⟩ := judge_retry_iff.1 retry
      obtain ⟨count, later⟩ := @ih (attempt + 1) (by omega) (by
        intro i lt
        rcases Nat.lt_succ_iff_lt_or_eq.1 lt with earlier | rfl
        · exact before i earlier
        · exact retryable)
      refine ⟨count, ?_⟩
      simpa [List.range_succ, attemptTime] using later
    all_goals
      next verdict =>
        exact ⟨attempt + 1, .stop (by omega) before (by simp [verdict])⟩

/-! ## Every report -/

/-- What the fields of one name become when they are inserted one after the other. -/
theorem lookup_agentMetadata (platform : PlatformData) {fields : List (String × String)}
    (distinct : (fields.map (·.1)).Nodup) (field : String) :
    (agentMetadata platform fields).lookup field =
      ((fields.lookup field).map Value.string).or (platform.metadata.lookup field) := by
  unfold agentMetadata
  generalize platform.metadata = metadata
  induction fields generalizing metadata with
  | nil => simp
  | cons entry later ih =>
    obtain ⟨name, value⟩ := entry
    obtain ⟨new, distinct⟩ := List.nodup_cons.1 distinct
    rw [List.foldl_cons, ih distinct]
    by_cases same : field = name
    · subst same
      have absent : later.lookup field = none := by
        refine List.lookup_eq_none_iff.2 ?_
        rintro ⟨name, value⟩ mem
        refine bne_iff_ne.2 ?_
        rintro rfl
        exact new (List.mem_map.2 ⟨_, mem, rfl⟩)
      simp [absent, AList.lookup_insert]
    · have differ : (field == name) = false := by simpa using same
      simp [List.lookup_cons, differ, AList.lookup_insert_ne same]

theorem sublist_names (value : String → Option String) (names : List (String × String)) :
    ((names.filterMap fun (key, field) => (value key).map (field, ·)).map (·.1)).Sublist
      (names.map (·.2)) := by
  induction names with
  | nil => simp
  | cons entry later ih =>
    obtain ⟨key, field⟩ := entry
    cases present : value key with
    | none => simpa [present] using ih.cons field
    | some v => simpa [present] using ih

theorem nodup_requiredFields (platform : PlatformData) (reportReason ddSite : String)
    (environ : Environ) (embeddedVersion : Option String) :
    ((requiredFields platform reportReason ddSite environ embeddedVersion).map (·.1)).Nodup := by
  have optional (name : String) (value : Option String) :
      ((value.map (name, ·)).toList.map (·.1)).Sublist [name] := by
    cases value <;> simp
  have names := ((((List.Sublist.refl ["flavor", "workload_type", "report_reason", "resource_id",
    "resource_name"]).append (optional "serverless_compat_runtime_version"
      ((getVar environ "DD_SERVERLESS_COMPAT_VERSION").filter (· ≠ "")))).append
    (optional "serverless_compat_binary_version"
      ((embeddedVersion.map trim).filter (· ≠ "")))).append (List.Sublist.refl ["dd_site"])).append
    (sublist_names (fun key => (getVar environ key).filter (· ≠ ""))
      [("DD_ENV", "dd_env"), ("DD_SERVICE", "dd_service"), ("DD_VERSION", "dd_version")])
  have distinct := List.Nodup.sublist names (by decide)
  simp only [requiredFields, List.map_append]
  exact distinct

/-- What a report sends: the payload of its surroundings, in up to three attempts; nothing if the
payload cannot be serialized. -/
structure Reporter.Sends (sender : Reporter) (toVec : Payload → Except String (List UInt8))
    (w : Surroundings) (report : Report) : Prop where
  attempted : ∀ body, toVec (sender.payload report.reason w) = .ok body →
    ∃ count, Attempted w (sender.request body) report.start report.sends report.finish count
  silent : ∀ e, toVec (sender.payload report.reason w) = .error e →
    report.sends = [] ∧ report.finish = report.start

section Reports

variable {self : Reporter} {toVec : Payload → Except String (List UInt8)}

theorem sendReport_reason (w : Surroundings) (reason : String) (now : Nat) :
    (self.sendReport toVec w reason now).reason = reason := by
  unfold Reporter.sendReport
  split <;> rfl

theorem sendReport_start (w : Surroundings) (reason : String) (now : Nat) :
    (self.sendReport toVec w reason now).start = now := by
  unfold Reporter.sendReport
  split <;> rfl

theorem sendReport_sends (w : Surroundings) (reason : String) (now : Nat) :
    self.Sends toVec w (self.sendReport toVec w reason now) := by
  unfold Reporter.sendReport
  split
  next e failed =>
    refine ⟨?_, fun _ _ => ⟨rfl, rfl⟩⟩
    intro body ok
    cases failed.symm.trans ok
  next body built =>
    refine ⟨?_, ?_⟩
    · intro other ok
      obtain rfl : body = other := Except.ok.inj (built.symm.trans ok)
      obtain ⟨count, attempted⟩ := attempts_spec w (self.request body) now
        (show 2 + 1 + 0 = MAX_ATTEMPTS from rfl) nofun
      exact ⟨count, attempted⟩
    · intro e failed
      cases built.symm.trans failed

variable {nextTick : NextTick} {w : Nat → Surroundings} {late : Nat → Nat}

theorem length_periodic {count number deadline now : Nat} :
    (self.periodic toVec nextTick w late count number deadline now).length = count := by
  induction count generalizing number deadline now with
  | zero => rfl
  | succ count ih => simp [Reporter.periodic, ih]

/-- Every report of the loop is periodic and is sent in its own surroundings. -/
theorem periodic_sends {count number deadline now i : Nat} {report : Report}
    (at_ : (self.periodic toVec nextTick w late count number deadline now)[i]? = some report) :
    report.reason = "periodic" ∧ self.Sends toVec (w (number + i)) report := by
  induction count generalizing number deadline now i with
  | zero => simp [Reporter.periodic] at at_
  | succ count ih =>
    cases i with
    | zero =>
      simp only [Reporter.periodic, List.getElem?_cons_zero, Option.some.injEq] at at_
      subst at_
      exact ⟨sendReport_reason .., sendReport_sends ..⟩
    | succ i =>
      simp only [Reporter.periodic, List.getElem?_cons_succ] at at_
      have later := ih at_
      rwa [show number + 1 + i = number + (i + 1) by omega] at later

/-- For every environment, clock, answer and delay: the first report is the one of the startup and
all others are periodic; each makes its attempts one after the other, up to three, with one body and
with growing pauses, and stops at the first answer that is not to be retried; and the payload tells
the process and its identity, where the platform's own fields yield and no other is lost. -/
theorem reports_sent (self : Reporter) (toVec : Payload → Except String (List UInt8))
    (nextTick : NextTick) (w : Nat → Surroundings) (late : Nat → Nat) (count now : Nat) :
    (self.run toVec nextTick w late count now).length = count + 1 ∧
      ∀ i report, (self.run toVec nextTick w late count now)[i]? = some report →
        report.reason = (if i = 0 then "startup" else "periodic") ∧
        self.Sends toVec (w i) report ∧
        (self.payload report.reason (w i)).uuid = self.processId ∧
        ∀ field, (self.payload report.reason (w i)).agentMetadata.lookup field =
          (((requiredFields self.platform report.reason self.ddSite (w i).environ
            self.embeddedVersion).lookup field).map Value.string).or
              (self.platform.metadata.lookup field) := by
  refine ⟨by simp [Reporter.run, length_periodic], ?_⟩
  intro i report at_
  have sent : report.reason = (if i = 0 then "startup" else "periodic") ∧
      self.Sends toVec (w i) report := by
    cases i with
    | zero =>
      simp only [Reporter.run, List.getElem?_cons_zero, Option.some.injEq] at at_
      subst at_
      exact ⟨sendReport_reason .., sendReport_sends ..⟩
    | succ i =>
      simp only [Reporter.run, List.getElem?_cons_succ] at at_
      have later := periodic_sends at_
      rwa [Nat.add_comm 1 i] at later
  exact ⟨sent.1, sent.2, rfl, lookup_agentMetadata _ (nodup_requiredFields ..)⟩

/-! ## The schedule -/

/-- The client gives up on an attempt after this time. -/
def TIMEOUT : Nat := 10 * SECOND

/-- The client keeps its timeout, and the timers of a report are at most a minute late. -/
structure Timely (w : Surroundings) : Prop where
  answered : ∀ attempt, (w.answer attempt).elapsed ≤ TIMEOUT
  woken : ∀ attempt, w.late attempt ≤ 60 * SECOND

/-- The next deadline as `Skip` computes it. -/
def skipMissed (period : Nat) : NextTick := fun deadline now =>
  deadline + ((now - deadline) / period + 1) * period

theorem skips_skipMissed {period : Nat} (pos : 0 < period) : Skips (skipMissed period) period where
  aligned deadline now _ := ⟨(now - deadline) / period + 1, rfl⟩
  ahead deadline now le := by
    have passed := Nat.lt_div_mul_add (a := now - deadline) pos
    simp only [skipMissed, Nat.add_mul]
    omega
  first deadline now le := by
    have passed := Nat.div_mul_le_self (now - deadline) period
    simp only [skipMissed, Nat.add_mul]
    omega

/-- A report is over long before the next one. -/
theorem Reporter.Sends.finish_le {w : Surroundings} {report : Report}
    (sends : self.Sends toVec w report) (timely : Timely w) :
    report.finish ≤ report.start + 160 * SECOND := by
  cases built : toVec (self.payload report.reason w) with
  | error e =>
    have silent := (sends.silent e built).2
    omega
  | ok body =>
    obtain ⟨count, attempted⟩ := sends.attempted body built
    have answered := timely.answered
    have woken := timely.woken
    rw [attempted.finish]
    obtain ⟨pos, le⟩ : 0 < count ∧ count ≤ 3 := ⟨attempted.pos, attempted.le⟩
    have first := answered 0
    have second := answered 1
    have third := answered 2
    have pause := woken 0
    have pause' := woken 1
    have backoff : retryBackoff 0 = 1 * SECOND ∧ retryBackoff 1 = 2 * SECOND := ⟨rfl, rfl⟩
    simp only [TIMEOUT] at *
    interval_cases count <;> simp only [attemptTime, Nat.reduceSub] <;> omega

theorem lateness_lt : 60 * SECOND < METADATA_INTERVAL := by decide

theorem duration_lt : 220 * SECOND < METADATA_INTERVAL := by decide

theorem nextTick_of_lt {period : Nat} (skips : Skips nextTick period) {deadline delay : Nat}
    (short : delay < period) : nextTick deadline (deadline + delay) = deadline + period := by
  obtain ⟨n, aligned⟩ := skips.aligned deadline (deadline + delay) (by omega)
  have ahead := skips.ahead deadline (deadline + delay) (by omega)
  have first := skips.first deadline (deadline + delay) (by omega)
  obtain rfl : n = 1 := by
    rcases n with _ | _ | n
    · omega
    · rfl
    · simp only [Nat.add_mul] at aligned
      omega
  omega

/-- A report takes the tick that is due some number of periods after the ticker was made; the next
tick is due at the first period that ends after the report started. -/
structure TakesSlot (created : Nat) (slot : Nat → Nat) (i : Nat) (report : Report) : Prop where
  due : created + slot i * METADATA_INTERVAL ≤ report.start
  before : report.start < created + slot (i + 1) * METADATA_INTERVAL
  next : created + slot (i + 1) * METADATA_INTERVAL ≤ report.start + METADATA_INTERVAL

/-- The deadlines are multiples of the period from the first on, and no two reports start in one
period. -/
theorem periodic_slots (self : Reporter) (toVec : Payload → Except String (List UInt8))
    (w : Nat → Surroundings) (late : Nat → Nat) (skips : Skips nextTick METADATA_INTERVAL)
    (created count number now first : Nat) :
    ∃ slot : Nat → Nat, slot 0 = first ∧ (∀ i, slot i < slot (i + 1)) ∧
      ∀ (i : Nat) report, (self.periodic toVec nextTick w late count number
        (created + first * METADATA_INTERVAL) now)[i]? = some report →
          TakesSlot created slot i report := by
  induction count generalizing number now first with
  | zero => exact ⟨fun i => first + i, rfl, by simp, by simp [Reporter.periodic]⟩
  | succ count ih =>
    let woken := max now (created + first * METADATA_INTERVAL) + late number
    have late_ : created + first * METADATA_INTERVAL ≤ woken := by omega
    obtain ⟨n, aligned⟩ := skips.aligned _ _ late_
    have ahead := skips.ahead _ _ late_
    have soon := skips.first _ _ late_
    have pos : 0 < n := by
      rcases Nat.eq_zero_or_pos n with rfl | pos
      · omega
      · exact pos
    have next : nextTick (created + first * METADATA_INTERVAL) woken =
        created + (first + n) * METADATA_INTERVAL := by
      rw [aligned, Nat.add_mul, Nat.add_assoc]
    obtain ⟨slot, start, ordered, later⟩ := ih (number + 1)
      (self.sendReport toVec (w number) "periodic" woken).finish (first + n)
    refine ⟨fun i => match i with | 0 => first | i + 1 => slot i, rfl, ?_, ?_⟩
    · rintro (_ | i)
      · simp only [start]
        omega
      · exact ordered i
    · intro i report at_
      cases i with
      | zero =>
        simp only [Reporter.periodic, List.getElem?_cons_zero, Option.some.injEq] at at_
        rw [next, ← start] at ahead soon
        rw [← at_]
        refine ⟨?_, ?_, ?_⟩ <;> rw [sendReport_start]
        · exact late_
        · exact ahead
        · exact soon
      | succ i =>
        simp only [Reporter.periodic, List.getElem?_cons_succ] at at_
        rw [next] at at_
        have taken := later i report at_
        exact ⟨taken.due, taken.before, taken.next⟩

/-- Reports that are over in time start when they are due. -/
theorem periodic_on_schedule (skips : Skips nextTick METADATA_INTERVAL)
    (timely : ∀ i, Timely (w i)) (slack : ∀ i, late i ≤ 60 * SECOND)
    {count number deadline now i : Nat} (early : now ≤ deadline) {report : Report}
    (at_ : (self.periodic toVec nextTick w late count number deadline now)[i]? = some report) :
    report.start = deadline + i * METADATA_INTERVAL + late (number + i) := by
  induction count generalizing number deadline now i with
  | zero => simp [Reporter.periodic] at at_
  | succ count ih =>
    have woken : max now deadline + late number = deadline + late number := by omega
    have short : late number < METADATA_INTERVAL := (slack number).trans_lt lateness_lt
    cases i with
    | zero =>
      simp only [Reporter.periodic, List.getElem?_cons_zero, Option.some.injEq] at at_
      rw [← at_, sendReport_start, woken]
      simp
    | succ i =>
      simp only [Reporter.periodic, List.getElem?_cons_succ, woken,
        nextTick_of_lt skips short] at at_
      have sent : self.Sends toVec (w number)
          (self.sendReport toVec (w number) "periodic" (deadline + late number)) :=
        sendReport_sends ..
      have ended := sent.finish_le (timely number)
      rw [sendReport_start] at ended
      rw [ih ?_ at_]
      · rw [Nat.add_mul, show number + 1 + i = number + (i + 1) by omega]
        omega
      · have := slack number
        have := duration_lt
        omega

/-- However long the reports take and however late the timers fire, every periodic report is due at
a multiple of 30 minutes after the report of the startup, and starts before the next one is due, at
the first multiple that has not passed by then: never two in one period. With the client's timeout
and timers less than a minute late no period is left out and the delays do not add up. -/
theorem reports_on_schedule (self : Reporter) (toVec : Payload → Except String (List UInt8))
    (nextTick : NextTick) (skips : Skips nextTick METADATA_INTERVAL) (w : Nat → Surroundings)
    (late : Nat → Nat) (count now : Nat) :
    let reports := self.run toVec nextTick w late count now
    ∃ created, reports[0]?.map (·.finish) = some created ∧
      (∃ slot : Nat → Nat, 0 < slot 0 ∧ (∀ i, slot i < slot (i + 1)) ∧
        ∀ (i : Nat) report, reports[i + 1]? = some report → TakesSlot created slot i report) ∧
      ((∀ i, Timely (w i)) → (∀ i, late i ≤ 60 * SECOND) →
        ∀ (i : Nat) report, reports[i + 1]? = some report →
          report.start = created + (i + 1) * METADATA_INTERVAL + late (i + 1)) := by
  intro reports
  let created := (self.sendReport toVec (w 0) "startup" now).finish
  obtain ⟨n, aligned⟩ := skips.aligned created (created + late 0) (by omega)
  have ahead := skips.ahead created (created + late 0) (by omega)
  refine ⟨created, rfl, ?_, ?_⟩
  · obtain ⟨slot, start, ordered, later⟩ := periodic_slots self toVec w late skips created
      count 1 (created + late 0) n
    refine ⟨slot, ?_, ordered, ?_⟩
    · rw [start]
      rcases Nat.eq_zero_or_pos n with rfl | pos
      · omega
      · exact pos
    · intro i report at_
      refine later i report ?_
      rw [← aligned]
      exact at_
  · intro timely slack i report at_
    have short : late 0 < METADATA_INTERVAL := (slack 0).trans_lt lateness_lt
    have next : nextTick created (created + late 0) = created + METADATA_INTERVAL :=
      nextTick_of_lt skips short
    have start : report.start = nextTick created (created + late 0) + i * METADATA_INTERVAL +
        late (1 + i) := periodic_on_schedule skips timely slack ahead.le at_
    rw [start, next, Nat.add_mul, Nat.add_comm 1 i]
    omega

/-- An intake that accepts every report at once. -/
theorem reports_on_schedule_accepted :
    let self : Reporter := ⟨"key", "datadoghq.com", "https://api.datadoghq.com/api/v1/metadata",
      "datadog-serverless-compat/unknown", ⟨"azure_function", "id", "app", ∅⟩, "pid", none⟩
    let w (_ : Nat) : Surroundings := ⟨fun _ => none, some 0, fun _ => ⟨.ok 202, 0⟩, fun _ => 0⟩
    ∀ report, (self.run (fun _ => .ok []) (skipMissed METADATA_INTERVAL) w (fun _ => 0) 2 5)[2]? =
      some report → report.start = 5 + 2 * METADATA_INTERVAL := by
  intro self w report at_
  obtain ⟨created, startup, -, timely⟩ := reports_on_schedule self (fun _ => .ok [])
    (skipMissed METADATA_INTERVAL) (skips_skipMissed (by decide)) w (fun _ => 0) 2 5
  obtain rfl : 5 = created := Option.some.inj startup
  exact timely (fun _ => ⟨fun _ => Nat.zero_le _, fun _ => Nat.zero_le _⟩)
    (fun _ => Nat.zero_le _) 1 report at_

end Reports

end ServerlessComponents.Metadata
