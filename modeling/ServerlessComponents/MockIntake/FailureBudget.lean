import ServerlessComponents.MockIntake.Intake

/-!
# The failure budget of the mock intake

The first stats attempts that reach decoding are rejected, whether they decode or not. What counts
as reaching it is decided by the encoding alone, and which attempts are the first ones by the order
in which their handlers take a number.

## Main results

* `handleEndpoint_injected`, `handleEndpoint_plain` — a handler within the budget and without it.
* `Answered` — the answer to an attempt; `Answered.grow` — later attempts do not change it.
* `answered_handle`, `answered_panic` — how a handler ends.
-/
namespace ServerlessComponents.MockIntake

/-! ## Handlers -/

section Handlers

variable {S A P : Type} (codecs : Codecs S A P)

open Intake (reachesDecoding)

def Accepted.endpoint : Accepted S A P → Endpoint
  | .stats _ => .stats
  | .traces _ => .traces
  | .pipelineStats _ => .pipelineStats

/-- What a body decodes to at its endpoint, whatever the failure budget is. -/
def decoded (endpoint : Endpoint) (headers : HeaderMap) (body : List UInt8) :
    Option (Accepted S A P) :=
  (decompress codecs headers body).toOption.bind fun d =>
    match endpoint with
    | .stats => (codecs.statsFromSlice d).toOption.map .stats
    | .traces => (codecs.agentPayloadDecode d).toOption.map .traces
    | .pipelineStats => (codecs.pipelineStatsFromSlice d).toOption.map .pipelineStats

/-- The handler of this request takes a number of the failure budget. -/
def takesNumber (endpoint : Endpoint) (headers : HeaderMap) (body : List UInt8) : Prop :=
  endpoint = .stats ∧ reachesDecoding codecs headers body = true

instance (endpoint : Endpoint) (headers : HeaderMap) (body : List UInt8) :
    Decidable (takesNumber codecs endpoint headers body) :=
  inferInstanceAs (Decidable (_ ∧ _))

/-- The answer to a request that is not rejected by injection: a 202 for what is decoded. -/
structure Plain (endpoint : Endpoint) (headers : HeaderMap) (body : List UInt8)
    (result : StatusCode × Option (Accepted S A P)) : Prop where
  payload : result.2 = decoded codecs endpoint headers body
  answer : result.1 = .accepted ↔ result.2.isSome
  not_injected : result.1 ≠ .internalServerError

variable {codecs} {endpoint : Endpoint} {headers : HeaderMap} {body : List UInt8}
  {failStatsFirstN n : Nat}

theorem endpoint_of_decoded {p : Accepted S A P}
    (eq : decoded codecs endpoint headers body = some p) : p.endpoint = endpoint := by
  obtain ⟨d, -, eq⟩ := Option.bind_eq_some_iff.1 eq
  cases endpoint <;>
  · obtain ⟨payload, -, rfl⟩ := Option.map_eq_some_iff.1 eq
    rfl

/-- What a handler passes on when its status is that of its payload. -/
theorem Plain.of_finish {T : Type} {handled : HandledRequest T} {wrap : T → Accepted S A P}
    (payload : handled.decoded.map wrap = decoded codecs endpoint headers body)
    (answer : handled.status = .accepted ↔ handled.decoded.isSome)
    (not_injected : handled.status ≠ .internalServerError) :
    Plain codecs endpoint headers body (handled.finish wrap) := by
  obtain ⟨status, decoded_⟩ := handled
  cases decoded_ with
  | none => exact ⟨payload, answer, not_injected⟩
  | some p =>
    obtain rfl : status = .accepted := answer.2 rfl
    exact ⟨payload, answer, not_injected⟩

/-- A handler whose decoder is that of its endpoint. -/
theorem handlePlain_plain {T : Type} {decode : List UInt8 → Except String T}
    {wrap : T → Accepted S A P}
    (own : decoded codecs endpoint headers body =
      (decompress codecs headers body).toOption.bind fun d => (decode d).toOption.map wrap) :
    Plain codecs endpoint headers body (handlePlain codecs decode wrap headers body) := by
  apply Plain.of_finish
  · rw [own]
    cases decompress codecs headers body with
    | error e => rfl
    | ok d => cases payload : decode d <;> simp [payload, Except.toOption]
  · cases decompress codecs headers body with
    | error e => cases e <;> simp [decompressFailureStatus]
    | ok d => cases payload : decode d <;> simp [payload]
  · cases decompress codecs headers body with
    | error e => cases e <;> simp [decompressFailureStatus]
    | ok d => cases payload : decode d <;> simp [payload]

theorem handleStats_of_not_reached (not_reached : reachesDecoding codecs headers body = false) :
    (handleStats codecs failStatsFirstN n headers body).2 = n ∧
      Plain codecs .stats headers body
        (handleStats codecs failStatsFirstN n headers body).1 := by
  obtain ⟨encoding, out⟩ : ∃ encoding,
      decompress codecs headers body = .error (.unsupportedEncoding encoding) := by
    unfold reachesDecoding at not_reached
    split at not_reached
    · exact ⟨_, ‹_›⟩
    · cases not_reached
  rw [handleStats, out]
  refine ⟨rfl, Plain.of_finish ?_ ?_ ?_⟩ <;> simp [decoded, out, Except.toOption]

theorem handleStats_of_reached (reached : reachesDecoding codecs headers body = true) :
    handleStats codecs failStatsFirstN n headers body =
      ((decodeStats codecs (decide (n + 1 ≤ failStatsFirstN))
        (decompress codecs headers body)).finish .stats, n + 1) := by
  unfold reachesDecoding at reached
  rw [handleStats]
  split at reached
  · cases reached
  · rfl

/-- Within the budget an attempt is rejected, whether it decodes or not. -/
theorem decodeStats_injected (result : Except DecompressError (List UInt8)) :
    (decodeStats codecs true result).finish (.stats : S → Accepted S A P) =
      (.internalServerError, none) := by
  cases result with
  | error e => rfl
  | ok d =>
    cases payload : codecs.statsFromSlice d <;>
      simp [decodeStats, payload, HandledRequest.finish, failureStatus]

theorem decodeStats_plain :
    Plain codecs .stats headers body
      ((decodeStats codecs false (decompress codecs headers body)).finish .stats) := by
  apply Plain.of_finish <;> cases out : decompress codecs headers body with
  | error e => simp [decodeStats, decoded, out, Except.toOption, failureStatus]
  | ok d =>
    cases payload : codecs.statsFromSlice d <;>
      simp [decodeStats, decoded, out, payload, Except.toOption, failureStatus]

variable (codecs failStatsFirstN n) in
theorem handleEndpoint_snd (endpoint : Endpoint) (headers : HeaderMap) (body : List UInt8) :
    (handleEndpoint codecs failStatsFirstN n endpoint headers body).2 =
      n + (decide (takesNumber codecs endpoint headers body)).toNat := by
  cases endpoint with
  | stats =>
    cases reached : reachesDecoding codecs headers body with
    | true => simp [handleEndpoint, takesNumber, handleStats_of_reached reached, reached]
    | false => simp [handleEndpoint, takesNumber, (handleStats_of_not_reached reached).1, reached]
  | traces => simp [handleEndpoint, takesNumber]
  | pipelineStats => simp [handleEndpoint, takesNumber]

theorem handleEndpoint_injected (takes : takesNumber codecs endpoint headers body)
    (within : n < failStatsFirstN) :
    (handleEndpoint codecs failStatsFirstN n endpoint headers body).1 =
      (.internalServerError, none) := by
  obtain ⟨rfl, reached⟩ := takes
  change (handleStats codecs failStatsFirstN n headers body).1 = _
  rw [handleStats_of_reached reached, decide_eq_true (Nat.succ_le_of_lt within)]
  exact decodeStats_injected _

theorem handleEndpoint_plain
    (spent : takesNumber codecs endpoint headers body → failStatsFirstN ≤ n) :
    Plain codecs endpoint headers body
      (handleEndpoint codecs failStatsFirstN n endpoint headers body).1 := by
  cases endpoint with
  | stats =>
    cases reached : reachesDecoding codecs headers body with
    | true =>
      have no_inject : decide (n + 1 ≤ failStatsFirstN) = false :=
        decide_eq_false (Nat.not_lt.2 (spent ⟨rfl, reached⟩))
      rw [handleEndpoint, handleStats_of_reached reached, no_inject]
      exact decodeStats_plain
    | false => exact (handleStats_of_not_reached reached).2
  | traces => exact handlePlain_plain rfl
  | pipelineStats => exact handlePlain_plain rfl

end Handlers

/-! ## The failure budget -/

section Budget

variable {S A P : Type} (codecs : Codecs S A P) (failStatsFirstN : Nat)

/-- The answer to an attempt, the requests that have taken a number being these. -/
structure Answered (counted : List Nat) (a : Attempt S A P) (body : List UInt8)
    (outcome : Outcome S A P) : Prop where
  reached : a.requestId ∈ counted → takesNumber codecs a.endpoint a.headers body
  /-- Only a panic keeps an attempt that reaches decoding from taking its number. -/
  took : takesNumber codecs a.endpoint a.headers body →
    a.requestId ∈ counted ∨ outcome.panicked = true
  injected : a.requestId ∈ counted.take failStatsFirstN →
    outcome.status = .internalServerError ∧ outcome.accepted = none
  panicked : outcome.panicked = true →
    outcome.status = .internalServerError ∧ outcome.accepted = none
  plain : a.requestId ∉ counted.take failStatsFirstN → outcome.panicked = false →
    Plain codecs a.endpoint a.headers body (outcome.status, outcome.accepted)

variable {codecs failStatsFirstN} {counted more : List Nat} {a : Attempt S A P}
  {body : List UInt8} {outcome : Outcome S A P} {requestId : Nat}

theorem mem_take_append (other : requestId ∉ more) :
    requestId ∈ (counted ++ more).take failStatsFirstN ↔
      requestId ∈ counted.take failStatsFirstN := by
  rw [List.take_append, List.mem_append]
  exact or_iff_left fun mem => other (List.mem_of_mem_take mem)

/-- A request that takes its number is within the budget if there were fewer numbers before. -/
theorem mem_take_concat (fresh : requestId ∉ counted) :
    requestId ∈ (counted ++ [requestId]).take failStatsFirstN ↔
      counted.length < failStatsFirstN := by
  have not_before : requestId ∉ counted.take failStatsFirstN :=
    fun mem => fresh (List.mem_of_mem_take mem)
  rw [List.take_append, List.mem_append, or_iff_right not_before]
  cases left : failStatsFirstN - counted.length with
  | zero =>
    simp
    omega
  | succ =>
    simp
    omega

/-- Numbers taken by other requests change no answer. -/
theorem Answered.grow (answered : Answered codecs failStatsFirstN counted a body outcome)
    (other : a.requestId ∉ more) :
    Answered codecs failStatsFirstN (counted ++ more) a body outcome := by
  have mem : a.requestId ∈ counted ++ more ↔ a.requestId ∈ counted :=
    List.mem_append.trans (or_iff_left other)
  refine ⟨?_, ?_, ?_, answered.panicked, ?_⟩
  · rw [mem]
    exact answered.reached
  · rw [mem]
    exact answered.took
  · rw [mem_take_append other]
    exact answered.injected
  · rw [mem_take_append other]
    exact answered.plain

theorem Answered.of_accepted (answered : Answered codecs failStatsFirstN counted a body outcome)
    {payload : Accepted S A P} (accepted : outcome.accepted = some payload) :
    outcome.status = .accepted ∧ payload.endpoint = a.endpoint ∧
      decoded codecs a.endpoint a.headers body = some payload := by
  have not_injected : a.requestId ∉ counted.take failStatsFirstN := by
    intro mem
    rw [(answered.injected mem).2] at accepted
    cases accepted
  have not_panicked : outcome.panicked = false := by
    rw [← Bool.not_eq_true]
    intro panicked
    rw [(answered.panicked panicked).2] at accepted
    cases accepted
  have plain := answered.plain not_injected not_panicked
  have decodes : decoded codecs a.endpoint a.headers body = some payload :=
    plain.payload.symm.trans accepted
  exact ⟨plain.answer.2 (by simp [accepted]), endpoint_of_decoded decodes, decodes⟩

/-- The answer does not depend on where the attempt is. -/
theorem Answered.atPhase (answered : Answered codecs failStatsFirstN counted a body outcome)
    (phase : Phase S A P) :
    Answered codecs failStatsFirstN counted { a with phase } body outcome :=
  ⟨answered.reached, answered.took, answered.injected, answered.panicked, answered.plain⟩

theorem answered_handle (fresh : a.requestId ∉ counted)
    {result : StatusCode × Option (Accepted S A P)}
    (eq : (handleEndpoint codecs failStatsFirstN counted.length a.endpoint a.headers body).1 =
      result) :
    Answered codecs failStatsFirstN
      (counted ++
        .replicate (decide (takesNumber codecs a.endpoint a.headers body)).toNat a.requestId)
      a body { status := result.1, accepted := result.2 } := by
  subst eq
  by_cases takes : takesNumber codecs a.endpoint a.headers body
  · rw [decide_eq_true takes]
    have within : a.requestId ∈ (counted ++ [a.requestId]).take failStatsFirstN ↔
        counted.length < failStatsFirstN := mem_take_concat fresh
    refine ⟨fun _ => takes, fun _ => .inl (by simp), ?_, nofun, ?_⟩
    · intro mem
      rw [handleEndpoint_injected takes (within.1 mem)]
      exact ⟨rfl, rfl⟩
    · intro not_mem _
      exact handleEndpoint_plain fun _ => Nat.le_of_not_lt fun lt => not_mem (within.2 lt)
  · rw [decide_eq_false takes]
    change Answered _ _ (counted ++ []) _ _ _
    rw [List.append_nil]
    refine ⟨fun mem => absurd mem fresh, fun yes => absurd yes takes, ?_, nofun, ?_⟩
    · intro mem
      exact absurd (List.mem_of_mem_take mem) fresh
    · intro _ _
      exact handleEndpoint_plain fun yes => absurd yes takes

theorem answered_panic {took : Bool} (fresh : a.requestId ∉ counted)
    (may : took = true → takesNumber codecs a.endpoint a.headers body) :
    Answered codecs failStatsFirstN (counted ++ .replicate took.toNat a.requestId) a body
      ⟨.internalServerError, none, true⟩ := by
  refine ⟨?_, fun _ => .inr rfl, fun _ => ⟨rfl, rfl⟩, fun _ => ⟨rfl, rfl⟩, nofun⟩
  intro mem
  cases took with
  | true => exact may rfl
  | false => exact absurd (by simpa using mem) fresh

end Budget

end ServerlessComponents.MockIntake
