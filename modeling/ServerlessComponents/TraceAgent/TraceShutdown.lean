import ServerlessComponents.TraceAgent.MiniAgent

/-!
# Traces on a graceful shutdown

`serve` waits for the final flush of the stats flusher and then aborts the trace flusher wherever it
is. When it returns `Ok`, the acknowledged traces have all been handed to `send` exactly when none
of their pieces was in flight in the state in which it saw the end of the stats flusher.
-/
namespace ServerlessComponents.TraceAgent.MiniAgent

open LogsAgent (Bytes)

variable {D R X G K H L W : Type}

/-- Every piece of a payload that was answered with buffered traces has been handed to `send`. -/
def TracesHanded (s : MiniAgent D R X G K H L W) : Prop :=
  ∀ answer ∈ s.answered, answer.response = .tracesBuffered →
    ∃ round sendDatas, answer.receipt = .traces round ∧
      s.traces.spawned[round]? = some sendDatas ∧
      ∀ piece ∈ Numbered.ofRound round sendDatas, piece ∈ s.traces.handed.flatten

/-- No piece of such a payload is in an enqueue task, on the channel, with the receiver or in the
aggregator. -/
def NoneInFlight (s : MiniAgent D R X G K H L W) : Prop :=
  ∀ answer ∈ s.answered, answer.response = .tracesBuffered →
    ∀ piece ∈ s.traces.inFlight, answer.receipt ≠ .traces piece.round

/-- The supervisor leaves only when no acknowledged traces are in flight. -/
def LeavesClear (s : MiniAgent D R X G K H L W) (action : Action H L) : Prop :=
  action = .serveSeesFlusher → s.NoneInFlight

/-- The pieces are accounted for and the promises are backed. -/
structure TracesTracked (s : MiniAgent D R X G K H L W) : Prop where
  accounted : s.traces.Accounted
  promises : s.Promises

variable [DecidableEq L] {setup : MiniAgentSetup D R X G K H W} {s s' : MiniAgent D R X G K H L W}
  {a : Action H L}

omit [DecidableEq L] in
theorem tracesHanded_iff_noneInFlight (tracked : s.TracesTracked) :
    s.TracesHanded ↔ s.NoneInFlight := by
  obtain ⟨accounted, promises⟩ := tracked
  constructor
  · intro handed answer mem promised piece waits same
    obtain ⟨round, sendDatas, receipt, found, all⟩ := handed answer mem promised
    obtain rfl : round = piece.round := by simpa [same] using receipt.symm
    have spawned : piece ∈ Numbered.ofRounds 0 s.traces.spawned :=
      accounted.pieces.mem_iff.2 (List.mem_append_right _ waits)
    obtain ⟨-, items, found', mem⟩ := Numbered.round_of_mem_ofRounds 0 _ spawned
    obtain rfl : sendDatas = items := Option.some.inj (found.symm.trans found')
    exact (accounted.handed_iff spawned).1 (all piece mem) waits
  · intro clear answer mem promised
    obtain ⟨round, lt, receipt⟩ := (promises.answered answer mem).traces promised
    refine ⟨round, s.traces.spawned[round], receipt, List.getElem?_eq_getElem lt, ?_⟩
    intro piece h
    have spawned : piece ∈ Numbered.ofRounds 0 s.traces.spawned :=
      Numbered.mem_ofRounds 0 _ (List.getElem?_eq_getElem lt) (by simpa using h)
    refine (accounted.handed_iff spawned).2 ?_
    intro waits
    refine clear answer mem promised piece waits ?_
    rw [receipt, Numbered.round_of_mem_ofRound round _ h]

omit [DecidableEq L] in
theorem tracesTracked_init (rescueState : W) :
    TracesTracked (init rescueState : MiniAgent D R X G K H L W) :=
  ⟨⟨.refl _, rfl⟩, promises_init rescueState⟩

theorem tracesTracked_step (start : s.TracesTracked) (h : s.step setup a = some s') :
    s'.TracesTracked := by
  have effect := effect_of_act (act_of_step h).2
  refine ⟨?_, promises_effect start.promises effect⟩
  cases effect with
  | handler i p running handler connections acceptLoop supervisor stats oneshot traces =>
    exact TracePipeline.accounted_effect start.accounted traces
  | traces effect => exact TracePipeline.accounted_effect start.accounted effect
  | _ => exact start.accounted

theorem returned_of_serveSeesFlusher (h : s.step setup .serveSeesFlusher = some s') :
    ∃ ok, s' = { s with supervisor := .returned ok } := by
  have h := (act_of_step h).2
  simp only [act] at h
  split at h <;> cases h
  · exact ⟨true, rfl⟩
  · exact ⟨false, rfl⟩

/-- In every run after which `serve` has returned `Ok`: the traces answered with buffered traces
were all handed to `send` exactly when the supervisor saw the end of the stats flusher in a state in
which none of their pieces was in flight. -/
theorem traces_handed_iff (setup : MiniAgentSetup D R X G K H W) (rescueState : W)
    (actions : List (Action H L)) (s : MiniAgent D R X G K H L W)
    (run : Runs.exec (step setup) (init rescueState) actions = some s)
    (ok : s.supervisor = .returned true) :
    s.TracesHanded ↔ Runs.Along (step setup) LeavesClear (init rescueState) actions := by
  have tracked : s.TracesTracked :=
    Runs.invariant (fun _ _ _ => tracesTracked_step) (tracesTracked_init rescueState) run
  rw [tracesHanded_iff_noneInFlight tracked]
  constructor
  · intro clear
    refine Runs.along_of_not (P := fun _ => True)
      (Q := fun s => (∃ ok, s.supervisor = .returned ok) ∧ ¬ s.NoneInFlight)
      (fun _ _ _ _ _ => trivial) ?_ ?_ trivial run (fun lost => lost.2 clear)
    · intro s a s' _ early h
      obtain ⟨rfl, waits⟩ : a = .serveSeesFlusher ∧ ¬ s.NoneInFlight := by
        simpa [LeavesClear] using early
      obtain ⟨ok, rfl⟩ := returned_of_serveSeesFlusher h
      exact ⟨⟨ok, rfl⟩, waits⟩
    · intro s a s' lost h
      obtain ⟨⟨ok, returned⟩, -⟩ := lost
      exact absurd returned ((act_of_step h).1 ok)
  · intro along
    refine Runs.invariant_along (P := fun s => s.supervisor = .returned true → s.NoneInFlight)
      ?_ (by simp [init]) along run ok
    intro s a s' _ clear h ok
    obtain ⟨rfl, -, rfl⟩ := serveSeesFlusher_of_ok ok h
    exact clear rfl

/-! ## Runs on one request -/

section OneTrace

def oneSpan : Span Unit Unit := ⟨"web", "http.request", "GET /", 1, 0, ∅, ∅, ()⟩

/-- A payload with one chunk of one span. -/
def oneTrace : TracerPayload Unit Unit where
  containerId := ""
  languageName := "go"
  languageVersion := "1.22"
  tracerVersion := "1.64"
  runtimeId := ""
  chunks := [⟨1, "", [oneSpan], ∅, false⟩]
  tags := ∅
  env := ""
  hostname := ""
  appVersion := ""

/-- An agent without a concentrator whose libraries know one body. -/
def oneTraceSetup : MiniAgentSetup Unit Unit Unit Unit Unit Unit Unit where
  config := ⟨"", 1000, false, none, some "key"⟩
  utils := ⟨fun _ => .error "", fun stats => ⟨"", "", stats, "", true, false⟩, fun _ => .ok []⟩
  concentrator := ⟨fun _ => (), fun _ _ => (), fun _ _ _ => ([], ())⟩
  statsConcentrator := false
  traceUtils :=
    { Traces := Unit
      getTracesFromRequestBody := fun _ => .ok (128, ())
      collectPbTraceChunks := fun _ _ => .ok (.v07 [oneTrace])
      getRootSpanIndex := fun _ => .ok 0
      encodedLen := fun _ => 128 }
  rescue := fun w payload _ => some (payload, w)

/-- A request with traces is answered, and its piece reaches the aggregator. -/
def untilAggregated : List (Action Unit Unit) :=
  [.accept, .request 0 ⟨"POST", "/v0.4/traces", ⟨some (some "128"), false, ()⟩, .ok []⟩,
    .resume 0 0, .resume 0 0, .resume 0 0, .resume 0 0, .answer 0, .traces (.enqueue 0),
    .traces (.enqueueEnds 0), .traces .recv, .traces .add]

/-- The graceful shutdown, from the signal to the return of `serve`. -/
def gracefulShutdown : List (Action Unit Unit) :=
  [.shutdown, .serveSeesShutdown, .loopSeesShutdown, .close 0, .loopDrained, .serveSeesTransport,
    .stats .seeShutdown, .stats .tryRecv, .stats .flushClients, .stats .request, .stats .finish,
    .serveSeesFlusher]

/-- The flusher wakes up before the signal. -/
theorem traces_handed_iff_flushed :
    ∃ s, Runs.exec (step oneTraceSetup) (init ())
        (untilAggregated ++ [.traces .wake, .traces .sent] ++ gracefulShutdown) = some s ∧
      (s.TracesHanded ↔ Runs.Along (step oneTraceSetup) LeavesClear (init ())
        (untilAggregated ++ [.traces .wake, .traces .sent] ++ gracefulShutdown)) :=
  ⟨_, rfl, traces_handed_iff oneTraceSetup () _ _ rfl rfl⟩

/-- The signal comes before the flusher wakes up. -/
theorem serve_returns_with_traces_waiting :
    ¬ ∀ (setup : MiniAgentSetup Unit Unit Unit Unit Unit Unit Unit) (rescueState : Unit)
      (actions : List (Action Unit Unit)) (s : MiniAgent Unit Unit Unit Unit Unit Unit Unit Unit),
      Runs.exec (step setup) (init rescueState) actions = some s →
        s.supervisor = .returned true → s.TracesHanded := by
  intro all
  have handed := all oneTraceSetup () (untilAggregated ++ gracefulShutdown) _ rfl rfl
  obtain ⟨round, sendDatas, receipt, found, handed⟩ :=
    handed ⟨.tracesBuffered, .traces 0⟩ List.mem_cons_self rfl
  obtain rfl : 0 = round := by simpa using receipt
  cases found
  exact absurd (handed _ List.mem_cons_self) List.not_mem_nil

end OneTrace

end ServerlessComponents.TraceAgent.MiniAgent
