import Mathlib.Logic.Function.Basic
import ServerlessComponents.Library.Runs
import ServerlessComponents.TraceAgent.StatsFlusher
import ServerlessComponents.TraceAgent.TraceFlusher

/-!
# The mini agent

`mini_agent.rs`: the accept loop with its connections, the supervisor `serve` and the two pipelines
behind the handlers, interleaved between their `await`s and queue operations. A connection serves
one request at a time. A run is followed until `serve` returns. The proxied endpoints and `/info` do
not touch the pipelines, so their handlers are one phase; there is one transport, the TCP listener.
-/
namespace ServerlessComponents.TraceAgent

/-- Which payload an answer stands for: the place of the stats among all buffered ones, or the
number of the enqueue task. -/
inductive Receipt where
  | plain
  | stats (place : Nat)
  | traces (round : Nat)
  deriving DecidableEq, Repr

structure Answer where
  response : HttpResponse
  receipt : Receipt
  deriving DecidableEq, Repr

/-- Where a connection and the handler of its request are. -/
inductive HandlerPhase (D R X G H L : Type) where
  /-- The connection waits for a request. -/
  | idle
  /-- The body is read and dropped. -/
  | draining (response : PlainResponse)
  | readingStats (req : HttpRequest H)
  | sendingStats (stats : ClientStatsPayload G)
  /-- The handler waits for an enqueue permit. -/
  | acquiring (req : HttpRequest H)
  | readingTraces (req : HttpRequest H)
  | addingChunks (decoded : DecodedTraces D R X H)
      (left : List (TraceChunk D R × Option (TracerMetadata L)))
  | rescuing (decoded : DecodedTraces D R X H)
  | answering (answer : Answer)
  /-- Any other endpoint. -/
  | elsewhere
  | closed
  | panicked

inductive AcceptLoop where
  | accepting
  | draining
  /-- It returned after its connections had ended. -/
  | drained
  /-- It returned an error or panicked; its connections are aborted. -/
  | failed
  deriving DecidableEq, Repr

inductive Supervisor where
  | selecting
  | awaitingTransport
  | awaitingFlusher
  | returned (ok : Bool)
  deriving DecidableEq, Repr

/-- What the agent is set up with; `rescue` is `apply_error_rescue` on the state behind its lock
(`applyErrorRescueWithClock`, or any other function of this type), `none` where it panics. -/
structure MiniAgentSetup (D R X G K H W : Type) extends StatsSetup D R G K where
  traceUtils : TraceUtils D R X H
  rescue : W → TracerPayloadCollection D R X → Nat → Option (TracerPayloadCollection D R X × W)

structure MiniAgent (D R X G K H L W : Type) where
  shutdown : Bool := false
  supervisor : Supervisor := .selecting
  acceptLoop : AcceptLoop := .accepting
  connections : Nat := 0
  handler : Nat → HandlerPhase D R X G H L := fun _ => .closed
  rescueState : W
  stats : StatsPipeline D R G K L := {}
  traces : TracePipeline (SendData D R X H) := {}
  answered : List Answer := []

inductive Action (H L : Type) where
  /-- The shutdown signal fires. -/
  | shutdown
  | accept
  /-- `accept` fails, not by an aborted, reset or refused connection. -/
  | acceptError
  | loopSeesShutdown
  | loopSeesPanic (connection : Nat)
  | loopDrained
  | request (connection : Nat) (req : HttpRequest H)
  /-- A handler gets what it waits for, or goes on to its next queue operation. -/
  | resume (connection : Nat) (clock : Nat)
  | permitTimeout (connection : Nat)
  /-- The response is written. -/
  | answer (connection : Nat)
  /-- The connection ends where it is suspended: the client is gone, the keep-alive is over, or the
  abort of a failed accept loop takes effect. -/
  | close (connection : Nat)
  | panic (connection : Nat)
  | stats (action : StatsAction L)
  | traces (action : TraceAction)
  | serveSeesShutdown
  | serveSeesDeath
  | serveSeesTransport
  | serveSeesFlusher

variable {D R X G K H L W : Type}

namespace HandlerPhase

def holdsPermit : HandlerPhase D R X G H L → Bool
  | .readingTraces _ | .addingChunks .. | .rescuing _ => true
  | _ => false

/-- A new request, up to the first `await` of its handler. -/
def begin (config : Config) (req : HttpRequest H) : HandlerPhase D R X G H L :=
  match req.route with
  | .traces =>
    match verifyRequestContentLength req.headers config.maxRequestContentLength
        "Error processing traces" with
    | some response => .answering ⟨response, .plain⟩
    | none => .acquiring req
  | .stats =>
    if config.agentStatsComputationEnabled then .draining .droppingStats
    else
      match verifyRequestContentLength req.headers config.maxRequestContentLength
          "Error processing trace stats" with
      | some response => .answering ⟨response, .plain⟩
      | none => .readingStats req
  | .elsewhere => .elsewhere

end HandlerPhase

namespace AcceptLoop

def hasEnded : AcceptLoop → Bool
  | .drained | .failed => true
  | _ => false

end AcceptLoop

namespace MiniAgent

section Step

variable (setup : MiniAgentSetup D R X G K H W)

def setHandler (s : MiniAgent D R X G K H L W) (i : Nat) (p : HandlerPhase D R X G H L) :
    MiniAgent D R X G K H L W :=
  { s with handler := Function.update s.handler i p }

/-- The handler's future is dropped or panics; a permit it holds is given back. -/
def endHandler (s : MiniAgent D R X G K H L W) (i : Nat) (p : HandlerPhase D R X G H L) :
    MiniAgent D R X G K H L W :=
  { s.setHandler i p with
    traces := if (s.handler i).holdsPermit then s.traces.releasePermit else s.traces }

def resume (s : MiniAgent D R X G K H L W) (i clock : Nat) : Option (MiniAgent D R X G K H L W) :=
  match s.handler i with
  | .draining response => some (s.setHandler i (.answering ⟨response.1, .plain⟩))
  | .readingStats req =>
    match setup.utils.getStatsFromRequestBody req.body with
    | .error err => some (s.setHandler i (.answering ⟨.badStats err, .plain⟩))
    | .ok stats => some (s.setHandler i (.sendingStats (stats.stamp (.ofNat clock))))
  | .sendingStats stats =>
    if s.stats.isClosed then some (s.setHandler i (.answering ⟨.statsNotSent, .plain⟩))
    else if s.stats.isFull then none
    else
      some { s.setHandler i (.answering ⟨.statsBuffered, .stats s.stats.buffered.length⟩) with
        stats := s.stats.push stats }
  | .acquiring req =>
    if 0 < s.traces.enqueuePermits then
      some { s.setHandler i (.readingTraces req) with traces := s.traces.acquirePermit }
    else none
  | .readingTraces req =>
    match decodeTraces setup.config setup.traceUtils req with
    | .error response => some (s.endHandler i (.answering ⟨response, .plain⟩))
    | .ok decoded =>
      let left :=
        if setup.statsConcentrator && setup.config.agentStatsComputationEnabled then
          concentratorChunks setup.traceUtils.getRootSpanIndex decoded.payload
        else []
      some (s.setHandler i (.addingChunks decoded left))
  | .addingChunks decoded [] => some (s.setHandler i (.rescuing decoded))
  | .addingChunks _ ((_, none) :: _) => some (s.endHandler i .panicked)
  | .addingChunks decoded ((chunk, some metadata) :: left) =>
    some { s.setHandler i (.addingChunks decoded left) with
      stats := s.stats.addChunk setup.toStatsSetup chunk metadata }
  | .rescuing decoded =>
    match setup.rescue s.rescueState decoded.payload clock with
    | none => some (s.endHandler i .panicked)
    | some (payload, rescueState) =>
      let sendDatas := { decoded with payload }.sendDatas setup.traceUtils.encodedLen
      some { s.setHandler i (.answering ⟨.tracesBuffered, .traces s.traces.spawned.length⟩) with
        rescueState, traces := s.traces.spawn sendDatas }
  | .elsewhere => some (s.setHandler i .idle)
  | _ => none

/-- Every connection of the join set has ended. -/
def allClosed (s : MiniAgent D R X G K H L W) : Bool :=
  (List.range s.connections).all fun i =>
    match s.handler i with
    | .closed => true
    | _ => false

def act [DecidableEq L] (s : MiniAgent D R X G K H L W) :
    Action H L → Option (MiniAgent D R X G K H L W)
  | .shutdown => some { s with shutdown := true }
  | .accept =>
    match s.acceptLoop with
    | .accepting => some { s.setHandler s.connections .idle with connections := s.connections + 1 }
    | _ => none
  | .acceptError =>
    match s.acceptLoop with
    | .accepting => some { s with acceptLoop := .failed }
    | _ => none
  | .loopSeesShutdown =>
    match s.acceptLoop, s.shutdown with
    | .accepting, true => some { s with acceptLoop := .draining }
    | _, _ => none
  | .loopSeesPanic i =>
    match s.acceptLoop.hasEnded, s.handler i with
    | false, .panicked => some { s with acceptLoop := .failed }
    | _, _ => none
  | .loopDrained =>
    match s.acceptLoop, s.allClosed with
    | .draining, true => some { s with acceptLoop := .drained }
    | _, _ => none
  | .request i req =>
    match s.handler i with
    | .idle => some (s.setHandler i (.begin setup.config req))
    | _ => none
  | .resume i clock => s.resume setup i clock
  | .permitTimeout i =>
    match s.handler i with
    | .acquiring _ => some (s.setHandler i (.draining .droppedTraces))
    | _ => none
  | .answer i =>
    match s.handler i with
    | .answering answer => some { s.setHandler i .idle with answered := s.answered ++ [answer] }
    | _ => none
  | .close i =>
    match s.handler i with
    | .addingChunks .. | .closed | .panicked => none
    | _ => some (s.endHandler i .closed)
  | .panic i =>
    match s.handler i with
    | .idle | .closed | .panicked => none
    | _ => some (s.endHandler i .panicked)
  | .stats action => (s.stats.step setup.toStatsSetup action).map ({ s with stats := · })
  | .traces action => (s.traces.step SendData.size action).map ({ s with traces := · })
  | .serveSeesShutdown =>
    match s.supervisor, s.shutdown with
    | .selecting, true => some { s with supervisor := .awaitingTransport }
    | _, _ => none
  | .serveSeesDeath =>
    match s.supervisor, s.acceptLoop.hasEnded || s.stats.isClosed with
    | .selecting, true => some { s with supervisor := .returned false }
    | _, _ => none
  -- an error the accept loop returned is not looked at, a panic of it is only logged
  | .serveSeesTransport =>
    match s.supervisor, s.acceptLoop.hasEnded with
    | .awaitingTransport, true =>
      some { s with supervisor := .awaitingFlusher, stats := s.stats.fireShutdown }
    | _, _ => none
  | .serveSeesFlusher =>
    match s.supervisor, s.stats.phase with
    | .awaitingFlusher, .returned => some { s with supervisor := .returned true }
    | .awaitingFlusher, .panicked => some { s with supervisor := .returned false }
    | _, _ => none

def step [DecidableEq L] (s : MiniAgent D R X G K H L W) (action : Action H L) :
    Option (MiniAgent D R X G K H L W) :=
  match s.supervisor with
  | .returned _ => none
  | _ => s.act setup action

end Step

/-- The agent with its listener bound and no connection yet. -/
def init (rescueState : W) : MiniAgent D R X G K H L W := { rescueState }

/-! ## What a step does -/

/-- An answer that promises buffered stats or traces stands for a payload that was put into its
pipeline. -/
structure Backed (s : MiniAgent D R X G K H L W) (answer : Answer) : Prop where
  stats : answer.response = .statsBuffered →
    ∃ place < s.stats.buffered.length, answer.receipt = .stats place
  traces : answer.response = .tracesBuffered →
    ∃ round < s.traces.spawned.length, answer.receipt = .traces round

/-- Everything a step can do to the agent. -/
inductive Effect [DecidableEq L] (setup : MiniAgentSetup D R X G K H W)
    (s : MiniAgent D R X G K H L W) : Action H L → MiniAgent D R X G K H L W → Prop
  | handler {a s'} (i : Nat) (p : HandlerPhase D R X G H L) (running : s.handler i ≠ .closed)
      (handler : s'.handler = Function.update s.handler i p)
      (connections : s'.connections = s.connections) (acceptLoop : s'.acceptLoop = s.acceptLoop)
      (supervisor : s'.supervisor = s.supervisor)
      (stats : StatsPipeline.Effect setup.toStatsSetup s.stats s'.stats)
      (oneshot : s'.stats.shutdown = s.stats.shutdown)
      (traces : TracePipeline.Effect s.traces s'.traces)
      (answering : ∀ answer, p = .answering answer → Backed s' answer)
      (answered : ∀ answer ∈ s'.answered, answer ∈ s.answered ∨ s.handler i = .answering answer) :
      Effect setup s a s'
  | accept {a} (accepting : s.acceptLoop = .accepting) :
      Effect setup s a { s.setHandler s.connections .idle with connections := s.connections + 1 }
  | loop {a} (acceptLoop : AcceptLoop) (going : s.acceptLoop.hasEnded = false)
      (joined : acceptLoop = .drained → ∀ i < s.connections, s.handler i = .closed) :
      Effect setup s a { s with acceptLoop }
  | signal {a} : Effect setup s a { s with shutdown := true }
  | stats {a stats} (effect : StatsPipeline.Effect setup.toStatsSetup s.stats stats)
      (inside : s.stats.NothingIn stats) (oneshot : stats.shutdown = s.stats.shutdown) :
      Effect setup s a { s with stats }
  | traces {a traces} (effect : TracePipeline.Effect s.traces traces) :
      Effect setup s a { s with traces }
  | supervise {a} (supervisor : Supervisor) (notOk : supervisor ≠ .returned true) :
      Effect setup s a { s with supervisor }
  | fireShutdown {a} (ended : s.acceptLoop.hasEnded = true) :
      Effect setup s a { s with supervisor := .awaitingFlusher, stats := s.stats.fireShutdown }
  | returnsOk (phase : s.stats.phase = .returned) :
      Effect setup s .serveSeesFlusher { s with supervisor := .returned true }

theorem closed_of_allClosed {s : MiniAgent D R X G K H L W} (h : s.allClosed = true) :
    ∀ i < s.connections, s.handler i = .closed := by
  intro i lt
  have closed := List.all_eq_true.1 h i (List.mem_range.2 lt)
  split at closed
  next phase => exact phase
  next => cases closed

section Handler

variable [DecidableEq L] {setup : MiniAgentSetup D R X G K H W} {s s' : MiniAgent D R X G K H L W}
  {i : Nat} {a : Action H L}

/-- A handler goes on and leaves the pipelines as they are, permits apart. -/
theorem effect_turn {p : HandlerPhase D R X G H L} (running : s.handler i ≠ .closed)
    (plain : ∀ answer, p = .answering answer → answer.response.Plain) :
    Effect setup s a (s.setHandler i p) := by
  refine .handler i p running rfl rfl rfl rfl .idle rfl (.refl _) ?_ (fun _ h => .inl h)
  intro answer e
  exact ⟨fun h => absurd h (plain answer e).1, fun h => absurd h (plain answer e).2⟩

theorem effect_end {p : HandlerPhase D R X G H L} (running : s.handler i ≠ .closed)
    (plain : ∀ answer, p = .answering answer → answer.response.Plain) :
    Effect setup s a (s.endHandler i p) := by
  have traces : TracePipeline.Effect s.traces (s.endHandler i p).traces := by
    simp only [endHandler]
    split
    · exact TracePipeline.effect_permit _
    · exact .refl _
  refine .handler i p running rfl rfl rfl rfl .idle rfl traces ?_ (fun _ h => .inl h)
  intro answer e
  exact ⟨fun h => absurd h (plain answer e).1, fun h => absurd h (plain answer e).2⟩

omit [DecidableEq L] in
theorem plain_of_eq {answer answer' : Answer} (plain : answer.response.Plain)
    (h : (.answering answer : HandlerPhase D R X G H L) = .answering answer') :
    answer'.response.Plain := by
  cases h
  exact plain

omit [DecidableEq L] in
theorem plain_begin {config : Config} {req : HttpRequest H} {answer : Answer}
    (h : (.begin config req : HandlerPhase D R X G H L) = .answering answer) :
    answer.response.Plain := by
  unfold HandlerPhase.begin at h
  split at h
  next =>
    split at h <;> cases h
    next refused => exact plain_of_verify refused
  next =>
    split at h
    next => cases h
    next =>
      split at h <;> cases h
      next refused => exact plain_of_verify refused
  next => cases h

theorem effect_of_resume {clock : Nat} (h : s.resume setup i clock = some s') :
    Effect setup s a s' := by
  unfold resume at h
  split at h
  next response phase =>
    cases h
    exact effect_turn (by simp [phase]) (fun _ => plain_of_eq response.2)
  next req phase =>
    split at h <;> cases h
    · exact effect_turn (by simp [phase]) (fun _ => plain_of_eq (HttpResponse.plain_badStats _))
    · exact effect_turn (by simp [phase]) (by simp)
  next stats phase =>
    split at h
    · cases h
      exact effect_turn (by simp [phase]) (fun _ => plain_of_eq HttpResponse.plain_statsNotSent)
    split at h <;> cases h
    refine .handler i _ (by simp [phase]) rfl rfl rfl rfl (.push stats) rfl (.refl _) ?_
      (fun _ h => .inl h)
    rintro answer e
    cases e
    refine ⟨fun _ => ⟨_, ?_, rfl⟩, ?_⟩
    · simp [StatsPipeline.push]
    · intro same
      exact absurd same HttpResponse.statsBuffered_ne_tracesBuffered
  next req phase =>
    split at h <;> cases h
    exact .handler i _ (by simp [phase]) rfl rfl rfl rfl .idle rfl (TracePipeline.effect_permit _)
      (by simp) (fun _ h => .inl h)
  next req phase =>
    split at h <;> cases h
    next refused =>
      exact effect_end (by simp [phase]) (fun _ => plain_of_eq (plain_of_decodeTraces refused))
    next => exact effect_turn (by simp [phase]) (by simp)
  next decoded phase =>
    cases h
    exact effect_turn (by simp [phase]) (by simp)
  next phase =>
    cases h
    exact effect_end (by simp [phase]) (by simp)
  next decoded chunk metadata left phase =>
    cases h
    exact .handler i _ (by simp [phase]) rfl rfl rfl rfl (.addChunk chunk metadata)
      (StatsPipeline.addChunk_shutdown ..) (.refl _) (by simp) (fun _ h => .inl h)
  next decoded phase =>
    split at h <;> cases h
    · exact effect_end (by simp [phase]) (by simp)
    · refine .handler i _ (by simp [phase]) rfl rfl rfl rfl .idle rfl
        (TracePipeline.effect_spawn _) ?_ (fun _ h => .inl h)
      rintro answer e
      cases e
      refine ⟨?_, fun _ => ⟨_, ?_, rfl⟩⟩
      · intro same
        exact absurd same.symm HttpResponse.statsBuffered_ne_tracesBuffered
      · simp [TracePipeline.spawn]
  next phase =>
    cases h
    exact effect_turn (by simp [phase]) (by simp)
  next => cases h

end Handler

theorem effect_of_act [DecidableEq L] {setup : MiniAgentSetup D R X G K H W}
    {s s' : MiniAgent D R X G K H L W} {a : Action H L} (h : s.act setup a = some s') :
    Effect setup s a s' := by
  cases a with
  | shutdown =>
    cases h
    exact .signal
  | accept =>
    simp only [act] at h
    split at h <;> cases h
    next accepting => exact .accept accepting
  | acceptError =>
    simp only [act] at h
    split at h <;> cases h
    next accepting => exact .loop .failed (by simp [accepting, AcceptLoop.hasEnded]) nofun
  | loopSeesShutdown =>
    simp only [act] at h
    split at h <;> cases h
    next accepting _ => exact .loop .draining (by simp [accepting, AcceptLoop.hasEnded]) nofun
  | loopSeesPanic i =>
    simp only [act] at h
    split at h <;> cases h
    next going _ => exact .loop .failed going nofun
  | loopDrained =>
    simp only [act] at h
    split at h <;> cases h
    next draining joined =>
      exact .loop .drained (by simp [draining, AcceptLoop.hasEnded])
        (fun _ => closed_of_allClosed joined)
  | request i req =>
    simp only [act] at h
    split at h <;> cases h
    next phase => exact effect_turn (by simp [phase]) (fun _ => plain_begin)
  | resume i clock => exact effect_of_resume h
  | permitTimeout i =>
    simp only [act] at h
    split at h <;> cases h
    next phase => exact effect_turn (by simp [phase]) nofun
  | answer i =>
    simp only [act] at h
    split at h <;> cases h
    next answer phase =>
      refine .handler i .idle (by simp [phase]) rfl rfl rfl rfl .idle rfl (.refl _) nofun ?_
      intro other h
      rcases List.mem_append.1 h with old | new
      · exact .inl old
      · exact .inr (by rw [phase, List.mem_singleton.1 new])
  | close i =>
    simp only [act] at h
    split at h <;> cases h
    next _ running _ => exact effect_end running nofun
  | panic i =>
    simp only [act] at h
    split at h <;> cases h
    next _ running _ => exact effect_end running nofun
  | stats action =>
    obtain ⟨stats, ran, rfl⟩ := Option.map_eq_some_iff.1 h
    obtain ⟨inside, oneshot⟩ := StatsPipeline.nothingIn_of_step ran
    exact .stats (StatsPipeline.effect_of_step ran) inside oneshot
  | traces action =>
    obtain ⟨traces, ran, rfl⟩ := Option.map_eq_some_iff.1 h
    exact .traces (TracePipeline.effect_of_step ran)
  | serveSeesShutdown =>
    simp only [act] at h
    split at h <;> cases h
    exact .supervise .awaitingTransport (by decide)
  | serveSeesDeath =>
    simp only [act] at h
    split at h <;> cases h
    exact .supervise (.returned false) (by decide)
  | serveSeesTransport =>
    simp only [act] at h
    split at h <;> cases h
    next _ ended => exact .fireShutdown ended
  | serveSeesFlusher =>
    simp only [act] at h
    split at h <;> cases h
    next _ phase => exact .returnsOk phase
    next => exact .supervise (.returned false) (by decide)

theorem act_of_step [DecidableEq L] {setup : MiniAgentSetup D R X G K H W}
    {s s' : MiniAgent D R X G K H L W} {a : Action H L} (h : s.step setup a = some s') :
    (∀ ok, s.supervisor ≠ .returned ok) ∧ s.act setup a = some s' := by
  unfold step at h
  split at h
  next => cases h
  next running => exact ⟨running, h⟩

/-- Only seeing the end of the stats flusher makes `serve` return `Ok`, and it changes nothing
else. -/
theorem serveSeesFlusher_of_ok [DecidableEq L] {setup : MiniAgentSetup D R X G K H W}
    {s s' : MiniAgent D R X G K H L W} {a : Action H L} (ok : s'.supervisor = .returned true)
    (h : s.step setup a = some s') :
    a = .serveSeesFlusher ∧ s.stats.phase = .returned ∧
      s' = { s with supervisor := .returned true } := by
  obtain ⟨running, h⟩ := act_of_step h
  cases effect_of_act h with
  | handler i p _ _ _ _ supervisor => exact absurd (supervisor.symm.trans ok) (running true)
  | supervise supervisor notOk => exact absurd ok notOk
  | fireShutdown ended => cases ok
  | returnsOk phase => exact ⟨rfl, phase, rfl⟩
  | _ => exact absurd ok (running true)

/-! ## Answers and what they stand for -/

/-- Every promise, written or about to be, is backed. -/
structure Promises (s : MiniAgent D R X G K H L W) : Prop where
  answered : ∀ answer ∈ s.answered, Backed s answer
  answering : ∀ i answer, s.handler i = .answering answer → Backed s answer

section Promises

variable {s s' : MiniAgent D R X G K H L W}

theorem Backed.mono {answer : Answer} (h : Backed s answer)
    (stats : s.stats.buffered <+: s'.stats.buffered)
    (traces : s.traces.spawned <+: s'.traces.spawned) : Backed s' answer := by
  refine ⟨?_, ?_⟩
  · intro promised
    obtain ⟨place, lt, e⟩ := h.stats promised
    exact ⟨place, lt.trans_le stats.length_le, e⟩
  · intro promised
    obtain ⟨round, lt, e⟩ := h.traces promised
    exact ⟨round, lt.trans_le traces.length_le, e⟩

/-- The pipelines have grown, and a connection that is answering now was so before. -/
theorem Promises.mono (h : s.Promises) (stats : s.stats.buffered <+: s'.stats.buffered)
    (traces : s.traces.spawned <+: s'.traces.spawned) (answered : s'.answered = s.answered)
    (answering : ∀ i answer, s'.handler i = .answering answer → s.handler i = .answering answer) :
    s'.Promises := by
  refine ⟨?_, ?_⟩
  · intro answer mem
    exact (h.answered answer (answered ▸ mem)).mono stats traces
  · intro i answer phase
    exact (h.answering i answer (answering i answer phase)).mono stats traces

theorem promises_init (rescueState : W) :
    Promises (init rescueState : MiniAgent D R X G K H L W) :=
  ⟨by simp [init], by simp [init]⟩

variable [DecidableEq L] {setup : MiniAgentSetup D R X G K H W}

theorem promises_effect {a : Action H L} (start : s.Promises) (effect : Effect setup s a s') :
    s'.Promises := by
  cases effect with
  | handler i p running handler connections acceptLoop supervisor stats oneshot traces now before =>
    have grown {answer : Answer} (h : Backed s answer) : Backed s' answer :=
      h.mono (StatsPipeline.buffered_prefix stats) (TracePipeline.spawned_prefix traces)
    refine ⟨?_, ?_⟩
    · intro answer h
      rcases before answer h with old | new
      · exact grown (start.answered answer old)
      · exact grown (start.answering i answer new)
    · intro j answer h
      rw [handler] at h
      by_cases same : j = i
      · subst same
        exact now answer (by simpa using h)
      · exact grown (start.answering j answer (by simpa [same] using h))
  | accept accepting =>
    refine start.mono List.prefix_rfl List.prefix_rfl rfl ?_
    intro j answer h
    by_cases same : j = s.connections
    · subst same
      simp [setHandler] at h
    · simpa [setHandler, same] using h
  | stats effect =>
    exact start.mono (StatsPipeline.buffered_prefix effect) List.prefix_rfl rfl (fun _ _ => id)
  | traces effect =>
    exact start.mono List.prefix_rfl (TracePipeline.spawned_prefix effect) rfl (fun _ _ => id)
  | _ => exact start.mono List.prefix_rfl List.prefix_rfl rfl (fun _ _ => id)

end Promises

end MiniAgent

end ServerlessComponents.TraceAgent
