import ServerlessComponents.TraceAgent.Feeds

/-!
# Where the stats come from

`/info` tells the tracers whether they may drop traces of priority 0, which they do when the stats
are theirs. The same setting decides in `main` whether the concentrator service is started and in
`process_stats` whether the tracers' stats are taken. Spans are counted once because the three agree
in every run: either the tracers' stats are shipped or those of the agent, never both.

## Main results

* `one_stats_source` — all stats that are shipped come from the side that `/info` announces.
-/
namespace ServerlessComponents.TraceAgent

variable {D R X G K H L W : Type}

/-! ## What `/info` announces -/

def TRACE_ENDPOINT_PATH : String := "/v0.4/traces"
def STATS_ENDPOINT_PATH : String := "/v0.6/stats"
def INFO_ENDPOINT_PATH : String := "/info"
def DSM_ENDPOINT_PATH : String := "/v0.1/pipeline_stats"
def PROFILING_ENDPOINT_PATH : String := "/profiling/v1/input"

/-- The ports and the pipe that `/info` names. -/
structure InfoConfig where
  receiverPort : Nat
  statsdPort : Nat
  receiverSocket : String
  deriving DecidableEq, Repr

structure Info where
  endpoints : List String
  clientDropP0s : Bool
  spanKindsStatsComputed : List String
  peerTags : List String
  config : InfoConfig
  deriving DecidableEq, Repr

def infoHandler (spanKindsStatsComputed : List String) (ddApmReceiverPort : Nat)
    (ddApmWindowsPipeName : Option String) (ddDogstatsdPort : Nat) (peerTags : List String)
    (agentStatsComputationEnabled : Bool) : Info where
  endpoints := [TRACE_ENDPOINT_PATH, STATS_ENDPOINT_PATH, INFO_ENDPOINT_PATH, DSM_ENDPOINT_PATH,
    PROFILING_ENDPOINT_PATH]
  clientDropP0s := !agentStatsComputationEnabled
  spanKindsStatsComputed := spanKindsStatsComputed
  peerTags := peerTags
  config := ⟨ddApmReceiverPort, ddDogstatsdPort, ddApmWindowsPipeName.getD ""⟩

/-- `main` starts the concentrator service when the agent computes the stats. -/
def MiniAgentSetup.startedByMain (setup : MiniAgentSetup D R X G K H W) :
    MiniAgentSetup D R X G K H W :=
  { setup with statsConcentrator := setup.config.agentStatsComputationEnabled }

/-! ## The two sides of the stats pipeline -/

namespace StatsPipeline

/-- No stats of a tracer have been in the pipeline. -/
structure ClientFree (s : StatsPipeline D R G K L) : Prop where
  channel : s.channel = []
  buffer : s.buffer = []
  flushing : ∀ forceFlush clientStats, s.phase = .flushing forceFlush clientStats → clientStats = []
  given : ∀ shipment ∈ s.given, shipment.clientComputed = false
  buffered : s.buffered = []

/-- No chunk has been handed to the concentrator, and it was never asked for its stats. -/
structure AgentFree (s : StatsPipeline D R G K L) : Prop where
  commands : s.commands = []
  reply : s.reply = none
  given : ∀ shipment ∈ s.given, shipment.clientComputed = true
  handed : s.handed = []

variable [DecidableEq L] {setup : StatsSetup D R G K} {s s' : StatsPipeline D R G K L}

/-- `send_stats_payload` is called with stats to send. -/
theorem given_of_step {a : StatsAction L} (h : s.step setup a = some s') :
    ∀ shipment ∈ s'.given, shipment ∈ s.given ∨ shipment.stats ≠ [] := by
  have gave (t : StatsPipeline D R G K L) (shipment : Shipment G) (next : StatsFlusherPhase G)
      (some_ : shipment.stats ≠ []) :
      ∀ other ∈ (t.give setup shipment next).given, other ∈ t.given ∨ other.stats ≠ [] := by
    intro other mem
    rw [(gives_give setup t shipment next).given] at mem
    rcases List.mem_append.1 mem with old | new
    · exact .inl old
    · exact .inr (List.mem_singleton.1 new ▸ some_)
  cases a <;> simp only [step] at h
  case flushClients =>
    split at h <;> cases h
    next => exact fun _ => .inl
    next forceFlush clientStats some_ phase => exact gave s _ _ some_
  case takeReply =>
    split at h <;> cases h
    next => exact fun _ => .inl
    next forceFlush agentStats some_ phase reply => exact gave { s with reply := none } _ _ some_
  all_goals
    repeat' split at h
    all_goals cases h
    all_goals exact fun _ => .inl

omit [DecidableEq L] in
/-- The client stats that are being flushed are none after a call of `send_stats_payload`. -/
theorem Gives.flushing {shipment : Shipment G} {next : StatsFlusherPhase G}
    (gives : s.Gives shipment next setup s')
    (after : ∀ forceFlush clientStats, next ≠ .flushing forceFlush clientStats) :
    ∀ forceFlush clientStats, s'.phase = .flushing forceFlush clientStats → clientStats = [] := by
  intro forceFlush clientStats h
  rcases gives.phase with phase | phase
  · exact absurd (phase.symm.trans h) (after forceFlush clientStats)
  · cases phase.symm.trans h

/-- The pipeline's own steps send nothing on the channel, so they keep the tracers' stats out. -/
theorem clientFree_step {a : StatsAction L} (start : s.ClientFree)
    (h : s.step setup a = some s') : s'.ClientFree := by
  have some_ := given_of_step h
  have inside := (nothingIn_of_step h).1.buffered
  obtain ⟨channel, buffer, flushing, given, buffered⟩ := start
  cases effect_of_step h with
  | push stats => exact absurd inside (by simp [push])
  | addChunk chunk metadata =>
    unfold addChunk
    split <;> exact ⟨channel, buffer, flushing, given, buffered⟩
  | recv stats rest _ full => cases channel.symm.trans full
  | tick =>
    refine ⟨channel, rfl, ?_, given, buffered⟩
    intro forceFlush clientStats h
    cases h
    exact buffer
  | drained =>
    refine ⟨channel, rfl, ?_, given, buffered⟩
    intro forceFlush clientStats h
    cases h
    exact buffer
  | giveClients forceFlush clientStats phase gives =>
    -- it would be a call for no stats at all, which is not made
    have new : (⟨true, clientStats⟩ : Shipment G) ∈ s'.given := by simp [gives.given]
    rcases some_ _ new with old | some_
    · exact absurd (given _ old) (by simp)
    · exact absurd (flushing forceFlush clientStats phase) some_
  | giveAgentStats forceFlush agentStats phase reply gives =>
    refine ⟨gives.channel.trans channel, gives.buffer.trans buffer, gives.flushing ?_, ?_,
      gives.buffered.trans buffered⟩
    · intro forceFlush clientStats h
      cases h
    · intro shipment mem
      rw [gives.given] at mem
      rcases List.mem_append.1 mem with old | new
      · exact given shipment old
      · rw [List.mem_singleton.1 new]
  | fireShutdown => exact ⟨channel, buffer, flushing, given, buffered⟩
  | idle => exact ⟨channel, buffer, flushing, given, buffered⟩
  | serveChunk => exact ⟨channel, buffer, flushing, given, buffered⟩
  | serveFlush => exact ⟨channel, buffer, flushing, given, buffered⟩
  | _ =>
    refine ⟨channel, buffer, ?_, given, buffered⟩
    intro forceFlush clientStats h
    cases h

/-- Without the concentrator service nothing reaches it, whoever acts on the pipeline. -/
theorem agentFree_effect (absent : setup.statsConcentrator = false) (start : s.AgentFree)
    (effect : Effect setup s s') : s'.AgentFree := by
  obtain ⟨commands, reply, given, handed⟩ := start
  cases effect with
  | addChunk chunk metadata =>
    simp only [addChunk, absent, Bool.false_eq_true, if_false]
    exact ⟨commands, reply, given, handed⟩
  | giveClients forceFlush clientStats phase gives =>
    refine ⟨gives.commands.trans commands, gives.reply.trans reply, ?_, gives.handed.trans handed⟩
    intro shipment mem
    rw [gives.given] at mem
    rcases List.mem_append.1 mem with old | new
    · exact given shipment old
    · rw [List.mem_singleton.1 new]
  | request _ _ started => cases absent.symm.trans started
  | serveChunk _ _ _ _ some_ => cases commands.symm.trans some_
  | serveFlush _ _ _ some_ => cases commands.symm.trans some_
  | noAgentStats _ _ some_ => cases reply.symm.trans some_
  | giveAgentStats _ _ _ some_ => cases reply.symm.trans some_
  | _ => exact ⟨commands, reply, given, handed⟩

end StatsPipeline

namespace MiniAgent

variable [DecidableEq L] {setup : MiniAgentSetup D R X G K H W} {s s' : MiniAgent D R X G K H L W}
  {a : Action H L} {stats : StatsPipeline D R G K L} {traces : TracePipeline (SendData D R X H)}

/-! ## One source -/

/-- All stats that are shipped come from one side, the tracers' if they may drop traces, and nothing
of the other side is in the pipeline; no payload is shipped empty. -/
def ShipsFrom (clientDropP0s : Bool) (s : MiniAgent D R X G K H L W) : Prop :=
  (∀ shipment ∈ s.stats.given, shipment.clientComputed = clientDropP0s ∧ shipment.stats ≠ []) ∧
    if clientDropP0s then s.stats.handed = [] ∧ s.stats.commands = []
    else s.stats.buffered = [] ∧ ∀ answer ∈ s.answered, answer.response ≠ .statsBuffered

/-- One side of the pipeline is unused: the tracers' when the agent computes the stats, with no
handler on its way to it, and otherwise the concentrator's. -/
structure OneSided (setup : MiniAgentSetup D R X G K H W) (s : MiniAgent D R X G K H L W) :
    Prop where
  clients : setup.config.agentStatsComputationEnabled = true →
    s.stats.ClientFree ∧ ∀ j, ¬ (s.handler j).carriesStats
  agent : setup.config.agentStatsComputationEnabled = false → s.stats.AgentFree
  some_ : ∀ shipment ∈ s.stats.given, shipment.stats ≠ []

omit [DecidableEq L] in
theorem oneSided_init (rescueState : W) :
    OneSided setup (init rescueState : MiniAgent D R X G K H L W) where
  clients _ := ⟨⟨rfl, rfl, nofun, by simp [init], rfl⟩, by simp [init, HandlerPhase.carriesStats]⟩
  agent _ := ⟨rfl, rfl, by simp [init], rfl⟩
  some_ := by simp [init]

theorem effect_of_feeds (feeds : Feeds setup s stats traces) :
    StatsPipeline.Effect setup.toStatsSetup s.stats stats := by
  cases feeds with
  | fireShutdown => exact .fireShutdown
  | chunk chunk metadata => exact .addChunk chunk metadata
  | clientStats i stats => exact .push stats
  | stats action ran => exact StatsPipeline.effect_of_step ran
  | _ => exact .idle

theorem clientFree_feeds (start : s.stats.ClientFree) (idle : ∀ j, ¬ (s.handler j).carriesStats)
    (feeds : Feeds setup s stats traces) : stats.ClientFree := by
  cases feeds with
  | fireShutdown => exact ⟨start.channel, start.buffer, start.flushing, start.given, start.buffered⟩
  | chunk chunk metadata =>
    unfold StatsPipeline.addChunk
    split <;> exact ⟨start.channel, start.buffer, start.flushing, start.given, start.buffered⟩
  | clientStats i stats carries => exact absurd carries (idle i)
  | stats action ran => exact StatsPipeline.clientFree_step start ran
  | _ => exact start

theorem some_feeds (start : ∀ shipment ∈ s.stats.given, shipment.stats ≠ [])
    (feeds : Feeds setup s stats traces) : ∀ shipment ∈ stats.given, shipment.stats ≠ [] := by
  cases feeds with
  | chunk chunk metadata =>
    unfold StatsPipeline.addChunk
    split <;> exact start
  | stats action ran =>
    intro shipment mem
    exact (StatsPipeline.given_of_step ran shipment mem).elim (start shipment) id
  | _ => exact start

theorem oneSided_step (wired : setup.statsConcentrator = setup.config.agentStatsComputationEnabled)
    (start : s.OneSided setup) (h : s.step setup a = some s') : s'.OneSided setup := by
  obtain ⟨feeds, carries⟩ := feeds_of_act (act_of_step h).2
  refine ⟨?_, ?_, some_feeds start.some_ feeds⟩
  · intro on
    obtain ⟨clients, idle⟩ := start.clients on
    refine ⟨clientFree_feeds clients idle feeds, ?_⟩
    intro j carried
    rcases (carries j).stats carried with before | off
    · exact idle j before
    · exact absurd on (by simp [off])
  · intro off
    exact StatsPipeline.agentFree_effect (wired.trans off) (start.agent off) (effect_of_feeds feeds)

theorem promises_step (start : s.Promises) (h : s.step setup a = some s') : s'.Promises :=
  promises_effect start (effect_of_act (act_of_step h).2)

omit [DecidableEq L] in
theorem shipsFrom_of_oneSided (sided : s.OneSided setup) (promises : s.Promises) :
    s.ShipsFrom !setup.config.agentStatsComputationEnabled := by
  cases computes : setup.config.agentStatsComputationEnabled with
  | false =>
    obtain ⟨commands, -, given, handed⟩ := sided.agent computes
    exact ⟨fun shipment mem => ⟨given shipment mem, sided.some_ shipment mem⟩, handed, commands⟩
  | true =>
    obtain ⟨⟨-, -, -, given, buffered⟩, -⟩ := sided.clients computes
    refine ⟨fun shipment mem => ⟨given shipment mem, sided.some_ shipment mem⟩, buffered, ?_⟩
    intro answer mem promised
    obtain ⟨place, lt, -⟩ := (promises.answered answer mem).stats promised
    simp [buffered] at lt

/-- In every run of the agent as `main` starts it, all stats that are shipped come from the side
that `/info` announces to the tracers. -/
theorem one_stats_source (setup : MiniAgentSetup D R X G K H W) (rescueState : W)
    (actions : List (Action H L)) (s : MiniAgent D R X G K H L W)
    (run : Runs.exec (step setup.startedByMain) (init rescueState) actions = some s)
    (spanKinds : List String) (receiverPort statsdPort : Nat) (pipeName : Option String)
    (peerTags : List String) :
    s.ShipsFrom (infoHandler spanKinds receiverPort pipeName statsdPort peerTags
      setup.config.agentStatsComputationEnabled).clientDropP0s := by
  obtain ⟨sided, promises⟩ := Runs.invariant
    (P := fun s : MiniAgent D R X G K H L W => s.OneSided setup.startedByMain ∧ s.Promises)
    (fun _ _ _ start h => ⟨oneSided_step rfl start.1 h, promises_step start.2 h⟩)
    ⟨oneSided_init rescueState, promises_init rescueState⟩ run
  have ships := shipsFrom_of_oneSided sided promises
  exact ships

/-- An agent that takes the tracers' stats. -/
def tracerStatsSetup : MiniAgentSetup Unit Unit Unit Unit Unit Unit Unit where
  config := ⟨"", 1000, false, none, some "key"⟩
  utils :=
    { getStatsFromRequestBody := fun _ =>
        .ok ⟨"", "", "", [], "", "", "", 0, "", "", "", [], "", "", 0, ""⟩
      constructStatsPayload := fun stats => ⟨"", "", stats, "", true, false⟩
      serializeStatsPayload := fun _ => .ok [] }
  concentrator := ⟨fun _ => (), fun _ _ => (), fun _ _ _ => ([], ())⟩
  statsConcentrator := true
  traceUtils :=
    { Traces := Unit
      getTracesFromRequestBody := fun _ => .error ""
      collectPbTraceChunks := fun _ _ => .error ""
      getRootSpanIndex := fun _ => .error ""
      encodedLen := fun _ => 0 }
  rescue := fun w payload _ => some (payload, w)

/-- A tracer posts its stats, and they are flushed. -/
def postAndFlush : List (Action Unit Unit) :=
  [.accept, .request 0 ⟨"POST", "/v0.6/stats", ⟨some (some "1"), false, ()⟩, .ok []⟩, .resume 0 0,
    .resume 0 0, .answer 0, .stats .recv, .stats .tick, .stats .flushClients]

theorem one_stats_source_tracer :
    ∃ s, Runs.exec (step tracerStatsSetup.startedByMain) (init ()) postAndFlush = some s ∧
      s.stats.given.length = 1 ∧ s.ShipsFrom true :=
  ⟨_, rfl, rfl, one_stats_source tracerStatsSetup () postAndFlush _ rfl [] 8126 8125 none []⟩

end MiniAgent

end ServerlessComponents.TraceAgent
